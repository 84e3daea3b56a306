-- SUMMARY: Actors: registration of handlers and dispatch of messages.
import Switchboard.Actor.Handler

/-!
# Actors

An actor maps methods to handlers. A method can be registered once, and so can
the handler for messages that no method claims and the one that hears of closed
sessions. A schema that is attached to a method is checked by the actor's
validator before the handler runs, unless checking is turned off.

`Actor.feed` dispatches one message. A request is always answered, by exactly
one message; anything else never is, and its failures are reported to the
session alone.
-/

namespace Switchboard

/-- Where a message departs from a schema, and how. -/
structure SchemaFault where
  path : String
  hint : String
deriving DecidableEq, Repr

namespace SchemaFault

def display (f : SchemaFault) : String := f.path ++ " " ++ f.hint

def toError (f : SchemaFault) : RpcError := .badSchema ("Validation Error: " ++ f.display)

end SchemaFault

/-- Checks a message against a schema. -/
abbrev Validator := (schema : Json) → Message → Option SchemaFault

/-- A slot that holds one handler beside the methods. -/
inductive Slot where
  | missing
  | close
deriving DecidableEq, Repr

def Slot.name : Slot → String
  | .missing => "missing"
  | .close => "close"

/-- Why a handler was not registered. -/
inductive RegistrationError where
  | duplicate (method : String)
  | taken (slot : Slot)
deriving DecidableEq, Repr

def RegistrationError.message : RegistrationError → String
  | .duplicate method => "handler for method " ++ method ++ " already exist"
  | .taken slot => slot.name ++ " handler already exist"

/-- Why a message that is no request came to nothing. -/
inductive DispatchError where
  | failed (method text : String)
  | rejected (method text : String)
  | crashed (method : String)
deriving DecidableEq, Repr

def DispatchError.message : DispatchError → String
  | .failed method text => "notify " ++ method ++ " failed: " ++ text
  | .rejected method text => "notify " ++ method ++ " rejected by schema: " ++ text
  | .crashed method => "handler for " ++ method ++ " panicked"

/-- What dispatching a message comes to: an answer, none, or an error to record. -/
abbrev Answer := Except DispatchError (Option Message)

structure Entry where
  handler : Handler
  schema : Option Json := none
  shape : Option HandlerShape := none

structure Actor where
  entries : Keyed Entry := []
  missing : Option Handler := none
  /-- What is noted about a session that has closed. -/
  onClose : Option (Connection → String) := none
  validator : Option Validator := none
  verify : Bool := true

namespace Actor

def empty : Actor := {}

/-! ## Registration -/

def register (method : String) (entry : Entry) (a : Actor) : Except RegistrationError Actor :=
  if Keyed.contains method a.entries then .error (.duplicate method)
  else .ok { a with entries := Keyed.insert method entry a.entries }

def registerMissing (h : Handler) (a : Actor) : Except RegistrationError Actor :=
  match a.missing with
  | some _ => .error (.taken .missing)
  | none => .ok { a with missing := some h }

def registerClose (note : Connection → String) (a : Actor) : Except RegistrationError Actor :=
  match a.onClose with
  | some _ => .error (.taken .close)
  | none => .ok { a with onClose := some note }

/-- The registered methods in increasing order. -/
def methods (a : Actor) : List String := Keyed.keys a.entries

def hasMethod (method : String) (a : Actor) : Bool := Keyed.contains method a.entries

/-- The types that the handler of a method declares, if it is a typed one. -/
def shape? (method : String) (a : Actor) : Option HandlerShape :=
  (Keyed.find? method a.entries).bind Entry.shape

/-! ## Dispatch -/

/-- Where a message goes. -/
inductive Target where
  | handler (h : Handler)
  /-- The schema of its method rejects it. -/
  | rejected (f : SchemaFault)
  /-- Nothing claims it. -/
  | unclaimed

/-- The fault that the schema of a method finds, if it is to be checked. -/
def schemaFault? (a : Actor) (e : Entry) (m : Message) : Option SchemaFault :=
  match a.verify, e.schema, a.validator with
  | true, some schema, some validate => validate schema m
  | _, _, _ => none

/-- The entry of the method that a call names. -/
def entry? (a : Actor) (m : Message) : Option Entry :=
  m.method?.bind fun method => Keyed.find? method a.entries

def target (a : Actor) (m : Message) : Target :=
  match a.entry? m with
  | some e =>
    match a.schemaFault? e m with
    | some f => .rejected f
    | none => .handler e.handler
  | none =>
    match a.missing with
    | some h => .handler h
    | none => .unclaimed

/-- What an error is called when there is no method to name. -/
def label (m : Message) : String := m.method?.getD m.kind

/-- The answer to a message whose handler has ended. -/
def conclude (m : Message) (o : Outcome Reply) : Answer :=
  match m.content with
  | .request id _ _ =>
    let answer (c : Content) : Answer := .ok (some { content := c, traceId := m.traceId })
    match o with
    | .returned (.message reply) => .ok (some reply)
    | .returned (.value v) => answer (.result id v)
    | .failed f => answer (.error id (f.rpc?.getD ErrorCode.internalError.toError))
    | .crashed => answer (.error id ErrorCode.internalError.toError)
  | _ =>
    match o with
    | .returned _ => .ok none
    | .failed f => .error (.failed (label m) f.display)
    | .crashed => .error (.crashed (label m))

/-- The answer to a message that its schema rejects. -/
def reject (m : Message) (f : SchemaFault) : Answer :=
  match m.refuse? f.toError with
  | some reply => .ok (some reply)
  | none => .error (.rejected (label m) f.display)

/-- Dispatches one message. -/
def feed (a : Actor) (c : Call) : Script Answer :=
  match a.target c.message with
  | .handler h => (h c c.params).map (conclude c.message)
  | .rejected f => .done (reject c.message f)
  | .unclaimed => .done (.ok (c.message.refuse? ErrorCode.methodNotFound.toError))

/-- Notes that a session has closed. -/
def close (a : Actor) (c : Connection) : List String := (a.onClose.map fun note => note c).toList

end Actor

end Switchboard
