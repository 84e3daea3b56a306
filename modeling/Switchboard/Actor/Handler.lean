-- SUMMARY: Handlers, and handlers over typed parameters.
import Switchboard.Actor.Connection
import Switchboard.Actor.Script
import Switchboard.Json.Convert

/-!
# Handlers

A handler takes a call and its positional parameters. A typed handler declares
the types of its parameters and of its result: the parameters are read first,
and the handler runs only if there are as many as declared and each can be read.
The first one that cannot is reported with its position, counted from 1.
-/

namespace Switchboard

/-- A message and the connection that brought it. -/
structure Call where
  message : Message
  connection : Connection
deriving Inhabited

def Call.params (c : Call) : List Json := c.message.positional

def Call.traceId (c : Call) : String := c.message.traceId

abbrev Handler := Call → List Json → Script (Outcome Reply)

/-- A type that a typed handler can declare. -/
inductive TypeTerm where
  | signed (bits : Nat)
  | unsigned (bits : Nat)
  | double
  | bool
  | char
  | text
  /-- A text that is known beforehand. -/
  | literal
  | unit
  | json
  | list (item : TypeTerm)
  | option (item : TypeTerm)
  | table (item : TypeTerm)
  | tuple (items : List TypeTerm)
  | record (name : String)
deriving Repr

/-- The types that a typed handler declares. -/
structure HandlerShape where
  params : List TypeTerm
  result : TypeTerm
deriving Repr

def HandlerShape.arity (s : HandlerShape) : Nat := s.params.length

/-! ## Typed parameters -/

/-- A type of parameters and how its values are read. -/
structure ParamType (α : Type) where
  type : TypeTerm
  read : Reading α

/-- A type of results and how its values are written. -/
structure ResultType (α : Type) where
  type : TypeTerm
  write : Writing α

/-- One value of each of the types. -/
def Args : List Type → Type
  | [] => Unit
  | α :: rest => α × Args rest

/-- How each of the types is read. -/
def ParamTypes : List Type → Type
  | [] => Unit
  | α :: rest => ParamType α × ParamTypes rest

def ParamTypes.terms : {ts : List Type} → ParamTypes ts → List TypeTerm
  | [], _ => []
  | _ :: _, (p, ps) => p.type :: terms ps

/-- The error of a parameter that cannot be read. -/
def unreadable (position : Nat) (e : ConversionError) : RpcError :=
  .badParams ("params " ++ Text.numeral position ++ " got unconvertible type: " ++ e.message)

/-- The parameters as values of their types, the first of them at the given
position. A parameter that is not there reads as null. -/
def ParamTypes.read : {ts : List Type} → ParamTypes ts → (position : Nat) → List Json →
    Except RpcError (Args ts)
  | [], _, _, _ => .ok ()
  | _ :: _, (p, ps), position, vs =>
    match p.read (vs.headD .null) with
    | .error e => .error (unreadable position e)
    | .ok a => (read ps (position + 1) vs.tail).map fun as => (a, as)

/-- A handler over typed parameters. -/
structure TypedHandler (ts : List Type) (ρ : Type) where
  params : ParamTypes ts
  result : ResultType ρ
  body : Call → Args ts → Script (Outcome ρ)

namespace TypedHandler

variable {ts : List Type} {ρ : Type}

def shape (h : TypedHandler ts ρ) : HandlerShape :=
  { params := h.params.terms, result := h.result.type }

/-- A result as a reply; one that cannot be written is a failure. -/
def reply (h : TypedHandler ts ρ) (o : Outcome ρ) : Outcome Reply :=
  o.bind fun r =>
    match h.result.write r with
    | .ok v => .returned (.value v)
    | .error e => .failed (.other e.message)

def toHandler (h : TypedHandler ts ρ) : Handler := fun call params =>
  if params.length ≠ ts.length then .done (.failed (.rpc (.badParams "different params size")))
  else
    match h.params.read 1 params with
    | .error e => .done (.failed (.rpc e))
    | .ok args => (h.body call args).map h.reply

end TypedHandler

end Switchboard
