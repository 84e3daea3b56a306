-- SUMMARY: What a client reads and whom it gives each message to.
import Switchboard.Client.Streaming
import Switchboard.Proofs.History

/-!
# Deliveries

Three histories of a run: the requests as the client admits them, what arrives on
its connections, and what it makes of each message that it reads. The last is the
list of its deliveries: a message goes to the caller whose pending entry it matches,
and if there is none, or the caller has given up, to the callback.
-/

namespace Switchboard.Streaming

/-! ## Requests -/

/-- A request as the client takes it: a call without a usable id gets the next fresh one. -/
def State.admitted (u : Setup) (s : State) : Request → Request
  | .call m headers =>
    if m.isRequest && State.isBlankId m.id? then
      .call (m.withId (.text (u.freshId s.drawn))) headers
    else .call m headers
  | r => r

def admits (u : Setup) (s : State) : Action → List Request
  | .start r => [s.admitted u r]
  | _ => []

/-- The requests of a run, in the order of the callers. -/
def requests (u : Setup) (s : State) (as : List Action) : List Request :=
  Step.history (step u) (admits u) s as

/-! ## Reading and writing -/

def Read.message? : Read → Option Message
  | .message m => some m
  | _ => none

@[simp] theorem message?_message (m : Message) : (Read.message m).message? = some m := rfl

@[simp] theorem message?_nothing : Read.nothing.message? = none := rfl

@[simp] theorem message?_fault (e : ClientError) : (Read.fault e).message? = none := rfl

/-- A list that is read off a connection, empty if there is none. -/
def State.ofLink {α : Type} (view : Link → List α) (s : State) (k : Nat) : List α :=
  ((s.links[k]?).map view).getD []

/-- What arrived on a connection and is yet to be read. -/
def State.inbound (s : State) (k : Nat) : List Read := s.ofLink Link.inbound k

def Sender.inHand : Sender → List Message
  | .writing m => [m]
  | _ => []

def Link.outbound (l : Link) : List Message := l.sender.inHand ++ l.queue

/-- What is yet to be written to a connection. -/
def State.outbound (s : State) (k : Nat) : List Message := s.ofLink Link.outbound k

/-- What arrives on a connection that there is. -/
def arriving (s : State) : Action → List (Nat × Read)
  | .arrive k r => if k < s.links.length then [(k, r)] else []
  | _ => []

/-- What the receive half of a connection takes off what arrived there. -/
def Link.reads (l : Link) : LinkAction → List Read
  | .receive | .crash _ =>
    match l.receiver, l.inbound with
    | .reading, r :: _ => [r]
    | _, _ => []
  | _ => []

/-- What a connection reads. -/
def reading (s : State) : Action → List (Nat × Read)
  | .link k b => (s.ofLink (fun l => l.reads b) k).map fun r => (k, r)
  | _ => []

/-- What arrives in a run, on all connections. -/
def arrivals (u : Setup) (s : State) (as : List Action) : List (Nat × Read) :=
  Step.history (step u) arriving s as

/-! ## Deliveries -/

/-- A call that is registered and has not failed may yet be handed its answer. -/
def Phase.listens : Phase → Bool
  | .enqueuing _ | .awaiting _ => true
  | _ => false

def Phase.isAwaiting : Phase → Bool
  | .awaiting _ => true
  | _ => false

/-- A message that was read, and what becomes of it. -/
structure Delivery where
  link : Nat
  message : Message
  /-- The caller whose pending entry it matches. -/
  waiter : Option Nat := none
  /-- The caller to whom it is handed. -/
  taker : Option Nat := none
  /-- The request of that caller had been queued by then. -/
  queued : Bool := false
  /-- The message as it is passed on. -/
  passed : Message
  /-- The callback, to which it goes if nobody takes it. -/
  callback : Option String
deriving DecidableEq, Repr

/-- The caller that waits for a message. -/
def State.waiting? (s : State) (m : Message) : Option (Nat × Caller) :=
  (s.waiter? m).bind fun w => (s.callers[w.2]?).map fun c => (w.2, c)

/-- What becomes of a message that is read in this state. -/
def State.delivery (s : State) (link : Nat) (message : Message) : Delivery :=
  match s.waiting? message with
  | none => { link, message, passed := message, callback := s.callback }
  | some (i, c) =>
    { link, message, waiter := some i
      taker := if c.phase.listens then some i else none
      queued := c.phase.isAwaiting
      passed := ((c.request.id?).map fun id => message.withId id).getD message
      callback := s.callback }

def delivering (s : State) (a : Action) : List Delivery :=
  (reading s a).filterMap fun r => r.2.message?.map (s.delivery r.1)

/-- What a client makes of the messages that it reads in a run. -/
def deliveries (u : Setup) (s : State) (as : List Action) : List Delivery :=
  Step.history (step u) delivering s as

section
variable {u : Setup} {s t : State} {as : List Action} {es : List Event}
  (h : run u s as = some (t, es)) (a : Action)
include h

theorem requests_concat : requests u s (as ++ [a]) = requests u s as ++ admits u t a :=
  Step.history_concat (admits u) h a

theorem arrivals_concat : arrivals u s (as ++ [a]) = arrivals u s as ++ arriving t a :=
  Step.history_concat arriving h a

theorem deliveries_concat : deliveries u s (as ++ [a]) = deliveries u s as ++ delivering t a :=
  Step.history_concat delivering h a

end

/-! ## What concerns one caller, or one connection -/

/-- The ids under which a caller's request has been registered. -/
def wires (i : Nat) (es : List Event) : List RequestId :=
  es.filterMap fun
    | .registered j wire => if j = i then some wire else none
    | _ => none

/-- How a caller's request has come out. -/
def outcomes (i : Nat) (es : List Event) : List Outcome :=
  es.filterMap fun
    | .finished j o => if j = i then some o else none
    | _ => none

/-- The ids that have been registered for all callers. -/
def allWires (es : List Event) : List RequestId :=
  es.filterMap fun
    | .registered _ wire => some wire
    | _ => none

/-- What the callbacks have been given. -/
def calledBack (es : List Event) : List (String × Message) :=
  es.filterMap fun
    | .calledBack name m => some (name, m)
    | _ => none

def handedTo (i : Nat) (ds : List Delivery) : List Delivery := ds.filter fun d => d.taker = some i

/-- What a delivery leaves to the callback. -/
def Delivery.left (d : Delivery) : List (String × Message) :=
  if d.taker.isSome then [] else (d.callback.map fun name => (name, d.passed)).toList

/-- The entries of one connection. -/
def onLink {α : Type} (k : Nat) (es : List (Nat × α)) : List α :=
  es.filterMap fun e => if e.1 = k then some e.2 else none

section
variable (i k : Nat) {α : Type}

@[simp] theorem wires_append (es fs : List Event) : wires i (es ++ fs) = wires i es ++ wires i fs :=
  List.filterMap_append

@[simp] theorem outcomes_append (es fs : List Event) :
    outcomes i (es ++ fs) = outcomes i es ++ outcomes i fs :=
  List.filterMap_append

@[simp] theorem allWires_append (es fs : List Event) :
    allWires (es ++ fs) = allWires es ++ allWires fs :=
  List.filterMap_append

@[simp] theorem calledBack_append (es fs : List Event) :
    calledBack (es ++ fs) = calledBack es ++ calledBack fs :=
  List.filterMap_append

@[simp] theorem handedTo_append (ds ds' : List Delivery) :
    handedTo i (ds ++ ds') = handedTo i ds ++ handedTo i ds' :=
  List.filter_append ..

@[simp] theorem wires_registered (j : Nat) (wire : RequestId) :
    wires i [.registered j wire] = if j = i then [wire] else [] := by
  by_cases h : j = i <;> simp [wires, h]

@[simp] theorem outcomes_finished (j : Nat) (o : Outcome) :
    outcomes i [.finished j o] = if j = i then [o] else [] := by
  by_cases h : j = i <;> simp [outcomes, h]

@[simp] theorem handedTo_singleton (d : Delivery) :
    handedTo i [d] = if d.taker = some i then [d] else [] := by
  by_cases h : d.taker = some i <;> simp [handedTo, h]

@[simp] theorem onLink_append (es fs : List (Nat × α)) : onLink k (es ++ fs) = onLink k es ++ onLink k fs :=
  List.filterMap_append

end

end Switchboard.Streaming
