-- SUMMARY: A streaming session as a state and the steps that its parts can take.
import Switchboard.Actor.Basic
import Switchboard.Frame.Framing
import Switchboard.Http.Request
import Switchboard.Run

/-!
# Sessions

A session has a receive half and a send half with a bounded queue between them.
The receive half decodes messages, dispatches each to the actor, and queues the
answer; handlers queue messages of their own meanwhile. The send half writes what
is queued. With `spawn` every message is served by a task of its own, otherwise
the receive half serves one after the other.

Two signals end a session. `cancelled` stops both halves at once; what is queued
is lost. `drained` lets the send half empty the queue first; the receive half
gives it after a clean end of input, once all tasks are finished.

`Session.step` says what each part can do in a state and what comes of it. The
parts interleave freely: a run is any sequence of actions.
-/

namespace Switchboard.Session

/-! ## What arrives -/

inductive Kind where
  | lines (greeting : Bool)
  | grpc
  | webSocket
deriving DecidableEq, Repr

/-- What has arrived and is not yet taken: octets in which frames are to be
found, or packets of one message each. -/
inductive Inbound where
  | frames (d : FrameDecoder) (ending : BodyEnd)
  | packets (ps : List Octets) (ending : BodyEnd)
deriving DecidableEq, Repr

/-- What the receive half meets next. -/
inductive Arrival where
  | message (m : Message)
  | bad
  | over
deriving DecidableEq, Repr

namespace Inbound

def ofResult : Except FrameError (Option Message) → Arrival
  | .ok (some m) => .message m
  | .ok none => .over
  | .error _ => .bad

/-- The next arrival, unless it has yet to come. -/
def next : Inbound → Option (Inbound × Arrival)
  | .frames d ending =>
    match d.decode, ending with
    | (d, .ok none), .complete => let (d, r) := d.decodeEnd; some (.frames d ending, ofResult r)
    | (d, .ok none), .broken => some (.frames d ending, .bad)
    | (_, .ok none), .pending => none
    | (d, r), _ => some (.frames d ending, ofResult r)
  | .packets (p :: ps) ending =>
    match Message.parse p with
    | .ok m => some (.packets ps ending, .message m)
    | .error _ => some (.packets ps ending, .bad)
  | .packets [] .complete => some (.packets [] .complete, .over)
  | .packets [] .broken => some (.packets [] .broken, .bad)
  | .packets [] .pending => none

def feed (s : Octets) : Inbound → Inbound
  | .frames d .pending => .frames (d.feed s) .pending
  | .packets ps .pending => .packets (ps ++ [s]) .pending
  | i => i

def close (ending : BodyEnd) : Inbound → Inbound
  | .frames d .pending => .frames d ending
  | .packets ps .pending => .packets ps ending
  | i => i

end Inbound

/-! ## State -/

/-- How far the serving of one message has come. -/
inductive Task where
  | running (s : Script Answer)
  | sleeping (deadline : Nat) (s : Script Answer)
  /-- Waits for room in the queue. -/
  | answering (m : Message)
  | finished

def Task.isFinished : Task → Bool
  | .finished => true
  | _ => false

inductive Receiver where
  | reading
  | serving (t : Task)
  /-- A frame could not be decoded; the failure is yet to be noted. -/
  | refused
  | closing (clean : Bool)
  /-- The close handler has run; the send half is yet to be told. -/
  | releasing (clean : Bool)
  | ended

inductive Sender where
  | greeting
  | streaming
  | trailing
  | ended
deriving DecidableEq, Repr

/-- What does not change while a session lasts. -/
structure Setup where
  actor : Actor
  connection : Connection
  kind : Kind
  capacity : Nat
  spawn : Bool

structure State where
  inbound : Inbound
  receiver : Receiver := .reading
  tasks : List Task := []
  queue : List Message := []
  /-- The send half still takes messages off the queue. -/
  queueOpen : Bool := true
  sender : Sender := .streaming
  cancelled : Bool := false
  drained : Bool := false
  /-- A frame could not be decoded. -/
  failed : Bool := false
  now : Nat := 0

/-- What a step shows to the outside. -/
inductive Event where
  | dispatched (m : Message)
  /-- The close handler has run; it noted this. -/
  | closed (notes : List String)
  | frame (s : Octets)
  | trailers (h : Headers)
  /-- The peer sees the end of what is written. -/
  | ended
deriving DecidableEq, Repr

/-- Who does what. A task is named by its number; the receive half has none. -/
inductive Action where
  | arrive (s : Octets)
  | endInput (ending : BodyEnd)
  | shutdown
  /-- The peer no longer reads. -/
  | hangUp
  | pass (ms : Nat)
  | receive
  | stopReading
  | noteFailure
  | close
  | release
  | run (task : Option Nat)
  | dropAnswer (task : Option Nat)
  | greet
  | write
  | finish
  | trail
deriving DecidableEq, Repr

/-! ## Tasks -/

def State.queued (s : State) (m : Message) : State := { s with queue := s.queue ++ [m] }

/-- What a task does next, if it need not wait. -/
def Task.run (u : Setup) (s : State) : Task → Option (State × Task)
  | .running (.done (.ok (some m))) => some (s, .answering m)
  | .running (.done _) => some (s, .finished)
  | .running (.push m next) =>
    if !s.queueOpen then some (s, .running (next false))
    else if s.queue.length < u.capacity then some (s.queued m, .running (next true))
    else none
  | .running (.askClosed next) => some (s, .running (next !s.queueOpen))
  | .running (.sleep ms next) => some (s, .sleeping (s.now + ms) next)
  | .sleeping deadline next => if deadline ≤ s.now then some (s, .running next) else none
  | .answering m =>
    if !s.queueOpen then some (s, .finished)
    else if s.queue.length < u.capacity then some (s.queued m, .finished)
    else none
  | .finished => none

/-- An answer that still waits when the session is cancelled is dropped. -/
def Task.drop (s : State) : Task → Option Task
  | .answering _ => if s.cancelled then some .finished else none
  | _ => none

def State.task? (s : State) : Option Nat → Option Task
  | some i => s.tasks[i]?
  | none =>
    match s.receiver with
    | .serving t => some t
    | _ => none

/-- The receive half reads on when its task is finished. -/
def State.withTask (s : State) (t : Task) : Option Nat → State
  | some i => { s with tasks := s.tasks.set i t }
  | none => { s with receiver := if t.isFinished then .reading else .serving t }

/-! ## Steps -/

def greetingLine : Octets := Text.octets "\x7b\"method\":\"hello\",\"params\":[]\x7d\n"

/-- The octets that carry a message on a session. -/
def Kind.encode (m : Message) : Kind → Except FrameError Octets
  | .lines _ => Framing.encode Framing.defaultLimit m .lines
  | .grpc => Framing.encode Framing.defaultLimit m .grpc
  | .webSocket => .ok m.encode

def statusTrailers (failed : Bool) : Headers :=
  if failed then [("grpc-status", "13"), ("grpc-message", "bad frame")] else [("grpc-status", "0")]

/-- The receive half takes what arrives next. -/
def receive (u : Setup) (s : State) : Option (State × List Event) :=
  match s.inbound.next with
  | none => none
  | some (inbound, .message m) =>
    let t := Task.running (u.actor.feed ⟨m, u.connection⟩)
    let s := { s with inbound }
    some (if u.spawn then { s with tasks := s.tasks ++ [t] } else { s with receiver := .serving t },
      [.dispatched m])
  | some (inbound, .bad) => some ({ s with inbound, receiver := .refused }, [])
  | some (inbound, .over) => some ({ s with inbound, receiver := .closing (u.kind ≠ .webSocket) }, [])

/-- The send half stops for good. -/
def State.cutOff (s : State) (sender : Sender) : State :=
  { s with sender, queue := [], queueOpen := false, cancelled := true }

def step (u : Setup) (s : State) : Action → Option (State × List Event)
  | .arrive octets => some ({ s with inbound := s.inbound.feed octets }, [])
  | .endInput ending => some ({ s with inbound := s.inbound.close ending }, [])
  | .shutdown => some ({ s with cancelled := true }, [])
  | .hangUp => if s.sender = .ended then none else some (s.cutOff .ended, [])
  | .pass ms => some ({ s with now := s.now + ms }, [])
  | .receive =>
    match s.receiver with
    | .reading => receive u s
    | _ => none
  | .stopReading =>
    match s.receiver, s.cancelled with
    | .reading, true => some ({ s with receiver := .closing (u.kind ≠ .webSocket) }, [])
    | _, _ => none
  | .noteFailure =>
    match s.receiver with
    | .refused => some ({ s with receiver := .closing false, failed := true }, [])
    | _ => none
  | .close =>
    match s.receiver with
    | .closing clean =>
      if clean && !s.cancelled && !s.tasks.all Task.isFinished then none
      else some ({ s with receiver := .releasing clean }, [.closed (u.actor.close u.connection)])
    | _ => none
  | .release =>
    match s.receiver with
    | .releasing true => some ({ s with receiver := .ended, drained := true }, [])
    | .releasing false => some ({ s with receiver := .ended, cancelled := true }, [])
    | _ => none
  | .run task => do
    let (s, t) ← (← s.task? task).run u s
    return (s.withTask t task, [])
  | .dropAnswer task => do
    let t ← (← s.task? task).drop s
    return (s.withTask t task, [])
  | .greet =>
    if s.sender = .greeting then some ({ s with sender := .streaming }, [.frame greetingLine]) else none
  | .write =>
    match s.sender, s.queue with
    | .streaming, m :: queue =>
      if s.cancelled && u.kind ≠ .webSocket then none
      else some ({ s with queue }, match u.kind.encode m with | .ok f => [.frame f] | .error _ => [])
    | _, _ => none
  | .finish =>
    if s.sender = .streaming && (s.cancelled || (s.drained && s.queue.isEmpty)) then
      match u.kind with
      | .grpc => some (s.cutOff .trailing, [])
      | _ => some (s.cutOff .ended, [.ended])
    else none
  | .trail =>
    if s.sender = .trailing then
      some ({ s with sender := .ended }, [.trailers (statusTrailers s.failed), .ended])
    else none

/-- A session that has just been opened. -/
def opened (u : Setup) (inbound : Inbound) : State :=
  { inbound, sender := if u.kind = .lines true then .greeting else .streaming }

/-- What a sequence of actions leads to and shows, if each can be taken. -/
abbrev run (u : Setup) (s : State) (as : List Action) : Option (State × List Event) :=
  Step.run (step u) s as

end Switchboard.Session
