-- SUMMARY: A streaming client as a state and the steps that its callers and connections can take.
import Switchboard.Client.Config
import Switchboard.Message.Basic
import Switchboard.Run
import Switchboard.Url.Basic

/-!
# Streaming clients

A client keeps at most one connection up, in its slot. Callers share it: who needs
a connection and finds none dials one, and while somebody dials, all others wait
for the slot. A connection has a send half, which takes messages off a bounded
queue, and a receive half, which hands answers to the calls that wait for them and
everything else to the callback. When one half ends, so does the other.

The callback runs on the receive half. It is the program's own, and it may panic: then
the receive half is gone on the spot and cleans nothing up, while the send half goes on
(`LinkAction.crash`).

A call travels under a fresh id. `pending` says which caller waits for which id;
all connections of a client share this table, and a receive half that ends empties
it. Writing and reading are up to the transport: `write` and `writeFault` say how
a write ends, `arrive` what there is to read.

`Streaming.step` says what everybody can do in a state and what comes of it. The
parts interleave freely: a run is any sequence of actions.
-/

namespace Switchboard.Streaming

/-! ## Connections -/

/-- What reading a connection yields. -/
inductive Read where
  | message (m : Message)
  /-- A frame that carries no message. -/
  | nothing
  | fault (e : ClientError)
deriving DecidableEq, Repr

inductive Sender where
  | idle
  | writing (m : Message)
  /-- A write has failed; the connection is yet to be cancelled. -/
  | failing
  | ended
deriving DecidableEq, Repr

/-- The receive half, and once it reads no more, the error that stopped it: none
if the connection was cancelled. -/
inductive Receiver where
  | reading
  | leaving (e : Option ClientError)
  /-- The connection is cancelled; the pending table is yet to be emptied. -/
  | clearing (e : Option ClientError)
  /-- Waits for the send half. -/
  | joining (e : Option ClientError)
  | closing (e : Option ClientError)
  /-- The transport is closed; this is how the connection ended. -/
  | ended (e : Option ClientError)
  /-- The callback has panicked; this is what the runtime says of the task. -/
  | crashed (text : String)
deriving DecidableEq, Repr

structure Link where
  inbound : List Read := []
  queue : List Message := []
  cancelled : Bool := false
  /-- The error of the write that failed. -/
  failure : Option ClientError := none
  sender : Sender := .idle
  receiver : Receiver := .reading
  /-- Somebody waits, or has waited, for the end. -/
  claimed : Bool := false
deriving DecidableEq, Repr

/-! ## Callers -/

/-- What a caller asks of the client. Headers go with the dial, if there is one. -/
inductive Request where
  | connect (headers : Headers)
  | call (m : Message) (headers : Headers)
  | send (m : Message)
  /-- Until the connection has ended. -/
  | wait
  | close
deriving DecidableEq, Repr

namespace Request

def needsLink : Request → Bool
  | .connect _ | .call .. | .send _ => true
  | .wait | .close => false

def headers : Request → Headers
  | .connect h | .call _ h => h
  | _ => []

/-- The id that a caller expects on its answer. -/
def id? : Request → Option RequestId
  | .call m _ => m.id?
  | _ => none

end Request

inductive Outcome where
  | done
  | answered (m : Message)
  | failed (e : ClientError)
deriving DecidableEq, Repr

/-- What is told of a connection that has ended so. -/
def Outcome.ofEnd : Option ClientError → Outcome
  | none => .done
  | some e => .failed e

/-- What is told of a receive half that is over. -/
def Receiver.report? : Receiver → Option Outcome
  | .ended e => some (.ofEnd e)
  | .crashed text => some (.failed (.transport ("receive task failed: " ++ text)))
  | _ => none

/-- A registered call. -/
structure Exchange where
  link : Nat
  /-- The id under which the request travels. -/
  wire : RequestId
  deadline : Nat
  /-- The answer, once it is handed over. -/
  handed : Option Message := none
deriving DecidableEq, Repr

inductive Phase where
  /-- For the slot. -/
  | waiting
  | dialing (deadline : Nat)
  | registering (link : Nat)
  | enqueuing (x : Exchange)
  | awaiting (x : Exchange)
  /-- The call has failed; its entry is yet to be removed. -/
  | withdrawing (x : Exchange) (e : ClientError)
  | sending (link : Nat)
  | joining (link : Nat)
  | finished (o : Outcome)
deriving DecidableEq, Repr

structure Caller where
  request : Request
  /-- The caller no longer wants its answer. -/
  cancelled : Bool := false
  phase : Phase := .waiting
deriving DecidableEq, Repr

/-! ## State -/

/-- What does not change while a client lives. -/
structure Setup where
  url : Url
  config : ClientConfig
  /-- The ids that the client draws, one after the other. -/
  freshId : Nat → String

/-- A queue holds one message at least. -/
def Setup.capacity (u : Setup) : Nat := max 1 u.config.queueSize

structure State where
  extraHeaders : Headers
  /-- The name of the callback. -/
  callback : Option String := none
  /-- The latest connection. -/
  slot : Option Nat := none
  /-- The connection by which the client tells whether it is connected. -/
  live : Option Nat := none
  /-- The caller that dials and holds the slot meanwhile. -/
  dialing : Option Nat := none
  /-- Which caller waits for the answer to which id. -/
  pending : Keyed Nat := []
  links : List Link := []
  callers : List Caller := []
  /-- So many ids have been drawn. -/
  drawn : Nat := 0
  now : Nat := 0
deriving DecidableEq, Repr

/-- What a step shows to the outside. -/
inductive Event where
  /-- A transport is asked to connect. -/
  | dialed (headers : Headers)
  /-- The request of a call will travel under this id. -/
  | registered (caller : Nat) (wire : RequestId)
  | sent (link : Nat) (m : Message)
  | calledBack (callback : String) (m : Message)
  | finished (caller : Nat) (o : Outcome)
  /-- The transport of a connection has been closed. -/
  | closed (link : Nat)
deriving DecidableEq, Repr

inductive CallerAction where
  /-- The connection in the slot will do. -/
  | reuse
  | dial
  /-- There is not even a transport to dial with. -/
  | noTransport (e : ClientError)
  | established
  | refused (e : ClientError)
  | register
  | enqueue
  /-- Before the message was queued its connection was cancelled. -/
  | disconnect
  | giveUp
  /-- A deadline has passed before anything else. -/
  | expire
  /-- Looks whether there is an answer, or none to be expected any more. -/
  | settle
  | withdraw
  | claim
  | join
  | shut
deriving DecidableEq, Repr

inductive LinkAction where
  | take
  | write
  | writeFault (e : ClientError)
  | abort
  | quit
  | receive
  /-- Reads a message of which the callback makes a panic. -/
  | crash (text : String)
  | stop
  /-- Cancels the connection. -/
  | cancel
  | clear
  | joinSender
  | hangUp
deriving DecidableEq, Repr

inductive Action where
  | start (r : Request)
  | cancel (caller : Nat)
  | setHeaders (h : Headers)
  | setCallback (name : String)
  | arrive (link : Nat) (r : Read)
  | pass (ms : Nat)
  /-- The client itself is given up. -/
  | discard
  | caller (i : Nat) (a : CallerAction)
  | link (i : Nat) (a : LinkAction)
deriving DecidableEq, Repr

namespace State

def isUp (s : State) (link : Nat) : Bool := (s.links[link]?).any fun l => !l.cancelled

/-- The connection in the slot, if it is up. -/
def usable? (s : State) : Option Nat := s.slot.filter s.isUp

def isConnected (s : State) : Bool := s.live.any s.isUp

def updateLink (i : Nat) (f : Link → Link) (s : State) : State :=
  { s with links := s.links.modify i f }

def cancelLink (i : Nat) (s : State) : State := s.updateLink i fun l => { l with cancelled := true }

/-- Cancels the connection in the slot. -/
def cancelSlot (s : State) : State :=
  match s.slot with
  | some i => s.cancelLink i
  | none => s

def moveTo (i : Nat) (p : Phase) (s : State) : State :=
  { s with callers := s.callers.modify i fun c => { c with phase := p } }

def finish (i : Nat) (o : Outcome) (s : State) : State × List Event :=
  (s.moveTo i (.finished o), [.finished i o])

/-- How a caller's request has come out. -/
def outcome? (s : State) (i : Nat) : Option Outcome :=
  match (s.callers[i]?).map Caller.phase with
  | some (.finished o) => some o
  | _ => none

/-! ## Starting -/

def add (c : Caller) (s : State) : State := { s with callers := s.callers ++ [c] }

/-- An id that names nothing. -/
def isBlankId : Option RequestId → Bool
  | some .null => true
  | some (.text t) => t = ""
  | _ => false

/-- Only a request can be called, and it is given an id if it has none. -/
def start (u : Setup) (s : State) : Request → State × List Event
  | .call m headers =>
    if !m.isRequest then
      (s.add { request := .call m headers }).finish s.callers.length (.failed .notRequest)
    else if isBlankId m.id? then
      let m := m.withId (.text (u.freshId s.drawn))
      ({ s with drawn := s.drawn + 1 }.add { request := .call m headers }, [])
    else (s.add { request := .call m headers }, [])
  | r => (s.add { request := r }, [])

/-! ## Delivering -/

/-- The callback, if there is one, is called with the message. It need not return: it panics where the
receive half crashes (`LinkAction.crash`). -/
def callBack (s : State) (m : Message) : List Event :=
  (s.callback.map fun name => Event.calledBack name m).toList

/-- The caller that waits for an answer, and the key under which it is known. -/
def waiter? (s : State) (m : Message) : Option (String × Nat) :=
  if m.isAnswer then
    match m.id? with
    | some id => (s.pending.find? id.key).map fun i => (id.key, i)
    | none => none
  else none

/-- An answer goes to the caller that waits for it, under the caller's id, and
everything else to the callback. A caller that has given up, but whose entry was
still there, leaves its answer to the callback. -/
def deliver (s : State) (m : Message) : State × List Event :=
  match s.waiter? m with
  | none => (s, s.callBack m)
  | some (key, i) =>
    let s := { s with pending := s.pending.erase key }
    match s.callers[i]? with
    | none => (s, s.callBack m)
    | some c =>
      let m := match c.request.id? with
        | some id => m.withId id
        | none => m
      match c.phase with
      | .enqueuing x => (s.moveTo i (.enqueuing { x with handed := some m }), [])
      | .awaiting x => (s.moveTo i (.awaiting { x with handed := some m }), [])
      | _ => (s, s.callBack m)

end State

/-! ## Steps of callers -/

/-- What a caller does with its connection. -/
def connected (s : State) (i : Nat) (link : Nat) : Request → State × List Event
  | .call .. => (s.moveTo i (.registering link), [])
  | .send _ => (s.moveTo i (.sending link), [])
  | _ => s.finish i .done

/-- The slot is free, and the caller waits for it to get a connection. -/
def mayConnect (s : State) (c : Caller) : Bool :=
  c.phase = .waiting && s.dialing.isNone && c.request.needsLink

/-- Puts a message into the queue of a connection, if it has room or is closed. -/
def enqueue (u : Setup) (s : State) (link : Nat) (m : Message) : Option (Except ClientError State) :=
  match s.links[link]? with
  | none => none
  | some l =>
    if l.sender = .ended then some (.error .transportClosed)
    else if l.queue.length < u.capacity then
      some (.ok (s.updateLink link fun l => { l with queue := l.queue ++ [m] }))
    else none

/-- How a call ends that waits for its answer, if it need wait no longer. An answer
that was handed over comes first. -/
def settled? (s : State) (i : Nat) (c : Caller) (x : Exchange) : Option (Except ClientError Message) :=
  match x.handed with
  | some m => some (.ok m)
  | none =>
    if s.pending.find? x.wire.key ≠ some i then some (.error .transportClosed)
    else if c.cancelled then some (.error .cancelled)
    else if !s.isUp x.link then some (.error .transportClosed)
    else if x.deadline ≤ s.now then some (.error .timedOut)
    else none

def stepCaller (u : Setup) (s : State) (i : Nat) (c : Caller) :
    CallerAction → Option (State × List Event)
  | .reuse =>
    match s.usable? with
    | some link => if mayConnect s c then some (connected s i link c.request) else none
    | none => none
  | .dial =>
    if mayConnect s c && s.usable?.isNone then
      some ({ s with dialing := some i }.moveTo i (.dialing (s.now + u.config.timeouts.connect)),
        [.dialed (c.request.headers.insertAll s.extraHeaders)])
    else none
  | .noTransport e =>
    if mayConnect s c && s.usable?.isNone then some (s.finish i (.failed e)) else none
  | .established =>
    match c.phase with
    | .dialing _ =>
      let link := s.links.length
      some (connected { s with
        dialing := none, links := s.links ++ [{}], slot := some link, live := some link }
        i link c.request)
    | _ => none
  | .refused e =>
    match c.phase with
    | .dialing _ => some ({ s with dialing := none }.finish i (.failed e))
    | _ => none
  | .register =>
    match c.phase with
    | .registering link =>
      let wire := RequestId.text (u.freshId s.drawn)
      some ({ s with drawn := s.drawn + 1, pending := s.pending.insert wire.key i }.moveTo i
        (.enqueuing { link, wire, deadline := s.now + u.config.timeouts.request }),
        [.registered i wire])
    | _ => none
  | .enqueue =>
    match c.phase, c.request with
    | .enqueuing x, .call m _ =>
      (enqueue u s x.link (m.withId x.wire)).map fun
        | .ok s => (s.moveTo i (.awaiting x), [])
        | .error e => (s.moveTo i (.withdrawing x e), [])
    | .sending link, .send m =>
      (enqueue u s link m).map fun
        | .ok s => s.finish i .done
        | .error e => s.finish i (.failed e)
    | _, _ => none
  | .disconnect =>
    match c.phase with
    | .enqueuing x =>
      if s.isUp x.link then none else some (s.moveTo i (.withdrawing x .transportClosed), [])
    | .sending link => if s.isUp link then none else some (s.finish i (.failed .transportClosed))
    | _ => none
  | .giveUp =>
    match c.phase with
    | .enqueuing x => if c.cancelled then some (s.moveTo i (.withdrawing x .cancelled), []) else none
    | _ => none
  | .expire =>
    match c.phase, c.request with
    | .dialing deadline, _ =>
      if deadline ≤ s.now then
        some ({ s with dialing := none }.finish i
          (.failed (.connectFailed ("timed out connecting to " ++ u.url.text))))
      else none
    | .enqueuing x, .call m _ =>
      if x.deadline ≤ s.now && s.isUp x.link && !c.cancelled && (enqueue u s x.link m).isNone then
        some (s.moveTo i (.withdrawing x .timedOut), [])
      else none
    | _, _ => none
  | .settle =>
    match c.phase with
    | .awaiting x =>
      (settled? s i c x).map fun
        | .ok m => s.finish i (.answered m)
        | .error e => (s.moveTo i (.withdrawing x e), [])
    | _ => none
  | .withdraw =>
    match c.phase with
    | .withdrawing x e =>
      some ({ s with pending := s.pending.erase x.wire.key }.finish i (.failed e))
    | _ => none
  | .claim =>
    if c.phase = .waiting && s.dialing.isNone && c.request = .wait then
      match s.slot.filter fun k => (s.links[k]?).any fun l => !l.claimed with
      | some link =>
        some ((s.updateLink link fun l => { l with claimed := true }).moveTo i (.joining link), [])
      | none => some (s.finish i (.failed .notConnected))
    else none
  | .join =>
    match c.phase with
    | .joining link =>
      ((s.links[link]?).bind fun l => l.receiver.report?).map fun o => s.finish i o
    | _ => none
  | .shut =>
    if c.phase = .waiting && s.dialing.isNone && c.request = .close then
      some (s.cancelSlot.finish i .done)
    else none

/-! ## Steps of connections -/

def stepLink (s : State) (i : Nat) (l : Link) : LinkAction → Option (State × List Event)
  | .take =>
    match l.sender, l.queue with
    | .idle, m :: queue => some (s.updateLink i fun l => { l with sender := .writing m, queue }, [])
    | _, _ => none
  | .write =>
    match l.sender with
    | .writing m => some (s.updateLink i fun l => { l with sender := .idle }, [.sent i m])
    | _ => none
  | .writeFault e =>
    match l.sender with
    | .writing _ =>
      some (s.updateLink i fun l => { l with sender := .failing, failure := l.failure.or (some e) }, [])
    | _ => none
  | .abort =>
    match l.sender with
    | .failing =>
      some (s.updateLink i fun l => { l with sender := .ended, queue := [], cancelled := true }, [])
    | _ => none
  | .quit =>
    match l.sender, l.cancelled with
    | .idle, true => some (s.updateLink i fun l => { l with sender := .ended, queue := [] }, [])
    | _, _ => none
  | .receive =>
    match l.receiver, l.inbound with
    | .reading, .message m :: inbound =>
      some ((s.updateLink i fun l => { l with inbound }).deliver m)
    | .reading, .nothing :: inbound => some (s.updateLink i fun l => { l with inbound }, [])
    | .reading, .fault e :: inbound =>
      some (s.updateLink i fun l => { l with inbound, receiver := .leaving (some e) }, [])
    | _, _ => none
  | .crash text =>
    match l.receiver, l.inbound with
    | .reading, .message m :: inbound =>
      -- Only a message that goes to the callback can make it panic.
      if (s.deliver m).2.isEmpty then none
      else some ((s.updateLink i fun l => { l with inbound, receiver := .crashed text }).deliver m)
    | _, _ => none
  | .stop =>
    match l.receiver, l.cancelled with
    | .reading, true => some (s.updateLink i fun l => { l with receiver := .leaving none }, [])
    | _, _ => none
  | .cancel =>
    match l.receiver with
    | .leaving e =>
      some (s.updateLink i fun l => { l with receiver := .clearing e, cancelled := true }, [])
    | _ => none
  | .clear =>
    match l.receiver with
    | .clearing e =>
      some ({ s with pending := [] }.updateLink i fun l => { l with receiver := .joining e }, [])
    | _ => none
  | .joinSender =>
    match l.receiver, l.sender with
    | .joining e, .ended => some (s.updateLink i fun l => { l with receiver := .closing e }, [])
    | _, _ => none
  | .hangUp =>
    match l.receiver with
    | .closing e =>
      some (s.updateLink i fun l => { l with receiver := .ended (l.failure.or e) }, [.closed i])
    | _ => none

/-! ## Steps -/

def step (u : Setup) (s : State) : Action → Option (State × List Event)
  | .start r => some (s.start u r)
  | .cancel i =>
    some ({ s with callers := s.callers.modify i fun c => { c with cancelled := true } }, [])
  | .setHeaders h => some ({ s with extraHeaders := h }, [])
  | .setCallback name => some ({ s with callback := some name }, [])
  | .arrive i r => some (s.updateLink i fun l => { l with inbound := l.inbound ++ [r] }, [])
  | .pass ms => some ({ s with now := s.now + ms }, [])
  | .discard => some (s.cancelSlot, [])
  | .caller i a => (s.callers[i]?).bind fun c => stepCaller u s i c a
  | .link i a => (s.links[i]?).bind fun l => stepLink s i l a

/-- A client that has not been used. -/
def State.fresh (extraHeaders : Headers) : State := { extraHeaders }

/-- What a sequence of actions leads to and shows, if each can be taken. -/
abbrev run (u : Setup) (s : State) (as : List Action) : Option (State × List Event) :=
  Step.run (step u) s as

end Switchboard.Streaming
