-- SUMMARY: A streaming client played in virtual time against scripted peers.
import Switchboard.Client.Watch

/-!
# Rehearsing a client

A rehearsal picks one run of a streaming client. What each dial comes to is
written down beforehand; callers go on in the order in which they came, then the
connections, and who connects or closes comes last, but has the first turn when it
starts; the clock moves only when nobody can go on.
-/

namespace Switchboard.Rehearsal

open Streaming (Action CallerAction LinkAction Event Setup State)

/-! ## Peers -/

/-- What a dial comes to. -/
inductive Dial where
  | accept
  | acceptAfter (ms : Nat)
  | refuse
  | hang
  | fail (e : ClientError)
  /-- There is no transport to dial with. -/
  | noTransport (e : ClientError)
deriving DecidableEq, Repr

structure Peer where
  dial : Dial := .refuse
  /-- Reading fails so long after the connection is up. -/
  ending : Option (Nat × ClientError) := none
deriving DecidableEq, Repr

/-- A client and its surroundings. -/
structure Bench where
  client : State
  /-- The peers of the dials to come; when there are none left, dials are refused. -/
  peers : List Peer := []
  /-- The peer that is being dialed, and since when. -/
  dialed : Option (Peer × Nat) := none
  /-- The connections whose reading will fail, when, and how. -/
  endings : List (Nat × Nat × ClientError) := []
  /-- Writes do not come to an end. -/
  stalled : Bool := false
  /-- Writes fail so. -/
  writeFault : Option ClientError := none

namespace Bench

/-! ## Who can go on -/

def beginDial (b : Bench) : CallerAction :=
  match b.peers with
  | { dial := .noTransport e, .. } :: _ => .noTransport e
  | _ => .dial

/-- What the dial in progress has come to. -/
def dialResult (u : Setup) (b : Bench) : Option CallerAction :=
  match b.dialed with
  | none => none
  | some (peer, since) =>
    match peer.dial with
    | .accept => some .established
    | .acceptAfter ms => if since + ms ≤ b.client.now then some .established else none
    | .refuse => some (.refused (.connectFailed (u.url.text ++ " refused")))
    | .fail e => some (.refused e)
    | .hang | .noTransport _ => none

def callerActions (u : Setup) (b : Bench) : List CallerAction :=
  [.reuse, b.beginDial] ++ (b.dialResult u).toList ++
  [.register, .giveUp, .disconnect, .enqueue, .settle, .expire, .withdraw, .claim, .join, .shut]

def linkActions (b : Bench) : List LinkAction :=
  let write : List LinkAction :=
    if b.stalled then []
    else match b.writeFault with
      | some e => [.writeFault e]
      | none => [.write]
  [.quit, .take] ++ write ++ [.abort, .stop, .receive, .cancel, .clear, .joinSender, .hangUp]

/-- Who connects or closes comes last. -/
def comesLast : Streaming.Request → Bool
  | .connect _ | .close => true
  | _ => false

/-- The callers whose requests have not come out yet, by number. -/
def busy (b : Bench) : List (Nat × Streaming.Request) :=
  b.client.callers.zipIdx.filterMap fun (c, i) =>
    match c.phase with
    | .finished _ => none
    | _ => some (i, c.request)

/-- The connections that have not ended yet. -/
def running (b : Bench) : List Nat :=
  b.client.links.zipIdx.filterMap fun (l, i) =>
    match l.receiver with
    | .ended _ => none
    | _ => some i

/-- All that could be done next, in the order in which it is tried. -/
def actions (u : Setup) (b : Bench) : List Action :=
  let due := b.endings.filter fun e => e.2.1 ≤ b.client.now
  let (last, first) := b.busy.partition fun c => comesLast c.2
  let steps (c : Nat × Streaming.Request) : List Action := (b.callerActions u).map (.caller c.1)
  due.map (fun e => .arrive e.1 (.fault e.2.2))
    ++ first.flatMap steps
    ++ b.running.flatMap (fun i => b.linkActions.map (.link i))
    ++ last.flatMap steps

/-! ## Going on -/

/-- What an action means for the surroundings. -/
def follow (before : State) (b : Bench) : Action → Bench
  | .caller _ .dial => { b with dialed := some (b.peers.head?.getD {}, b.client.now), peers := b.peers.tail }
  | .caller _ (.noTransport _) => { b with peers := b.peers.tail }
  | .caller _ .established =>
    let ending := (b.dialed.bind fun (peer, _) => peer.ending).map fun (ms, e) =>
      (before.links.length, b.client.now + ms, e)
    { b with dialed := none, endings := b.endings ++ ending.toList }
  | .arrive link (.fault e) =>
    { b with endings := b.endings.filter fun x => !(x.1 = link && x.2.1 ≤ b.client.now && x.2.2 = e) }
  | _ => if b.client.dialing.isNone then { b with dialed := none } else b

def act (u : Setup) (b : Bench) (a : Action) : Option (Bench × List Event) :=
  (Streaming.step u b.client a).map fun (client, es) =>
    (follow b.client { b with client } a, es)

/-- Takes an action from outside. -/
def actWith (u : Setup) (a : Action) (b : Bench) : Bench × List Event := (b.act u a).getD (b, [])

/-- Takes the first of the actions that can be taken, again and again until there is none. -/
def exhaust (u : Setup) (actions : Bench → List Action) : (fuel : Nat) → Bench → Bench × List Event
  | 0, b => (b, [])
  | fuel + 1, b =>
    match (actions b).findSome? (b.act u) with
    | none => (b, [])
    | some (b, es) => let (b, fs) := exhaust u actions fuel b; (b, es ++ fs)

/-- Lets everybody go on until each has to wait. -/
def settle (u : Setup) (fuel : Nat) (b : Bench) : Bench × List Event :=
  b.exhaust u (actions u) fuel

/-- Lets one caller go on until it has to wait. -/
def goOn (u : Setup) (caller : Nat) (fuel : Nat) (b : Bench) : Bench × List Event :=
  b.exhaust u (fun b => (b.callerActions u).map (.caller caller)) fuel

/-- When the next clock rings. -/
def alarm? (b : Bench) : Option Nat :=
  let dial := b.dialed.bind fun (peer, since) =>
    match peer.dial with
    | .acceptAfter ms => some (since + ms)
    | _ => none
  let deadlines := b.client.callers.filterMap fun c =>
    match c.phase with
    | .dialing t => some t
    | .enqueuing x | .awaiting x => some x.deadline
    | _ => none
  ((dial.toList ++ deadlines ++ b.endings.map fun e => e.2.1).filter fun t => b.client.now < t).min?

def passTo (u : Setup) (t : Nat) (b : Bench) : Bench := (b.actWith u (.pass (t - b.client.now))).1

/-- Lets virtual time pass until the given moment. If it has come already, nobody gets to act. -/
def playUntil (u : Setup) (work : Nat) (moment : Nat) : (fuel : Nat) → Bench → Bench × List Event
  | 0, b => (b, [])
  | fuel + 1, b =>
    if moment ≤ b.client.now then (b, [])
    else
      let (b, es) := b.settle u work
      match b.alarm?.filter (· < moment) with
      | some t => let (b, fs) := playUntil u work moment fuel (b.passTo u t); (b, es ++ fs)
      | none => (b.passTo u moment, es)

/-- Lets virtual time pass until a caller has its outcome. -/
def playFor (u : Setup) (work : Nat) (caller : Nat) : (fuel : Nat) → Bench → Bench × List Event
  | 0, b => (b, [])
  | fuel + 1, b =>
    let (b, es) := b.settle u work
    match b.client.outcome? caller, b.alarm? with
    | none, some t => let (b, fs) := playFor u work caller fuel (b.passTo u t); (b, es ++ fs)
    | _, _ => (b, es)

/-- Starts a request and lets time pass until it has come out. -/
def request (u : Setup) (work : Nat) (r : Streaming.Request) (b : Bench) :
    Bench × List Event × Option Streaming.Outcome :=
  let i := b.client.callers.length
  let (b, es) := b.actWith u (.start r)
  let (b, fs) := b.goOn u i work
  let (b, gs) := if (b.client.outcome? i).isSome then (b, []) else b.playFor u work i work
  (b, es ++ fs ++ gs, b.client.outcome? i)

/-- The latest connection, whose peer can be asked to send. -/
def latest? (b : Bench) : Option Nat :=
  if b.client.links.isEmpty then none else some (b.client.links.length - 1)

/-- Somebody may yet read what arrives on a connection. -/
def isRead (b : Bench) (link : Nat) : Bool :=
  (b.client.links[link]?).any fun l => match l.receiver with | .ended _ => false | _ => true

end Bench

/-! ## Watches -/

/-- What is done when a watch has connected. -/
inductive Hook where
  | nothing
  | close
  | fail (e : ClientError)
  | send (m : Message)
  | sleep (ms : Nat)
deriving DecidableEq, Repr

structure Vigil where
  bench : Bench
  phase : Watch.Phase := .connecting 0
  hooks : List Hook := []
  /-- So many hooks have been run. -/
  connected : Nat := 0

namespace Vigil

def runHook (u : Setup) (work : Nat) (b : Bench) : Hook → Bench × List Event × Streaming.Outcome
  | .nothing => (b, [], .done)
  | .fail e => (b, [], .failed e)
  | .sleep ms => let (b, es) := b.playUntil u work (b.client.now + ms) work; (b, es, .done)
  | .close => let (b, es, o) := b.request u work .close; (b, es, o.getD .done)
  | .send m => let (b, es, o) := b.request u work (.send m); (b, es, o.getD .done)

/-- One move of the watch, after everybody else has gone on as far as possible. -/
def move (u : Setup) (p : RetryPolicy) (work : Nat) (v : Vigil) : Option (Vigil × List Event) :=
  match v.phase with
  | .announcing =>
    let (bench, es, o) := runHook u work v.bench (v.hooks.head?.getD .nothing)
    (Watch.step u p ⟨bench.client, v.phase⟩ (.hookEnded o)).map fun (s, fs) =>
      ({ bench := { bench with client := s.client }, phase := s.phase, hooks := v.hooks.tail,
         connected := v.connected + 1 }, es ++ fs)
  | _ =>
    (Watch.step u p ⟨v.bench.client, v.phase⟩ (.proceed 0)).map fun (s, es) =>
      ({ v with bench := { v.bench with client := s.client }, phase := s.phase }, es)

def alarm? (v : Vigil) : Option Nat :=
  let pause : Option Nat := match v.phase with
    | .pausing _ t => some t
    | _ => none
  (pause.toList ++ v.bench.alarm?.toList).min?

/-- Lets a watch go on until it ends or the given moment has come; each event comes
with its time. -/
def play (u : Setup) (p : RetryPolicy) (work : Nat) (horizon : Nat) :
    (fuel : Nat) → Vigil → Vigil × List (Nat × Event)
  | 0, v => (v, [])
  | fuel + 1, v =>
    let timed (b : Bench) (es : List Event) := es.map fun e => (b.client.now, e)
    let (bench, es) := v.bench.settle u work
    let v := { v with bench }
    match v.move u p work with
    | some (next, fs) =>
      let (last, gs) := play u p work horizon fuel next
      (last, timed bench es ++ timed next.bench fs ++ gs)
    | none =>
      match v.phase, v.alarm?.filter (· ≤ horizon) with
      | .ended _, _ | _, none => (v, timed bench es)
      | _, some t =>
        let (last, gs) := play u p work horizon fuel { v with bench := bench.passTo u t }
        (last, timed bench es ++ gs)

end Vigil

end Switchboard.Rehearsal
