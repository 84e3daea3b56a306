-- SUMMARY: A session played in virtual time, with one fixed interleaving of its parts.
import Switchboard.Gateway.Basic

/-!
# Rehearsing a session

A session admits many runs. A rehearsal picks one: every part goes on until it
has to wait before the next part takes its turn, first the receive half, then the
tasks, last the send half; who waits for room in the queue is served in the order
of waiting; and the clock moves only when nobody can go on.
-/

namespace Switchboard.Rehearsal

open Session (Action Event Setup State)

/-- A session together with the tasks that wait for room in its queue, the one
that has waited longest first. -/
structure Stage where
  state : State
  waiting : List (Option Nat) := []

/-- Who takes a turn. -/
inductive Part where
  | receiver
  | task (i : Nat)
  | sender

namespace Stage

/-- The first of the actions that can be taken. -/
def first (u : Setup) (g : Stage) : List Action → Option (Stage × List Event)
  | [] => none
  | a :: as =>
    match Session.step u g.state a with
    | some (state, es) => some ({ g with state }, es)
    | none => g.first u as

/-- The task is about to put something into the queue. -/
def isSending (g : Stage) (task : Option Nat) : Bool :=
  g.state.queueOpen && match g.state.task? task with
    | some (.answering _) | some (.running (.push ..)) => true
    | _ => false

/-- Lets a task go on, unless another one has waited longer for the queue. -/
def runTask (u : Setup) (g : Stage) (task : Option Nat) : Stage × Option (List Event) :=
  let queued : Stage :=
    if g.waiting.contains task then g else { g with waiting := g.waiting ++ [task] }
  if g.isSending task && g.waiting.head?.getD task ≠ task then (queued, none)
  else match Session.step u g.state (.run task) with
    | some (state, es) => ({ state, waiting := g.waiting.erase task }, some es)
    | none => (if g.isSending task then queued else g, none)

/-- One step of a part, if it need not wait. -/
def advance (u : Setup) (g : Stage) : Part → Stage × Option (List Event)
  | .receiver =>
    match g.first u [.stopReading, .receive, .noteFailure, .close, .release, .dropAnswer none] with
    | some (g, es) => (g, some es)
    | none => g.runTask u none
  | .task i =>
    match g.first u [.dropAnswer (some i)] with
    | some (g, es) => ({ g with waiting := g.waiting.erase (some i) }, some es)
    | none => g.runTask u (some i)
  | .sender =>
    match g.first u [.greet, .write, .finish, .trail] with
    | some (g, es) => (g, some es)
    | none => (g, none)

/-- The steps of a part until it has to wait, at most `fuel` of them; also says
whether there was one. -/
def exhaust (u : Setup) (part : Part) : (fuel : Nat) → Stage → Bool → Stage × List Event × Bool
  | 0, g, moved => (g, [], moved)
  | fuel + 1, g, moved =>
    match g.advance u part with
    | (g, some es) => let (g, fs, moved) := exhaust u part fuel g true; (g, es ++ fs, moved)
    | (g, none) => (g, [], moved)

/-- One turn for each of the parts. -/
def turns (u : Setup) (fuel : Nat) : List Part → Stage → Stage × List Event × Bool
  | [], g => (g, [], false)
  | p :: ps, g =>
    let (g, es, moved) := exhaust u p fuel g false
    let (g, fs, others) := turns u fuel ps g
    (g, es ++ fs, moved || others)

def parts (g : Stage) : List Part :=
  .receiver :: (List.range g.state.tasks.length).map .task

/-- Lets all parts go on until each of them has to wait. -/
def settle (u : Setup) (work : Nat) : (fuel : Nat) → Stage → Stage × List Event
  | 0, g => (g, [])
  | fuel + 1, g =>
    let (g, es, received) := exhaust u .receiver work g false
    let (g, fs, served) := turns u work ((g.parts).drop 1 ++ [.sender]) g
    if received || served then
      let (g, gs) := settle u work fuel g
      (g, es ++ fs ++ gs)
    else (g, es ++ fs)

/-- When the next sleeper wakes. -/
def alarm? (g : Stage) : Option Nat :=
  let all := (g.state.task? none).toList ++ g.state.tasks
  (all.filterMap fun
    | .sleeping deadline _ => if g.state.now < deadline then some deadline else none
    | _ => none).min?

def actWith (u : Setup) (a : Action) (g : Stage) : Stage × List Event :=
  match g.first u [a] with
  | some r => r
  | none => (g, [])

/-- Lets virtual time pass until the given moment. -/
def playUntil (u : Setup) (work : Nat) (moment : Nat) : (fuel : Nat) → Stage → Stage × List Event
  | 0, g => (g, [])
  | fuel + 1, g =>
    let (g, es) := g.settle u work work
    match g.alarm?.filter (· < moment) with
    | some t =>
      let (g, _) := g.actWith u (.pass (t - g.state.now))
      let (g, fs) := playUntil u work moment fuel g
      (g, es ++ fs)
    | none => ((g.actWith u (.pass (moment - g.state.now))).1, es)

end Stage

/-! ## Calls -/

/-- How long a script takes against a session that is closed or not. -/
def duration {ρ : Type} (closed : Bool) : Script ρ → Nat
  | .done _ => 0
  | .push _ next => duration closed (next !closed)
  | .askClosed next => duration closed (next closed)
  | .sleep ms next => ms + duration closed next

/-- Serves the call of a unary request, and says how long it takes. -/
def serveCall (a : Actor) (c : Call) : List Unary.Event × HttpResponse × Nat :=
  let script := a.feed c
  let (es, response) := Unary.serve a c (script.perform true).2
  (es, response, duration true script)

end Switchboard.Rehearsal
