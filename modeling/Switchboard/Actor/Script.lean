-- SUMMARY: What a running handler does, step by step, and how it ends.
import Switchboard.Message.Basic

/-!
# Scripts

A handler that has been called is a script: it pushes messages to the peer, asks
whether the session is closed, waits, and ends at last. Whoever runs the script
decides how its steps interleave with everything else; `Script.perform` runs it
in one go.

A handler returns, fails or crashes. A failure that carries an `RpcError` is
meant for the peer; every other one is not.
-/

namespace Switchboard

/-- Why a handler failed. -/
inductive Failure where
  | rpc (e : RpcError)
  | other (text : String)
deriving DecidableEq, Repr

namespace Failure

def display : Failure → String
  | .rpc e => e.display
  | .other text => text

/-- The error that is meant for the peer. -/
def rpc? : Failure → Option RpcError
  | .rpc e => some e
  | .other _ => none

/-- The failure of pushing where nobody listens. -/
def sessionClosed : Failure := .other "session closed"

end Failure

/-- How a handler ends. -/
inductive Outcome (α : Type) where
  | returned (a : α)
  | failed (f : Failure)
  | crashed
deriving DecidableEq, Repr

def Outcome.bind {α β : Type} (o : Outcome α) (f : α → Outcome β) : Outcome β :=
  match o with
  | .returned a => f a
  | .failed e => .failed e
  | .crashed => .crashed

/-- What a handler returns: a value to be wrapped, or a complete message. -/
inductive Reply where
  | value (v : Json)
  | message (m : Message)
deriving DecidableEq, Repr

/-- A handler that runs and ends with `ρ`. -/
inductive Script (ρ : Type) where
  | done (r : ρ)
  /-- Queues a message for the peer; `next` learns whether the session took it. -/
  | push (m : Message) (next : Bool → Script ρ)
  /-- Asks whether the session is closed. -/
  | askClosed (next : Bool → Script ρ)
  | sleep (ms : Nat) (next : Script ρ)

namespace Script

variable {ρ σ : Type}

def bind (s : Script ρ) (f : ρ → Script σ) : Script σ :=
  match s with
  | .done r => f r
  | .push m next => .push m fun ok => (next ok).bind f
  | .askClosed next => .askClosed fun closed => (next closed).bind f
  | .sleep ms next => .sleep ms (next.bind f)

def map (f : ρ → σ) (s : Script ρ) : Script σ := s.bind fun r => .done (f r)

/-- Pushes all messages in order, until the session refuses one. -/
def pushAll (ms : List Message) (next : Bool → Script ρ) : Script ρ :=
  match ms with
  | [] => next true
  | m :: ms => .push m fun ok => if ok then pushAll ms next else next false

/-- Runs a script in one go against a session that is closed or not: the
messages that it pushed, and how it ended. -/
def perform (closed : Bool) : Script ρ → List Message × ρ
  | .done r => ([], r)
  | .push m next =>
    let (ms, r) := (next !closed).perform closed
    (if closed then ms else m :: ms, r)
  | .askClosed next => (next closed).perform closed
  | .sleep _ next => next.perform closed

@[simp]
theorem perform_done (closed : Bool) (r : ρ) : (Script.done r).perform closed = ([], r) := rfl

theorem perform_map (closed : Bool) (f : ρ → σ) (s : Script ρ) :
    (s.map f).perform closed = ((s.perform closed).1, f (s.perform closed).2) := by
  induction s with
  | done r => rfl
  | push m next ih => cases closed <;> simp_all [map, bind, perform]
  | askClosed next ih => cases closed <;> simp_all [map, bind, perform]
  | sleep ms next ih => simp_all [map, bind, perform]

end Script

end Switchboard
