-- SUMMARY: Keeping a client connected.
import Switchboard.Client.Streaming

/-!
# Watching

A watch connects a client, runs a hook, and waits for the connection to end. When
the peer has ended it, the watch connects again at once. A dial that is refused is
tried again after the delay of the retry policy, until too many in a row were
refused. The watch ends when the connection was closed from this side, and with
the error of anything else that fails.

`Watch.step` lets a watch share its client with anybody else.
-/

namespace Switchboard.Watch

/-- Where a watch stands; `failures` counts the refused dials in a row. -/
inductive Phase where
  | connecting (failures : Nat)
  | dialing (failures : Nat) (caller : Nat)
  /-- The client is connected, and the hook runs. -/
  | announcing
  | waiting
  | listening (caller : Nat)
  | pausing (failures : Nat) (deadline : Nat)
  | ended (o : Streaming.Outcome)
deriving DecidableEq, Repr

/-- After a dial; `chance` is what the jitter adds to a delay. -/
def afterDial (p : RetryPolicy) (failures now chance : Nat) : Streaming.Outcome → Phase
  | .failed e =>
    if e.isConnectFailed && p.allows (failures + 1) then
      .pausing (failures + 1) (now + p.delay (failures + 1) chance)
    else .ended (.failed e)
  | _ => .announcing

def afterHook : Streaming.Outcome → Phase
  | .failed e => .ended (.failed e)
  | _ => .waiting

def afterWait : Streaming.Outcome → Phase
  | .failed .transportClosed => .connecting 0
  | .failed e => .ended (.failed e)
  | _ => .ended .done

structure State where
  client : Streaming.State
  phase : Phase := .connecting 0
deriving DecidableEq, Repr

inductive Action where
  /-- Anything that the client does, for the watch or for others. -/
  | client (a : Streaming.Action)
  | hookEnded (o : Streaming.Outcome)
  | proceed (chance : Nat)
deriving DecidableEq, Repr

/-- The watch goes on, if it need not wait. -/
def proceed (u : Streaming.Setup) (p : RetryPolicy) (chance : Nat) (s : State) :
    Option (State × List Streaming.Event) :=
  let start (r : Streaming.Request) (phase : Nat → Phase) : State × List Streaming.Event :=
    let (client, es) := s.client.start u r
    ({ client, phase := phase s.client.callers.length }, es)
  match s.phase with
  | .connecting failures => some (start (.connect []) (.dialing failures))
  | .dialing failures i =>
    (s.client.outcome? i).map fun o =>
      ({ s with phase := afterDial p failures s.client.now chance o }, [])
  | .waiting => some (start .wait .listening)
  | .listening i => (s.client.outcome? i).map fun o => ({ s with phase := afterWait o }, [])
  | .pausing failures deadline =>
    if deadline ≤ s.client.now then some ({ s with phase := .connecting failures }, []) else none
  | .announcing | .ended _ => none

def step (u : Streaming.Setup) (p : RetryPolicy) (s : State) :
    Action → Option (State × List Streaming.Event)
  | .client a => (Streaming.step u s.client a).map fun (client, es) => ({ s with client }, es)
  | .hookEnded o =>
    match s.phase with
    | .announcing => some ({ s with phase := afterHook o }, [])
    | _ => none
  | .proceed chance => proceed u p chance s

/-- What a sequence of actions leads to and shows, if each can be taken. -/
abbrev run (u : Streaming.Setup) (p : RetryPolicy) (s : State) (as : List Action) :
    Option (State × List Streaming.Event) :=
  Step.run (step u p) s as

end Switchboard.Watch
