-- SUMMARY: What a task has yet to queue for the peer, and how long it can take.
import Switchboard.Gateway.Session
import Switchboard.Proofs.Actor.Dispatch

/-!
# Tasks

The actions of a session are those of its two halves, of its tasks, and of the world
around it (`Action.part`). A task that serves a message on an open session queues the pushes of the handler and
then the answer, if there is one. `Task.rest` is what it has not queued yet: each step
of the task queues the first of it or leaves it as it is (`Task.run_cases`).
`Task.work` bounds the steps that a task takes.
-/

namespace Switchboard.Session

/-- Who takes part in a session. -/
inductive Part where
  /-- The peer, whoever shuts the session down, and the time. -/
  | outside
  | receiver
  | task
  | sender

def Action.part : Action → Part
  | .arrive _ | .endInput _ | .shutdown | .hangUp | .pass _ => .outside
  | .receive | .stopReading | .noteFailure | .close | .release => .receiver
  | .run _ | .dropAnswer _ => .task
  | .greet | .write | .finish | .trail => .sender

/-- The message that an answer puts into the queue. -/
def answered : Answer → List Message
  | .ok (some m) => [m]
  | _ => []

/-- What a script queues on an open session: its pushes, then the answer. -/
def outgoing (s : Script Answer) : List Message :=
  let (pushes, answer) := s.perform false
  pushes ++ answered answer

/-- What the session queues for a message: the pushes of its handler, then the answer. -/
def responses (u : Setup) (m : Message) : List Message :=
  outgoing (u.actor.feed ⟨m, u.connection⟩)

/-- What a task has yet to queue. -/
def Task.rest : Task → List Message
  | .running s | .sleeping _ s => outgoing s
  | .answering m => [m]
  | .finished => []

/-- A step of a task on an open session queues the first message that it has yet to queue, or
leaves them as they are. -/
theorem Task.run_cases {u : Setup} {s s' : State} {t t' : Task} (hopen : s.queueOpen = true)
    (h : t.run u s = some (s', t')) :
    (s' = s ∧ t'.rest = t.rest) ∨ (∃ m, s' = s.queued m ∧ t.rest = m :: t'.rest) := by
  cases t with
  | running script =>
    cases script with
    | done r =>
      cases r with
      | error e =>
        cases h
        exact .inl ⟨rfl, rfl⟩
      | ok m? =>
        cases m? <;> cases h <;> exact .inl ⟨rfl, rfl⟩
    | push m next =>
      simp only [run, hopen, Bool.not_true, Bool.false_eq_true, if_false] at h
      split at h
      · cases h
        exact .inr ⟨m, rfl, rfl⟩
      · cases h
    | askClosed next =>
      simp only [run, hopen] at h
      cases h
      exact .inl ⟨rfl, rfl⟩
    | sleep ms next =>
      cases h
      exact .inl ⟨rfl, rfl⟩
  | sleeping deadline script =>
    simp only [run] at h
    split at h
    · cases h
      exact .inl ⟨rfl, rfl⟩
    · cases h
  | answering m =>
    simp only [run, hopen, Bool.not_true, Bool.false_eq_true, if_false] at h
    split at h
    · cases h
      exact .inr ⟨m, rfl, rfl⟩
    · cases h
  | finished => cases h

theorem Task.rest_of_isFinished {t : Task} (h : t.isFinished = true) : t.rest = [] := by
  cases t with
  | finished => rfl
  | _ => cases h

/-! ## Requests are answered once -/

theorem length_answered_of_isRequest {m : Message} (hm : m.isRequest = true) (o : Outcome Reply) :
    (answered (Actor.conclude m o)).length = 1 := by
  cases hc : m.content with
  | request id method params =>
    obtain ⟨reply, hreply, -⟩ := Actor.conclude_of_request hc o
    rw [hreply]
    rfl
  | _ => simp [Message.isRequest, hc] at hm

theorem answered_eq_nil {r : Answer} (h : ∀ reply, r ≠ .ok (some reply)) : answered r = [] := by
  unfold answered
  split
  · next reply => exact absurd rfl (h reply)
  · rfl

/-- A request is answered by one message, and nothing else is answered. -/
theorem length_answered_feed (a : Actor) (c : Call) (closed : Bool) :
    (answered ((a.feed c).perform closed).2).length = if c.message.isRequest then 1 else 0 := by
  cases hm : c.message.isRequest with
  | true =>
    unfold Actor.feed
    split
    · rw [Script.perform_map]
      exact length_answered_of_isRequest hm _
    · next f _ =>
      cases hc : c.message.content with
      | request id method params => simp [Actor.reject, Actor.refuse?_of_request hc, answered]
      | _ => simp [Message.isRequest, hc] at hm
    · cases hc : c.message.content with
      | request id method params => simp [Actor.refuse?_of_request hc, answered]
      | _ => simp [Message.isRequest, hc] at hm
  | false =>
    have hnil : answered ((a.feed c).perform closed).2 = [] := by
      refine answered_eq_nil fun reply => ?_
      unfold Actor.feed
      split
      · rw [Script.perform_map]
        exact Actor.conclude_ne_answer hm _ reply
      · simp [Actor.reject, Actor.refuse?_eq_none hm]
      · simp [Actor.refuse?_eq_none hm]
    rw [hnil]
    rfl

end Switchboard.Session
