-- SUMMARY: Actors that do not look at the connection answer alike on every one.
import Switchboard.Proofs.Session.Task

/-!
# Oblivious actors

A handler is oblivious if it makes nothing of the connection that brought the call: it
does the same on every one, and it neither pushes messages nor asks about the session,
since both go through the connection. Validators are given the message alone, so an
actor is oblivious if all its handlers are. It then does the same with a message on
every connection (`Actor.Oblivious.feed_eq`), and all that comes of it is one response
or none, which `Actor.response?` gives.
-/

namespace Switchboard

namespace Script

variable {ρ σ : Type}

/-- The script has nothing to do with a session: it waits, and ends. -/
inductive Quiet : Script ρ → Prop where
  | done (r : ρ) : Quiet (.done r)
  | sleep (ms : Nat) {next : Script ρ} : Quiet next → Quiet (.sleep ms next)

theorem Quiet.map {s : Script ρ} (h : s.Quiet) (f : ρ → σ) : (s.map f).Quiet := by
  induction h with
  | done r => exact .done (f r)
  | sleep ms _ ih => exact .sleep ms ih

theorem Quiet.pushes_nothing {s : Script ρ} (h : s.Quiet) (closed : Bool) : (s.perform closed).1 = [] := by
  induction h with
  | done r => rfl
  | sleep ms _ ih => exact ih

/-- However a quiet script goes, it ends in the one way. -/
theorem Quiet.of_runs {s : Script ρ} (h : s.Quiet) {ms : List Message} {r : ρ} (hr : s.Runs ms r)
    (closed : Bool) : r = (s.perform closed).2 := by
  induction h with
  | done q => exact (runs_done_iff.mp hr).2
  | sleep ms _ ih =>
    cases hr with
    | sleep hr => exact ih hr

end Script

/-- The handler does not look at the connection. -/
structure Handler.Oblivious (h : Handler) : Prop where
  same : ∀ (m : Message) (c c' : Connection) (params : List Json), h ⟨m, c⟩ params = h ⟨m, c'⟩ params
  quiet : ∀ (c : Call) (params : List Json), (h c params).Quiet

namespace Actor

/-- No handler of the actor looks at the connection. -/
structure Oblivious (a : Actor) : Prop where
  entries : ∀ e ∈ a.entries, Handler.Oblivious e.2.handler
  missing : ∀ h, a.missing = some h → Handler.Oblivious h

variable {a : Actor}

theorem Oblivious.of_target (ha : a.Oblivious) {m : Message} {h : Handler} (ht : a.target m = .handler h) :
    Handler.Oblivious h := by
  unfold target at ht
  split at ht
  · next e he =>
    split at ht
    · cases ht
    · cases ht
      unfold entry? at he
      obtain ⟨method, -, hfind⟩ := Option.bind_eq_some_iff.mp he
      exact ha.entries _ (Keyed.mem_of_find? hfind)
  · split at ht
    · next hmissing =>
      cases ht
      exact ha.missing _ hmissing
    · cases ht

/-- An oblivious actor does the same with a message on every connection. -/
theorem Oblivious.feed_eq (ha : a.Oblivious) (m : Message) (c c' : Connection) : a.feed ⟨m, c⟩ = a.feed ⟨m, c'⟩ := by
  unfold feed
  dsimp only
  cases ht : a.target m with
  | handler h => exact congrArg (Script.map (conclude m)) ((ha.of_target ht).same m c c' m.positional)
  | rejected f => rfl
  | unclaimed => rfl

theorem Oblivious.quiet (ha : a.Oblivious) (c : Call) : (a.feed c).Quiet := by
  unfold feed
  split
  · next h ht => exact ((ha.of_target ht).quiet c c.params).map _
  · exact .done _
  · exact .done _

/-- The reply in an answer. -/
def replyOf : Answer → Option Message
  | .ok reply => reply
  | .error _ => none

/-- The response to a message, on a connection of no transport in particular. -/
def response? (a : Actor) (m : Message) : Option Message :=
  replyOf ((a.feed ⟨m, .detached⟩).perform false).2

/-- A request is responded to, and nothing else is. -/
theorem isSome_response? (a : Actor) (m : Message) : (a.response? m).isSome = m.isRequest := by
  obtain ⟨pushed, hruns⟩ := Script.exists_runs_perform false (a.feed ⟨m, .detached⟩)
  obtain ⟨hanswered, hsilent⟩ := answer_of_runs hruns
  unfold response?
  cases hrequest : m.isRequest with
  | true =>
    obtain ⟨reply, hreply⟩ := hanswered hrequest
    rw [hreply]
    rfl
  | false =>
    have hsilent := hsilent hrequest
    generalize ((a.feed ⟨m, .detached⟩).perform false).2 = answer at hsilent
    rcases answer with e | _ | reply
    · rfl
    · rfl
    · exact absurd rfl (hsilent reply)

/-- Whatever the connection, an oblivious actor ends with its one response, if any. -/
theorem Oblivious.response?_of_runs (ha : a.Oblivious) {m : Message} {c : Connection} {pushed : List Message}
    {answer : Answer} (h : (a.feed ⟨m, c⟩).Runs pushed answer) : a.response? m = replyOf answer := by
  rw [ha.feed_eq m c .detached] at h
  rw [(ha.quiet _).of_runs h false]
  rfl

/-- Whatever the connection, all that an oblivious actor queues is its one response, if any. -/
theorem Oblivious.outgoing_feed (ha : a.Oblivious) (m : Message) (c : Connection) :
    Session.outgoing (a.feed ⟨m, c⟩) = (a.response? m).toList := by
  have hnone := (ha.quiet ⟨m, .detached⟩).pushes_nothing false
  rw [ha.feed_eq m c .detached]
  simp only [Session.outgoing, hnone, List.nil_append, response?]
  generalize ((a.feed ⟨m, .detached⟩).perform false).2 = answer
  rcases answer with e | _ | reply <;> rfl

end Actor

end Switchboard
