-- SUMMARY: What a session has queued, against what it queues for the messages given to it.
import Switchboard.Proofs.Interleaving
import Switchboard.Proofs.Session.Task

/-!
# The order of what is queued

A session that serves one message after the other queues the responses of the first
message, then those of the second, and so on. One that spawns a task for each message
queues an interleaving of them. `Accounts` says how far it has come: with what the
tasks have yet to queue, what was queued makes up the responses to all messages given.
-/

namespace Switchboard.Session

/-- The order in which a session queues its responses to the messages. -/
def Ordered (u : Setup) (ms out : List Message) : Prop :=
  if u.spawn then Interleaves (ms.map (responses u)) out else out = ms.flatMap (responses u)

theorem Ordered.mem {u : Setup} {ms out : List Message} (h : Ordered u ms out) {o : Message}
    (ho : o ∈ out) : ∃ m ∈ ms, o ∈ responses u m := by
  unfold Ordered at h
  split at h
  · obtain ⟨xs, hxs, ho⟩ := h.mem ho
    obtain ⟨m, hm, rfl⟩ := List.mem_map.mp hxs
    exact ⟨m, hm, ho⟩
  · rw [h] at ho
    exact List.mem_flatMap.mp ho

/-- What the task that the receive half serves has yet to queue. -/
def Receiver.rest : Receiver → List Message
  | .serving t => t.rest
  | _ => []

/-- The tasks of a session have queued `out` for the messages given to them. -/
inductive Accounts (u : Setup) (tasks : List Task) (receiver : Receiver)
    (given out : List Message) : Prop where
  | inOrder : u.spawn = false → tasks = [] →
      out ++ receiver.rest = given.flatMap (responses u) → Accounts u tasks receiver given out
  | interleaved (sent : List (List Message)) : u.spawn = true → receiver.rest = [] →
      Interleaves sent out → tasks.length = given.length → sent.length = given.length →
      (∀ (i : Nat) (t : Task) (m : Message) (xs : List Message), tasks[i]? = some t →
        given[i]? = some m → sent[i]? = some xs → xs ++ t.rest = responses u m) →
      Accounts u tasks receiver given out

namespace Accounts

variable {u : Setup} {tasks : List Task} {receiver receiver' : Receiver} {given out : List Message}

theorem start : Accounts u [] .reading [] [] := by
  cases hspawn : u.spawn with
  | false => exact .inOrder hspawn rfl rfl
  | true => exact .interleaved [] hspawn rfl .nil rfl rfl (by simp)

/-- The receive half goes on without having queued anything. -/
theorem receiver_eq (h : Accounts u tasks receiver given out) (hrest : receiver'.rest = receiver.rest) :
    Accounts u tasks receiver' given out := by
  cases h with
  | inOrder hspawn htasks hout => exact .inOrder hspawn htasks (hrest ▸ hout)
  | interleaved sent hspawn hreceiver hout htasks hsent hrests =>
    exact .interleaved sent hspawn (hrest.trans hreceiver) hout htasks hsent hrests

/-- A message is given to a task of its own. -/
theorem spawned (h : Accounts u tasks receiver given out) (hspawn : u.spawn = true) {m : Message}
    {t : Task} (ht : t.rest = responses u m) :
    Accounts u (tasks ++ [t]) receiver (given ++ [m]) out := by
  cases h with
  | inOrder hspawn' => rw [hspawn] at hspawn'; cases hspawn'
  | interleaved sent _ hreceiver hout htasks hsent hrests =>
    refine .interleaved (sent ++ [[]]) hspawn hreceiver hout.concat_nil ?_ ?_ ?_
    · simp [htasks]
    · simp [hsent]
    · intro i t' m' xs ht' hm' hxs
      by_cases hi : i < given.length
      · rw [List.getElem?_append_left (by omega)] at ht' hm' hxs
        exact hrests i t' m' xs ht' hm' hxs
      · have hlt : i < (given ++ [m]).length := (List.getElem?_eq_some_iff.mp hm').1
        rw [List.length_append, List.length_singleton] at hlt
        have hi : i = given.length := by omega
        subst hi
        rw [List.getElem?_append_right (Nat.le_refl _), Nat.sub_self] at hm'
        rw [← htasks, List.getElem?_append_right (Nat.le_refl _), Nat.sub_self] at ht'
        rw [← hsent, List.getElem?_append_right (Nat.le_refl _), Nat.sub_self] at hxs
        cases hm'
        cases ht'
        cases hxs
        exact ht

/-- A message is served by the receive half itself. -/
theorem served (h : Accounts u tasks receiver given out) (hspawn : u.spawn = false)
    (hrest : receiver.rest = []) {m : Message} (ht : receiver'.rest = responses u m) :
    Accounts u tasks receiver' (given ++ [m]) out := by
  cases h with
  | inOrder _ htasks hout =>
    refine .inOrder hspawn htasks ?_
    rw [hrest, List.append_nil] at hout
    rw [ht, hout, List.flatMap_append, List.flatMap_singleton]
  | interleaved _ hspawn' => rw [hspawn] at hspawn'; cases hspawn'

/-- The receive half's own task queues a message. -/
theorem queued_receiver (h : Accounts u tasks receiver given out) {m : Message}
    (hrest : receiver.rest = m :: receiver'.rest) :
    Accounts u tasks receiver' given (out ++ [m]) := by
  cases h with
  | inOrder hspawn htasks hout =>
    refine .inOrder hspawn htasks ?_
    rw [← hout, hrest, List.append_assoc, List.singleton_append]
  | interleaved _ _ hreceiver => rw [hreceiver] at hrest; cases hrest

/-- A spawned task goes on. -/
theorem task_eq (h : Accounts u tasks receiver given out) {i : Nat} {t t' : Task}
    (hi : tasks[i]? = some t) (hrest : t'.rest = t.rest) :
    Accounts u (tasks.set i t') receiver given out := by
  cases h with
  | inOrder _ htasks => rw [htasks] at hi; cases hi
  | interleaved sent hspawn hreceiver hout htasks hsent hrests =>
    refine .interleaved sent hspawn hreceiver hout (by rw [List.length_set, htasks]) hsent ?_
    intro j v m xs hv hm hxs
    by_cases hij : i = j
    · subst hij
      rw [List.getElem?_set_self (List.getElem?_eq_some_iff.mp hi).1] at hv
      cases hv
      rw [hrest]
      exact hrests i t m xs hi hm hxs
    · rw [List.getElem?_set_ne hij] at hv
      exact hrests j v m xs hv hm hxs

/-- A spawned task queues a message. -/
theorem queued_task (h : Accounts u tasks receiver given out) {i : Nat} {t t' : Task} {m : Message}
    (hi : tasks[i]? = some t) (hrest : t.rest = m :: t'.rest) :
    Accounts u (tasks.set i t') receiver given (out ++ [m]) := by
  cases h with
  | inOrder _ htasks => rw [htasks] at hi; cases hi
  | interleaved sent hspawn hreceiver hout htasks hsent hrests =>
    have hlt : i < tasks.length := (List.getElem?_eq_some_iff.mp hi).1
    have hlt' : i < sent.length := by omega
    obtain ⟨xs, hxs⟩ : ∃ xs, sent[i]? = some xs := ⟨sent[i], List.getElem?_eq_getElem hlt'⟩
    refine .interleaved (sent.set i (xs ++ [m])) hspawn hreceiver (hout.concat hxs m)
      (by rw [List.length_set, htasks]) (by rw [List.length_set, hsent]) ?_
    intro j v o ys hv ho hys
    by_cases hij : i = j
    · subst hij
      rw [List.getElem?_set_self hlt] at hv
      rw [List.getElem?_set_self hlt'] at hys
      cases hv
      cases hys
      rw [← hrests i t o xs hi ho hxs, hrest, List.append_assoc, List.singleton_append]
    · rw [List.getElem?_set_ne hij] at hv hys
      exact hrests j v o ys hv ho hys

/-- When all tasks are finished, the responses are complete. -/
theorem ordered (h : Accounts u tasks receiver given out) (hreceiver : receiver.rest = [])
    (htasks : ∀ t ∈ tasks, t.isFinished = true) : Ordered u given out := by
  cases h with
  | inOrder hspawn _ hout =>
    rw [hreceiver, List.append_nil] at hout
    rw [Ordered, if_neg (by simp [hspawn]), hout]
  | interleaved sent hspawn _ hout hlength hsent hrests =>
    have hall : sent = given.map (responses u) := by
      refine List.ext_getElem? fun i => ?_
      by_cases hi : i < given.length
      · obtain ⟨t, ht⟩ : ∃ t, tasks[i]? = some t := ⟨_, List.getElem?_eq_getElem (by omega)⟩
        obtain ⟨m, hm⟩ : ∃ m, given[i]? = some m := ⟨_, List.getElem?_eq_getElem hi⟩
        obtain ⟨xs, hxs⟩ : ∃ xs, sent[i]? = some xs := ⟨_, List.getElem?_eq_getElem (by omega)⟩
        have hrest := hrests i _ _ _ ht hm hxs
        rw [Task.rest_of_isFinished (htasks _ (List.mem_of_getElem? ht)), List.append_nil] at hrest
        rw [hxs, List.getElem?_map, hm, hrest]
        rfl
      · rw [List.getElem?_eq_none (by omega), List.getElem?_eq_none (by simpa using hi)]
    rw [Ordered, if_pos hspawn, ← hall]
    exact hout

end Accounts

end Switchboard.Session
