-- SUMMARY: What a session has written is the beginning of its transcript.
import Switchboard.Proofs.Session.Conduct

/-!
# Output

The transcript of a session is its greeting and the responses to the messages that it
was given, one message after the other. While the queue is kept (`Current`), what was
written and what is queued make up the transcript as far as the tasks have come.
Afterwards what was written stays a beginning of it (`Told`): the send half writes no
more, or it writes what was queued before an answer was dropped. The second case arises
on a WebSocket only, and there the receive half must not take a message any more.
-/

namespace Switchboard.Session

/-- What the send half has written while it has not stopped. -/
inductive Wrote (u : Setup) (es : List Event) : Sender → List Message → Prop where
  | greeting : u.kind = .lines true → written es = [] → Wrote u es .greeting []
  | streaming {ms : List Message} : written es = opening u.kind ++ framesOf u.kind ms →
      Wrote u es .streaming ms

/-- All that was queued has been written or waits in the queue. -/
structure Current (u : Setup) (es : List Event) (s : State) : Prop where
  isOpen : s.queueOpen = true
  rest : ∃ ms, Wrote u es s.sender ms ∧ Accounts u s.tasks s.receiver (given es) (ms ++ s.queue)

/-- No message is taken from the input after an answer was dropped. -/
def Orderly (as : List Action) : Prop :=
  ∀ before after, as = before ++ .receive :: after → ∀ task, .dropAnswer task ∉ before

/-- What can make an end of the queue before all of it is written. -/
def Action.cutsOff : Action → Bool
  | .hangUp | .dropAnswer _ | .finish => true
  | _ => false

/-- What was written is the beginning of the transcript, and it stays so. -/
inductive Told (u : Setup) (as : List Action) (es : List Event) (s : State) : Prop where
  | current : Current u es s → Told u as es s
  /-- An answer was dropped, and nothing is queued any more. -/
  | parted (ms : List Message) (task : Option Nat) : .dropAnswer task ∈ as → u.kind = .webSocket →
      Wrote u es s.sender ms → s.tasks = [] → (∀ t, s.receiver ≠ .serving t) →
      ms ++ s.queue <+: (given es).flatMap (responses u) → Told u as es s
  /-- The session is cancelled, and nothing is written any more. -/
  | mute (ms : List Message) : s.cancelled = true → u.kind ≠ .webSocket → Wrote u es s.sender ms →
      ms <+: (given es).flatMap (responses u) → Told u as es s
  | stopped (ms : List Message) : s.sender = .trailing ∨ s.sender = .ended →
      written es <+: opening u.kind ++ framesOf u.kind ms →
      ms <+: (given es).flatMap (responses u) → Told u as es s

section Steps

variable {u : Setup} {as : List Action} {s s' : State} {es fs : List Event} {a : Action} {sender : Sender}
  {ms : List Message}

theorem Wrote.go_on (h : Wrote u es sender ms) (hfs : written fs = []) : Wrote u (es ++ fs) sender ms := by
  have hsame : written (es ++ fs) = written es := by rw [written_append, hfs, List.append_nil]
  cases h with
  | greeting hkind hes => exact .greeting hkind (hsame.trans hes)
  | streaming hes => exact .streaming (hsame.trans hes)

theorem Wrote.greet (h : Wrote u es .greeting ms) : Wrote u (es ++ [.frame greetingLine]) .streaming ms := by
  cases h with
  | greeting hkind hes =>
    refine .streaming ?_
    rw [written_append, hes, hkind]
    rfl

theorem Wrote.write (h : Wrote u es .streaming ms) (m : Message) :
    Wrote u (es ++ framesOf u.kind [m]) .streaming (ms ++ [m]) := by
  cases h with
  | streaming hes =>
    refine .streaming ?_
    rw [written_append, hes, written_framesOf, framesOf_append, List.append_assoc]

theorem Wrote.isPrefix (h : Wrote u es sender ms) : written es <+: opening u.kind ++ framesOf u.kind ms := by
  cases h with
  | greeting _ hes => exact hes ▸ List.nil_prefix
  | streaming hes => exact hes ▸ List.prefix_rfl

theorem Current.of_receiver (h : Current u es s) (hgiven : given fs = []) (hwritten : written fs = [])
    (hrest : s'.receiver.rest = s.receiver.rest)
    (hsame : s'.queueOpen = s.queueOpen ∧ s'.sender = s.sender ∧ s'.tasks = s.tasks ∧ s'.queue = s.queue) :
    Current u (es ++ fs) s' := by
  obtain ⟨hopen, ms, hwrote, haccounts⟩ := h
  obtain ⟨hopen', hsender, htasks, hqueue⟩ := hsame
  refine ⟨hopen'.trans hopen, ms, hsender ▸ hwrote.go_on hwritten, ?_⟩
  rw [given_append, hgiven, List.append_nil, htasks, hqueue]
  exact haccounts.receiver_eq hrest

/-- What the receive half has yet to queue is what its task has. -/
theorem rest_withTask (t : Task) : (if t.isFinished then Receiver.reading else .serving t).rest = t.rest := by
  split
  · next hfinished => exact (Task.rest_of_isFinished hfinished).symm
  · rfl

theorem Current.of_run (h : Current u es s) {task : Option Nat} {t t' : Task} {s₁ : State}
    (ht : s.task? task = some t) (hrun : t.run u s = some (s₁, t')) : Current u es (s₁.withTask t' task) := by
  obtain ⟨hopen, ms, hwrote, haccounts⟩ := h
  rcases Task.run_cases hopen hrun with ⟨rfl, hrest⟩ | ⟨m, rfl, hrest⟩
  · cases task with
    | some i => exact ⟨hopen, ms, hwrote, haccounts.task_eq ht hrest⟩
    | none =>
      refine ⟨hopen, ms, hwrote, haccounts.receiver_eq ?_⟩
      rw [State.receiver_of_task? ht]
      exact (rest_withTask t').trans hrest
  · have hassoc : ms ++ (s.queue ++ [m]) = ms ++ s.queue ++ [m] := (List.append_assoc ..).symm
    cases task with
    | some i =>
      refine ⟨hopen, ms, hwrote, ?_⟩
      show Accounts u _ _ _ (ms ++ (s.queue ++ [m]))
      rw [hassoc]
      exact haccounts.queued_task ht hrest
    | none =>
      refine ⟨hopen, ms, hwrote, ?_⟩
      show Accounts u _ _ _ (ms ++ (s.queue ++ [m]))
      rw [hassoc]
      refine haccounts.queued_receiver ?_
      rw [State.receiver_of_task? ht]
      exact hrest.trans (congrArg (m :: ·) (rest_withTask t').symm)

/-- The send half keeps writing what is queued until it stops or an answer is dropped. -/
theorem Current.step (h : Current u es s) (ha : Effect u s a s' fs) (hkeeps : a.cutsOff = false) :
    Current u (es ++ fs) s' := by
  cases ha with
  | arrive | endInput | shutdown | pass =>
    exact h.of_receiver rfl rfl rfl ⟨rfl, rfl, rfl, rfl⟩
  | hangUp | dropAnswer | finish | finishStream => cases hkeeps
  | refuse hreceiver | conclude hreceiver | stopReading hreceiver | noteFailure hreceiver | close hreceiver
  | drain hreceiver | cancel hreceiver =>
    exact h.of_receiver rfl rfl (by rw [hreceiver]; rfl) ⟨rfl, rfl, rfl, rfl⟩
  | spawn hreceiver hspawn =>
    obtain ⟨hopen, ms, hwrote, haccounts⟩ := h
    refine ⟨hopen, ms, hwrote.go_on rfl, ?_⟩
    rw [given_append]
    exact haccounts.spawned hspawn rfl
  | serve hreceiver hspawn =>
    obtain ⟨hopen, ms, hwrote, haccounts⟩ := h
    refine ⟨hopen, ms, hwrote.go_on rfl, ?_⟩
    rw [given_append]
    exact haccounts.served hspawn (by rw [hreceiver]; rfl) rfl
  | run ht hrun =>
    rw [List.append_nil]
    exact h.of_run ht hrun
  | greet hsender =>
    obtain ⟨hopen, ms, hwrote, haccounts⟩ := h
    rw [hsender] at hwrote
    refine ⟨hopen, ms, hwrote.greet, ?_⟩
    rw [given_append, show given [.frame greetingLine] = [] from rfl, List.append_nil]
    exact haccounts
  | @write m queue hsender hqueue =>
    obtain ⟨hopen, ms, hwrote, haccounts⟩ := h
    rw [hsender] at hwrote
    refine ⟨hopen, ms ++ [m], hsender ▸ hwrote.write m, ?_⟩
    rw [given_append, given_framesOf, List.append_nil, List.append_assoc, List.singleton_append, ← hqueue]
    exact haccounts
  | trail hsender =>
    obtain ⟨-, ms, hwrote, -⟩ := h
    rw [hsender] at hwrote
    cases hwrote

/-- Without tasks of their own, messages are answered one after the other. -/
theorem Current.inOrder (h : Current u es s) (hspawn : u.spawn = false) :
    s.tasks = [] ∧ ∃ ms, Wrote u es s.sender ms ∧ ms ++ s.queue <+: (given es).flatMap (responses u) := by
  obtain ⟨-, ms, hwrote, haccounts⟩ := h
  cases haccounts with
  | inOrder _ htasks hout => exact ⟨htasks, ms, hwrote, hout ▸ List.prefix_append ..⟩
  | interleaved _ hspawn' => cases hspawn.symm.trans hspawn'

theorem Told.of_wrote (hwrote : Wrote u es sender ms) (hms : ms <+: (given es).flatMap (responses u))
    (hgiven : given fs = []) (hwritten : written fs = []) (hs : s.sender = .trailing ∨ s.sender = .ended) :
    Told u as (es ++ fs) s := by
  refine .stopped ms hs ?_ ?_
  · rw [written_append, hwritten, List.append_nil]
    exact hwrote.isPrefix
  · rw [given_append, hgiven, List.append_nil]
    exact hms

/-- A receive half that has dropped an answer to a WebSocket goes on, but takes no message. -/
theorem Told.step_parted {task : Option Nat} (hdropped : .dropAnswer task ∈ as) (hkind : u.kind = .webSocket)
    (hwrote : Wrote u es s.sender ms) (htasks : s.tasks = []) (hreceiver : ∀ t, s.receiver ≠ .serving t)
    (hms : ms ++ s.queue <+: (given es).flatMap (responses u)) (ha : Effect u s a s' fs)
    (horderly : Orderly (as ++ [a])) : Told u (as ++ [a]) (es ++ fs) s' := by
  have hdropped' : .dropAnswer task ∈ as ++ [a] := List.mem_append_left _ hdropped
  have hnotask : ∀ task t, s.task? task ≠ some t := by
    intro task t ht
    cases task with
    | none => exact hreceiver t (State.receiver_of_task? ht)
    | some i => simp [State.task?, htasks] at ht
  have hsame : given fs = [] → (given es).flatMap (responses u) = (given (es ++ fs)).flatMap (responses u) := by
    intro hgiven
    rw [given_append, hgiven, List.append_nil]
  have hkeep : fs = [] → s'.sender = s.sender → s'.tasks = s.tasks → s'.queue = s.queue →
      (∀ t, s'.receiver ≠ .serving t) → Told u (as ++ [a]) (es ++ fs) s' := by
    intro hfs hsender htasks' hqueue hreceiver'
    subst hfs
    refine .parted ms task hdropped' hkind (hsender ▸ hwrote.go_on rfl) (htasks'.trans htasks) hreceiver' ?_
    rw [hqueue, ← hsame rfl]
    exact hms
  have hms' : ms <+: (given es).flatMap (responses u) := (List.prefix_append ms s.queue).trans hms
  have hreceive : a ≠ .receive := by
    rintro rfl
    exact horderly as [] rfl task hdropped
  cases ha with
  | arrive | endInput | shutdown | pass => exact hkeep rfl rfl rfl rfl hreceiver
  | spawn | serve | refuse | conclude => exact absurd rfl hreceive
  | stopReading | noteFailure | drain | cancel =>
    exact hkeep rfl rfl rfl rfl fun _ => Receiver.noConfusion
  | close =>
    refine .parted ms task hdropped' hkind (hwrote.go_on rfl) htasks (fun _ => Receiver.noConfusion) ?_
    rw [← hsame rfl]
    exact hms
  | run ht | dropAnswer ht => exact absurd ht (hnotask _ _)
  | greet hsender =>
    rw [hsender] at hwrote
    refine .parted ms task hdropped' hkind hwrote.greet htasks hreceiver ?_
    rw [← hsame rfl]
    exact hms
  | @write m queue hsender hqueue =>
    rw [hsender] at hwrote
    refine .parted (ms ++ [m]) task hdropped' hkind (hsender ▸ hwrote.write m) htasks hreceiver ?_
    rw [← hsame (given_framesOf ..), List.append_assoc, List.singleton_append, ← hqueue]
    exact hms
  | hangUp => exact .of_wrote hwrote hms' rfl rfl (.inr rfl)
  | finish => exact .of_wrote hwrote hms' rfl rfl (.inr rfl)
  | finishStream => exact .of_wrote hwrote hms' rfl rfl (.inl rfl)
  | trail hsender =>
    rw [hsender] at hwrote
    cases hwrote

theorem prefix_flatMap_given (es fs : List Event) :
    (given es).flatMap (responses u) <+: (given (es ++ fs)).flatMap (responses u) := by
  rw [given_append, List.flatMap_append]
  exact List.prefix_append _ _

theorem Task.run_sender {t t' : Task} (h : t.run u s = some (s', t')) :
    s'.sender = s.sender ∧ s'.cancelled = s.cancelled := by
  rcases Task.run_frame h with rfl | ⟨m, rfl⟩ <;> exact ⟨rfl, rfl⟩

/-- Once a body is cancelled, nothing is written but a greeting. -/
theorem Told.step_mute (hcancelled : s.cancelled = true) (hkind : u.kind ≠ .webSocket)
    (hwrote : Wrote u es s.sender ms) (hms : ms <+: (given es).flatMap (responses u))
    (ha : Effect u s a s' fs) : Told u (as ++ [a]) (es ++ fs) s' := by
  have hms' := hms.trans (prefix_flatMap_given es fs)
  have hkeep : written fs = [] → s'.sender = s.sender ∧ s'.cancelled = s.cancelled →
      Told u (as ++ [a]) (es ++ fs) s' := by
    intro hwritten ⟨hsender, hsame⟩
    exact .mute ms (hsame.trans hcancelled) hkind (hsender ▸ hwrote.go_on hwritten) hms'
  cases ha with
  | arrive | endInput | pass | spawn | serve | refuse | conclude | stopReading | noteFailure | close | drain =>
    exact hkeep rfl ⟨rfl, rfl⟩
  | shutdown | cancel => exact hkeep rfl ⟨rfl, hcancelled.symm⟩
  | run _ hrun => exact hkeep rfl (by simpa using Task.run_sender hrun)
  | dropAnswer => exact hkeep rfl (by simp)
  | greet hsender =>
    rw [hsender] at hwrote
    exact .mute ms hcancelled hkind hwrote.greet hms'
  | write _ _ hopen => exact absurd (hopen hcancelled) hkind
  | hangUp | finish => exact .of_wrote hwrote hms rfl rfl (.inr rfl)
  | finishStream => exact .of_wrote hwrote hms rfl rfl (.inl rfl)
  | trail hsender =>
    rw [hsender] at hwrote
    cases hwrote

theorem Told.step_stopped (hsender : s.sender = .trailing ∨ s.sender = .ended)
    (hes : written es <+: opening u.kind ++ framesOf u.kind ms)
    (hms : ms <+: (given es).flatMap (responses u)) (ha : Effect u s a s' fs) :
    Told u (as ++ [a]) (es ++ fs) s' := by
  have hkeep : written fs = [] → s'.sender = .trailing ∨ s'.sender = .ended →
      Told u (as ++ [a]) (es ++ fs) s' := by
    intro hwritten hsender'
    refine .stopped ms hsender' ?_ (hms.trans (prefix_flatMap_given es fs))
    rw [written_append, hwritten, List.append_nil]
    exact hes
  cases ha with
  | arrive | endInput | shutdown | pass | spawn | serve | refuse | conclude | stopReading | noteFailure
  | close | drain | cancel => exact hkeep rfl hsender
  | run _ hrun => exact hkeep rfl (by simpa [(Task.run_sender hrun).1] using hsender)
  | dropAnswer => exact hkeep rfl (by simpa using hsender)
  | greet h | write h | finish h | finishStream h => simp [h] at hsender
  | hangUp | trail => exact hkeep rfl (.inr rfl)

/-- What is kept by every step of a session that serves its messages one after the other. -/
theorem Told.step (h : Told u as es s) (hspawn : u.spawn = false) (ha : Effect u s a s' fs)
    (horderly : u.kind = .webSocket → Orderly (as ++ [a])) : Told u (as ++ [a]) (es ++ fs) s' := by
  cases h with
  | current h =>
    cases hcut : a.cutsOff with
    | false => exact .current (h.step ha hcut)
    | true =>
      obtain ⟨htasks, ms, hwrote, hout⟩ := h.inOrder hspawn
      have hms : ms <+: (given es).flatMap (responses u) := (List.prefix_append ms s.queue).trans hout
      cases ha with
      | hangUp | finish => exact .of_wrote hwrote hms rfl rfl (.inr rfl)
      | finishStream => exact .of_wrote hwrote hms rfl rfl (.inl rfl)
      | @dropAnswer task m ht hcancelled =>
        rw [List.append_nil]
        by_cases hkind : u.kind = .webSocket
        · cases task with
          | some i => simp [State.task?, htasks] at ht
          | none =>
            exact .parted ms none (by simp) hkind hwrote htasks (fun _ => Receiver.noConfusion) hout
        · exact .mute ms (by simpa using hcancelled) hkind (by simpa using hwrote) hms
      | _ => cases hcut
  | parted ms task hdropped hkind hwrote htasks hreceiver hms =>
    exact .step_parted hdropped hkind hwrote htasks hreceiver hms ha (horderly hkind)
  | mute ms hcancelled hkind hwrote hms => exact .step_mute hcancelled hkind hwrote hms ha
  | stopped ms hsender hes hms => exact .step_stopped hsender hes hms ha

theorem opening_append_framesOf_mono (k : Kind) {ms ns : List Message} (h : ms <+: ns) :
    opening k ++ framesOf k ms <+: opening k ++ framesOf k ns := by
  obtain ⟨rest, rfl⟩ := h
  rw [framesOf_append, ← List.append_assoc]
  exact List.prefix_append _ _

/-- What was written is a beginning of the transcript. -/
theorem Told.isPrefix (h : Told u as es s) (hspawn : u.spawn = false) :
    written es <+: opening u.kind ++ framesOf u.kind ((given es).flatMap (responses u)) := by
  have hmono : ∀ {ms : List Message}, ms <+: (given es).flatMap (responses u) →
      opening u.kind ++ framesOf u.kind ms <+: opening u.kind ++ framesOf u.kind ((given es).flatMap (responses u)) :=
    opening_append_framesOf_mono u.kind
  cases h with
  | current h =>
    obtain ⟨-, ms, hwrote, hout⟩ := h.inOrder hspawn
    exact hwrote.isPrefix.trans (hmono ((List.prefix_append ms s.queue).trans hout))
  | parted ms _ _ _ hwrote _ _ hms => exact hwrote.isPrefix.trans (hmono ((List.prefix_append ms s.queue).trans hms))
  | mute ms _ _ hwrote hms => exact hwrote.isPrefix.trans (hmono hms)
  | stopped ms _ hes hms => exact hes.trans (hmono hms)

end Steps

end Switchboard.Session
