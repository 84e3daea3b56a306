-- SUMMARY: What holds of a session however its input goes and however it is brought to an end.
import Switchboard.Proofs.Session.Effect

/-!
# Conduct of a session

Two invariants of every session: `Fed` says which part of what there is to find has
been dispatched, and `Shut` when the close handler runs. A third one holds as long as
nobody shuts the session down and the peer reads on: `Calm` says that the send half
stops after the receive half only. Each is kept by every effect. What a task does to
the state matters to none of them, as long as it is a task that is there (`of_task`).
-/

namespace Switchboard.Session

/-! ## Parts of the state -/

/-- The receive half takes messages from the input. -/
def Receiver.takes : Receiver → Bool
  | .reading | .serving _ => true
  | _ => false

/-- The close handler has run. -/
def Receiver.isShut : Receiver → Bool
  | .releasing _ | .ended => true
  | _ => false

/-- The frames that were written. -/
def written (es : List Event) : List Event :=
  es.filter fun
    | .frame _ => true
    | _ => false

@[simp]
theorem written_append (es fs : List Event) : written (es ++ fs) = written es ++ written fs :=
  List.filter_append es fs

theorem written_framesOf (k : Kind) (ms : List Message) : written (framesOf k ms) = framesOf k ms := by
  induction ms with
  | nil => rfl
  | cons m ms ih =>
    rw [framesOf, List.flatMap_cons, written_append]
    cases k.encode m with
    | ok f => exact congrArg (Event.frame f :: ·) ih
    | error e => exact ih

/-- A task that goes on puts at most one message into the queue. -/
theorem Task.run_frame {u : Setup} {s s' : State} {t t' : Task} (h : t.run u s = some (s', t')) :
    s' = s ∨ ∃ m, s' = s.queued m := by
  cases t with
  | running script =>
    cases script with
    | done r => rcases r with e | _ | m <;> cases h <;> exact .inl rfl
    | push m next =>
      simp only [run] at h
      split at h
      · cases h
        exact .inl rfl
      · split at h
        · cases h
          exact .inr ⟨m, rfl⟩
        · cases h
    | askClosed next | sleep ms next =>
      cases h
      exact .inl rfl
  | sleeping deadline script =>
    simp only [run] at h
    split at h
    · cases h
      exact .inl rfl
    · cases h
  | answering m =>
    simp only [run] at h
    split at h
    · cases h
      exact .inl rfl
    · split at h
      · cases h
        exact .inr ⟨m, rfl⟩
      · cases h
  | finished => cases h

theorem State.receiver_of_task? {s : State} {t : Task} (h : s.task? none = some t) :
    s.receiver = .serving t := by
  simp only [State.task?] at h
  split at h
  · next hs =>
    cases h
    exact hs
  · cases h

@[simp]
theorem State.task?_queued (s : State) (m : Message) (task : Option Nat) :
    (s.queued m).task? task = s.task? task := by
  cases task <;> rfl

section WithTask

variable (s : State) (t : Task) (task : Option Nat)

@[simp]
theorem State.inbound_withTask : (s.withTask t task).inbound = s.inbound := by
  cases task <;> rfl

@[simp]
theorem State.sender_withTask : (s.withTask t task).sender = s.sender := by
  cases task <;> rfl

@[simp]
theorem State.cancelled_withTask : (s.withTask t task).cancelled = s.cancelled := by
  cases task <;> rfl

@[simp]
theorem State.drained_withTask : (s.withTask t task).drained = s.drained := by
  cases task <;> rfl

@[simp]
theorem State.queueOpen_withTask : (s.withTask t task).queueOpen = s.queueOpen := by
  cases task <;> rfl

@[simp]
theorem State.failed_withTask : (s.withTask t task).failed = s.failed := by
  cases task <;> rfl

end WithTask

theorem State.takes_withTask {s : State} {t : Task} (t' : Task) {task : Option Nat}
    (h : s.task? task = some t) : (s.withTask t' task).receiver.takes = s.receiver.takes := by
  cases task with
  | none =>
    rw [State.receiver_of_task? h]
    show Receiver.takes (if t'.isFinished then .reading else .serving t') = true
    split <;> rfl
  | some i => rfl

theorem State.ended_withTask {s : State} {t : Task} (t' : Task) {task : Option Nat}
    (h : s.task? task = some t) : (s.withTask t' task).receiver = .ended ↔ s.receiver = .ended := by
  cases task with
  | none =>
    rw [State.receiver_of_task? h]
    show (if t'.isFinished then Receiver.reading else .serving t') = .ended ↔ _
    split <;> simp
  | some i => exact .rfl

/-! ## The input -/

/-- Which messages have been taken from the input, and what is left of it. -/
inductive Fed (i₀ : Inbound) (as : List Action) (ms : List Message) (inbound : Inbound) : Receiver → Prop where
  | taking {r : Receiver} : r.takes = true → inbound.Sound →
      (∀ rest, i₀.held (as ++ rest) = ms.map some ++ inbound.held rest) → Fed i₀ as ms inbound r
  | refused : (∀ rest, ∃ rs, i₀.held (as ++ rest) = ms.map some ++ none :: rs) → Fed i₀ as ms inbound .refused
  | past {r : Receiver} : r.takes = false → r ≠ .refused →
      (∀ rest, ∃ rs, i₀.held (as ++ rest) = ms.map some ++ rs) → Fed i₀ as ms inbound r

namespace Fed

variable {i₀ inbound : Inbound} {as : List Action} {ms : List Message} {r r' : Receiver}

/-- What was taken is the beginning of what there is to find. -/
theorem taken (h : Fed i₀ as ms inbound r) (rest : List Action) :
    ∃ rs, i₀.held (as ++ rest) = ms.map some ++ rs := by
  cases h with
  | taking _ _ hheld => exact ⟨_, hheld rest⟩
  | refused hheld =>
    obtain ⟨rs, hrs⟩ := hheld rest
    exact ⟨_, hrs⟩
  | past _ _ hheld => exact hheld rest

/-- What arrives is added to what is left. -/
theorem skip (h : Fed i₀ as ms inbound r) (a : Action) : Fed i₀ (as ++ [a]) ms (inbound.take a) r := by
  have hcons : ∀ rest, as ++ [a] ++ rest = as ++ a :: rest := fun rest => List.append_cons as a rest |>.symm
  cases h with
  | taking htakes hsound hheld =>
    refine .taking htakes (hsound.take a) fun rest => ?_
    rw [hcons, hheld]
    rfl
  | refused hheld => exact .refused fun rest => by rw [hcons]; exact hheld _
  | past htakes hne hheld => exact .past htakes hne fun rest => by rw [hcons]; exact hheld _

theorem of_takes (h : Fed i₀ as ms inbound r) (htakes : r'.takes = r.takes) (hr : r'.takes = true) :
    Fed i₀ as ms inbound r' := by
  cases h with
  | taking _ hsound hheld => exact .taking hr hsound hheld
  | refused => cases htakes.symm.trans hr
  | past hne => cases (htakes.symm.trans hr).symm.trans hne

theorem of_past (h : Fed i₀ as ms inbound r) (htakes : r'.takes = false) (hne : r' ≠ .refused) (i : Inbound) :
    Fed i₀ as ms i r' :=
  .past htakes hne h.taken

theorem meets (h : Fed i₀ as ms inbound .reading) : inbound.Meets inbound.next := by
  cases h with
  | taking _ hsound => exact Inbound.meets_next hsound
  | past htakes => cases htakes

theorem held (h : Fed i₀ as ms inbound .reading) (rest : List Action) :
    i₀.held (as ++ rest) = ms.map some ++ inbound.held rest := by
  cases h with
  | taking _ _ hheld => exact hheld rest
  | past htakes => cases htakes

theorem of_message (h : Fed i₀ as ms inbound .reading) {m : Message} {i : Inbound}
    (hnext : inbound.next = some (i, .message m)) (hr : r.takes = true) : Fed i₀ as (ms ++ [m]) i r := by
  have hmeets := h.meets
  rw [hnext] at hmeets
  cases hmeets with
  | message hsound hfirst =>
    refine .taking hr hsound fun rest => ?_
    rw [h.held, hfirst, List.map_append, List.append_assoc]
    rfl

theorem of_bad (h : Fed i₀ as ms inbound .reading) {i : Inbound} (hnext : inbound.next = some (i, .bad)) :
    Fed i₀ as ms i .refused := by
  have hmeets := h.meets
  rw [hnext] at hmeets
  cases hmeets with
  | bad hfirst =>
    refine .refused fun rest => ?_
    obtain ⟨rs, hrs⟩ := hfirst rest
    exact ⟨rs, by rw [h.held, hrs]⟩

theorem of_task {s : State} {task : Option Nat} {t : Task} (h : Fed i₀ as ms s.inbound s.receiver) (t' : Task)
    (ht : s.task? task = some t) :
    Fed i₀ as ms (s.withTask t' task).inbound (s.withTask t' task).receiver := by
  rw [State.inbound_withTask]
  cases task with
  | some i => exact h
  | none =>
    refine h.of_takes (State.takes_withTask t' ht) ?_
    rw [State.takes_withTask t' ht, State.receiver_of_task? ht]
    rfl

theorem step {u : Setup} {s s' : State} {es fs : List Event} {a : Action}
    (h : Fed i₀ as (given es) s.inbound s.receiver) (ha : Effect u s a s' fs) :
    Fed i₀ (as ++ [a]) (given (es ++ fs)) s'.inbound s'.receiver := by
  -- Most effects neither dispatch a message nor take anything from the input.
  have hkeep : given fs = [] → s'.inbound = s.inbound.take a → s'.receiver = s.receiver →
      Fed i₀ (as ++ [a]) (given (es ++ fs)) s'.inbound s'.receiver := by
    intro hgiven hinbound hreceiver
    rw [given_append, hgiven, List.append_nil, hinbound, hreceiver]
    exact h.skip a
  have hpast : ∀ {r : Receiver}, given fs = [] → s'.receiver = r → r.takes = false → r ≠ .refused →
      Fed i₀ (as ++ [a]) (given (es ++ fs)) s'.inbound s'.receiver := by
    intro r hgiven hr htakes hne
    rw [given_append, hgiven, List.append_nil, hr]
    exact (h.skip a).of_past htakes hne _
  cases ha with
  | arrive | endInput | shutdown | hangUp | pass | greet | finish | finishStream | trail =>
    exact hkeep rfl rfl rfl
  | write => exact hkeep (given_framesOf _ _) rfl rfl
  | spawn hreceiver _ hnext =>
    rw [hreceiver] at h
    rw [given_append]
    exact (h.of_message hnext (congrArg Receiver.takes hreceiver)).skip .receive
  | serve hreceiver _ hnext =>
    rw [hreceiver] at h
    rw [given_append]
    exact (h.of_message hnext rfl).skip .receive
  | refuse hreceiver hnext =>
    rw [hreceiver] at h
    rw [given_append, show given [] = [] from rfl, List.append_nil]
    exact (h.of_bad hnext).skip .receive
  | conclude | stopReading | noteFailure | close | drain | cancel =>
    exact hpast rfl rfl rfl (by simp)
  | @run task t t' s₁ ht hrun =>
    rw [List.append_nil]
    rcases Task.run_frame hrun with rfl | ⟨m, rfl⟩
    · exact (h.of_task t' ht).skip (.run task)
    · rw [← State.task?_queued s m] at ht
      exact (of_task (s := s.queued m) h t' ht).skip (.run task)
  | @dropAnswer task m ht =>
    rw [List.append_nil]
    exact (h.of_task .finished ht).skip (.dropAnswer task)

end Fed

/-! ## The close handler -/

/-- Whether the close handler has run: once, and after all messages that were dispatched. -/
inductive Shut (u : Setup) (es : List Event) (r : Receiver) : Prop where
  | before : r.isShut = false → (∀ notes, .closed notes ∉ es) → Shut u es r
  | after (pre post : List Event) : r.isShut = true →
      es = pre ++ .closed (u.actor.close u.connection) :: post →
      (∀ notes, .closed notes ∉ pre ++ post) → given post = [] → Shut u es r

namespace Shut

variable {u : Setup} {s s' : State} {es fs : List Event} {r r' : Receiver} {a : Action}

theorem go_on (h : Shut u es r) (hshut : r'.isShut = r.isShut) (hclosed : ∀ notes, .closed notes ∉ fs)
    (hgiven : r.isShut = true → given fs = []) : Shut u (es ++ fs) r' := by
  cases h with
  | before hr hes =>
    refine .before (hshut.trans hr) fun notes hmem => ?_
    exact (List.mem_append.mp hmem).elim (hes notes) (hclosed notes)
  | after pre post hr hes hpost hgiven' =>
    refine .after pre (post ++ fs) (hshut.trans hr) ?_ ?_ ?_
    · rw [hes, List.append_assoc, List.cons_append]
    · intro notes hmem
      rw [← List.append_assoc] at hmem
      exact (List.mem_append.mp hmem).elim (hpost notes) (hclosed notes)
    · rw [given_append, hgiven', hgiven hr, List.append_nil]

theorem of_task {task : Option Nat} {t : Task} (h : Shut u es s.receiver) (t' : Task)
    (ht : s.task? task = some t) : Shut u es (s.withTask t' task).receiver := by
  cases task with
  | some i => exact h
  | none =>
    rw [State.receiver_of_task? ht] at h
    cases h with
    | before _ hes =>
      refine .before ?_ hes
      show Receiver.isShut (if t'.isFinished then .reading else .serving t') = false
      split <;> rfl
    | after _ _ hr => cases hr

theorem step (h : Shut u es s.receiver) (ha : Effect u s a s' fs) : Shut u (es ++ fs) s'.receiver := by
  cases ha with
  | arrive | endInput | shutdown | hangUp | pass | finishStream =>
    exact h.go_on rfl (by simp) fun _ => rfl
  | greet | finish | trail => exact h.go_on rfl (by simp) fun _ => rfl
  | write =>
    refine h.go_on rfl ?_ fun _ => given_framesOf _ _
    intro notes hmem
    have hbody : Event.closed notes ∈ body (framesOf _ _) := (body_framesOf _ _).symm ▸ hmem
    simp [body] at hbody
  | spawn hreceiver =>
    exact h.go_on rfl (by simp) fun hr => by rw [hreceiver] at hr; cases hr
  | serve hreceiver =>
    exact h.go_on (by rw [hreceiver]; rfl) (by simp) fun hr => by rw [hreceiver] at hr; cases hr
  | refuse hreceiver | conclude hreceiver | stopReading hreceiver | noteFailure hreceiver =>
    exact h.go_on (by rw [hreceiver]; rfl) (by simp) fun _ => rfl
  | drain hreceiver | cancel hreceiver =>
    exact h.go_on (by rw [hreceiver]; rfl) (by simp) fun _ => rfl
  | close hreceiver =>
    cases h with
    | before _ hes =>
      refine .after es [] rfl rfl ?_ rfl
      rwa [List.append_nil]
    | after _ _ hr =>
      rw [hreceiver] at hr
      cases hr
  | @run task t t' s₁ ht hrun =>
    rw [List.append_nil]
    rcases Task.run_frame hrun with rfl | ⟨m, rfl⟩
    · exact h.of_task t' ht
    · rw [← State.task?_queued s m] at ht
      exact of_task (s := s.queued m) h t' ht
  | dropAnswer ht =>
    rw [List.append_nil]
    exact h.of_task .finished ht

end Shut

/-! ## Undisturbed sessions -/

/-- Somebody shuts the session down, or the peer no longer reads. -/
def Action.disturbs : Action → Bool
  | .shutdown | .hangUp => true
  | _ => false

/-- The events that end the body. -/
def endings (es : List Event) : List Event :=
  es.filter fun
    | .trailers _ | .ended => true
    | _ => false

@[simp]
theorem endings_append (es fs : List Event) : endings (es ++ fs) = endings es ++ endings fs :=
  List.filter_append es fs

theorem endings_framesOf (k : Kind) (ms : List Message) : endings (framesOf k ms) = [] := by
  induction ms with
  | nil => rfl
  | cons m ms ih =>
    rw [framesOf, List.flatMap_cons, endings_append]
    cases k.encode m <;> exact ih

/-- What the body ends with, after a fault or without one. -/
def Kind.signOff (failed : Bool) : Kind → List Event
  | .grpc => [.trailers (statusTrailers failed), .ended]
  | _ => [.ended]

/-- All messages before the first fault have been taken, and it is known whether there was one. -/
inductive Verdict (i₀ : Inbound) (as : List Action) (ms : List Message) : (failed : Bool) → Prop where
  | clean : (∀ rest, i₀.held (as ++ rest) = ms.map some) → Verdict i₀ as ms false
  | failed : (∀ rest, ∃ rs, i₀.held (as ++ rest) = ms.map some ++ none :: rs) → Verdict i₀ as ms true

/-- How far the receive half of an undisturbed session is. -/
inductive Judged (i₀ : Inbound) (as : List Action) (ms : List Message) (failed : Bool) : Receiver → Prop where
  | taking {r : Receiver} : r.takes = true → failed = false → Judged i₀ as ms failed r
  | refused : failed = false → Judged i₀ as ms failed .refused
  | past {r : Receiver} : r.takes = false → r ≠ .refused → Verdict i₀ as ms failed → Judged i₀ as ms failed r

/-- How far the send half is, once the receive half has ended. -/
inductive Signed (k : Kind) (failed : Bool) (es : List Event) : Sender → Prop where
  | greeting : endings es = [] → Signed k failed es .greeting
  | streaming : endings es = [] → Signed k failed es .streaming
  | trailing : k = .grpc → endings es = [] → Signed k failed es .trailing
  | ended : endings es = k.signOff failed → Signed k failed es .ended

/-- A session that nobody has disturbed: the send half goes on as long as the receive half does. -/
inductive Calm (u : Setup) (i₀ : Inbound) (as : List Action) (s : State) (es : List Event) : Prop where
  | going : s.receiver ≠ .ended → s.cancelled = false → s.drained = false → s.queueOpen = true →
      s.sender = .greeting ∨ s.sender = .streaming → endings es = [] →
      Judged i₀ as (given es) s.failed s.receiver → Calm u i₀ as s es
  | closed (pre post : List Event) (notes : List String) : s.receiver = .ended →
      s.cancelled = true ∨ s.drained = true → es = pre ++ .closed notes :: post → endings pre = [] →
      Signed u.kind s.failed es s.sender → Verdict i₀ as (given es) s.failed → Calm u i₀ as s es

section Calm

variable {u : Setup} {i₀ : Inbound} {as : List Action} {ms : List Message} {failed : Bool}
  {r : Receiver} {s s' : State} {es fs : List Event} {a : Action}

theorem Verdict.skip (h : Verdict i₀ as ms failed) (a : Action) : Verdict i₀ (as ++ [a]) ms failed := by
  have hcons : ∀ rest, as ++ [a] ++ rest = as ++ a :: rest := fun rest => List.append_cons as a rest |>.symm
  cases h with
  | clean hheld => exact .clean fun rest => by rw [hcons]; exact hheld _
  | failed hheld => exact .failed fun rest => by rw [hcons]; exact hheld _

theorem Judged.skip (h : Judged i₀ as ms failed r) (a : Action) : Judged i₀ (as ++ [a]) ms failed r := by
  cases h with
  | taking htakes hfailed => exact .taking htakes hfailed
  | refused hfailed => exact .refused hfailed
  | past htakes hne hverdict => exact .past htakes hne (hverdict.skip a)

theorem Judged.failed_of_takes (h : Judged i₀ as ms failed r) (hr : r.takes = true) : failed = false := by
  cases h with
  | taking _ hfailed => exact hfailed
  | refused hfailed => exact hfailed
  | past htakes => cases hr.symm.trans htakes

/-- What the end of the input or a fault in it says of the messages that were taken. -/
theorem Fed.verdict_of_over {inbound i : Inbound} (h : Fed i₀ as ms inbound .reading)
    (hnext : inbound.next = some (i, .over)) : Verdict i₀ as ms false := by
  have hmeets := h.meets
  rw [hnext] at hmeets
  cases hmeets with
  | ended hnone =>
    refine .clean fun rest => ?_
    rw [h.held, hnone, List.append_nil]

theorem Fed.verdict_of_refused {inbound : Inbound} (h : Fed i₀ as ms inbound .refused) :
    Verdict i₀ as ms true := by
  cases h with
  | taking htakes => cases htakes
  | refused hheld => exact .failed hheld
  | past _ hne => exact absurd rfl hne

theorem Signed.of_endings {k : Kind} {sender : Sender} (h : Signed k failed es sender) (hfs : endings fs = []) :
    Signed k failed (es ++ fs) sender := by
  have hsame : endings (es ++ fs) = endings es := by
    rw [endings_append, hfs, List.append_nil]
  cases h with
  | greeting hes => exact .greeting (hsame.trans hes)
  | streaming hes => exact .streaming (hsame.trans hes)
  | trailing hk hes => exact .trailing hk (hsame.trans hes)
  | ended hes => exact .ended (hsame.trans hes)

/-- The session of the receive half goes on, and so does the send half. -/
theorem Calm.of_going (h : Calm u i₀ as s es) (hr : s.receiver ≠ .ended) :
    s.cancelled = false ∧ s.drained = false ∧ s.queueOpen = true ∧
      (s.sender = .greeting ∨ s.sender = .streaming) ∧ endings es = [] ∧
      Judged i₀ as (given es) s.failed s.receiver := by
  cases h with
  | going _ hcancelled hdrained hopen hsender hes hjudged =>
    exact ⟨hcancelled, hdrained, hopen, hsender, hes, hjudged⟩
  | closed _ _ _ hended => exact absurd hended hr

/-- A step that neither ends a half nor shows the end of the body. -/
theorem Calm.go_on (h : Calm u i₀ as s es) (hgiven : given fs = []) (hendings : endings fs = [])
    (hreceiver : s'.receiver = .ended ↔ s.receiver = .ended)
    (hsame : s'.cancelled = s.cancelled ∧ s'.drained = s.drained ∧ s'.queueOpen = s.queueOpen ∧
      s'.failed = s.failed)
    (hsender : s'.sender = s.sender ∨ (s.sender = .greeting ∧ s'.sender = .streaming))
    (hjudged : s.receiver ≠ .ended → Judged i₀ as (given es) s.failed s.receiver →
      Judged i₀ as (given es) s.failed s'.receiver) :
    Calm u i₀ (as ++ [a]) s' (es ++ fs) := by
  obtain ⟨hcancelled, hdrained, hopen, hfailed⟩ := hsame
  have hgiven' : given (es ++ fs) = given es := by rw [given_append, hgiven, List.append_nil]
  cases h with
  | going hr hc hd ho hs hes hj =>
    refine .going (fun hr' => hr (hreceiver.mp hr')) (hcancelled.trans hc) (hdrained.trans hd) (hopen.trans ho) ?_ ?_ ?_
    · rcases hsender with hsender | ⟨-, hsender⟩
      · rwa [hsender]
      · exact .inr hsender
    · rw [endings_append, hes, hendings]
      rfl
    · rw [hgiven', hfailed]
      exact (hjudged hr hj).skip a
  | closed pre post notes hr hc hes hpre hsigned hverdict =>
    refine .closed pre (post ++ fs) notes (hreceiver.mpr hr) (by rwa [hcancelled, hdrained]) ?_ hpre ?_ ?_
    · rw [hes, List.append_assoc, List.cons_append]
    · rw [hfailed]
      rcases hsender with hsender | ⟨hgreeting, hsender⟩
      · rw [hsender]
        exact hsigned.of_endings hendings
      · rw [hgreeting] at hsigned
        rw [hsender]
        cases hsigned with
        | greeting hes =>
          refine .streaming ?_
          rw [endings_append, hes, hendings]
          rfl
    · rw [hgiven', hfailed]
      exact hverdict.skip a

theorem Calm.of_releasing {clean : Bool} (h : Calm u i₀ as s es) (hshut : Shut u es s.receiver)
    (hreceiver : s.receiver = .releasing clean) :
    ∃ pre post notes, es = pre ++ .closed notes :: post ∧ endings pre = [] ∧
      Signed u.kind s.failed es s.sender ∧ Verdict i₀ as (given es) s.failed := by
  obtain ⟨-, -, -, hsender, hendings, hjudged⟩ := h.of_going (by rw [hreceiver]; exact Receiver.noConfusion)
  rw [hreceiver] at hshut hjudged
  have hsigned : Signed u.kind s.failed es s.sender := by
    rcases hsender with hsender | hsender <;> rw [hsender]
    · exact .greeting hendings
    · exact .streaming hendings
  have hverdict : Verdict i₀ as (given es) s.failed := by
    cases hjudged with
    | taking htakes => cases htakes
    | past _ _ hverdict => exact hverdict
  cases hshut with
  | before hr => cases hr
  | after pre post _ hes =>
    refine ⟨pre, post, _, hes, ?_, hsigned, hverdict⟩
    rw [hes, endings_append] at hendings
    exact (List.append_eq_nil_iff.mp hendings).1

/-- The send half of an undisturbed session is told to stop by the receive half alone. -/
theorem Calm.of_ready (h : Calm u i₀ as s es) (hready : s.cancelled = true ∨ s.drained = true) :
    ∃ pre post notes, s.receiver = .ended ∧ es = pre ++ .closed notes :: post ∧ endings pre = [] ∧
      Signed u.kind s.failed es s.sender ∧ Verdict i₀ as (given es) s.failed := by
  cases h with
  | going _ hc hd =>
    rw [hc, hd] at hready
    simp at hready
  | closed pre post notes hr _ hes hpre hsigned hverdict =>
    exact ⟨pre, post, notes, hr, hes, hpre, hsigned, hverdict⟩

theorem Judged.withTask (h : Judged i₀ as ms failed s.receiver) {t : Task} (t' : Task) {task : Option Nat}
    (ht : s.task? task = some t) : Judged i₀ as ms failed (s.withTask t' task).receiver := by
  cases task with
  | some i => exact h
  | none =>
    have htakes : s.receiver.takes = true := by
      rw [State.receiver_of_task? ht]
      rfl
    exact .taking ((State.takes_withTask t' ht).trans htakes) (h.failed_of_takes htakes)

theorem Calm.queued (h : Calm u i₀ as s es) (m : Message) : Calm u i₀ as (s.queued m) es := by
  cases h with
  | going hr hc hd ho hs hes hj => exact .going hr hc hd ho hs hes hj
  | closed pre post notes hr hc hes hpre hsigned hverdict =>
    exact .closed pre post notes hr hc hes hpre hsigned hverdict

theorem Calm.of_task {task : Option Nat} {t : Task} (h : Calm u i₀ as s es) (t' : Task)
    (ht : s.task? task = some t) : Calm u i₀ (as ++ [a]) (s.withTask t' task) es := by
  rw [← List.append_nil es]
  exact h.go_on rfl rfl (State.ended_withTask t' ht) (by simp) (.inl (by simp)) fun _ hj => hj.withTask t' ht

/-- The receive half moves on, but does not end. -/
theorem Calm.move (h : Calm u i₀ as s es) (hgoing : s.receiver ≠ .ended) (hgoing' : s'.receiver ≠ .ended)
    (hgiven : given fs = []) (hendings : endings fs = [])
    (hsame : s'.cancelled = s.cancelled ∧ s'.drained = s.drained ∧ s'.queueOpen = s.queueOpen ∧
      s'.sender = s.sender)
    (hjudged : Judged i₀ as (given es) s.failed s.receiver → Judged i₀ as (given es) s'.failed s'.receiver) :
    Calm u i₀ (as ++ [a]) s' (es ++ fs) := by
  obtain ⟨hcancelled, hdrained, hopen, hsender⟩ := hsame
  obtain ⟨hc, hd, ho, hs, hes, hj⟩ := h.of_going hgoing
  refine .going hgoing' (hcancelled.trans hc) (hdrained.trans hd) (hopen.trans ho) (hsender ▸ hs) ?_ ?_
  · rw [endings_append, hes, hendings]
    rfl
  · rw [given_append, hgiven, List.append_nil]
    exact (hjudged hj).skip a

/-- The receive half takes a message. -/
theorem Calm.take {m : Message} (h : Calm u i₀ as s es) (hgoing : s.receiver ≠ .ended)
    (htakes : s.receiver.takes = true) (htakes' : s'.receiver.takes = true)
    (hsame : s'.cancelled = s.cancelled ∧ s'.drained = s.drained ∧ s'.queueOpen = s.queueOpen ∧
      s'.sender = s.sender ∧ s'.failed = s.failed) :
    Calm u i₀ (as ++ [a]) s' (es ++ [.dispatched m]) := by
  obtain ⟨hcancelled, hdrained, hopen, hsender, hfailed⟩ := hsame
  obtain ⟨hc, hd, ho, hs, hes, hj⟩ := h.of_going hgoing
  have hgoing' : s'.receiver ≠ .ended := fun hended => by rw [hended] at htakes'; cases htakes'
  refine .going hgoing' (hcancelled.trans hc) (hdrained.trans hd) (hopen.trans ho) (hsender ▸ hs) ?_
    (.taking htakes' (hfailed.trans (hj.failed_of_takes htakes)))
  rw [endings_append, hes]
  rfl

/-- The send half stops, once it may. -/
theorem Calm.stop (h : Calm u i₀ as s es) (hready : s.cancelled = true ∨ s.drained = true)
    (hgiven : given fs = []) (hreceiver : s'.receiver = s.receiver)
    (hready' : s'.cancelled = true ∨ s'.drained = true) (hfailed : s'.failed = s.failed)
    (hsigned : Signed u.kind s.failed es s.sender → Signed u.kind s.failed (es ++ fs) s'.sender) :
    Calm u i₀ (as ++ [a]) s' (es ++ fs) := by
  obtain ⟨pre, post, notes, hr, hes, hpre, hsender, hverdict⟩ := h.of_ready hready
  refine .closed pre (post ++ fs) notes (hreceiver.trans hr) hready' ?_ hpre ?_ ?_
  · rw [hes, List.append_assoc, List.cons_append]
  · rw [hfailed]
    exact hsigned hsender
  · rw [given_append, hgiven, List.append_nil, hfailed]
    exact hverdict.skip a

theorem Calm.of_trailing (h : Calm u i₀ as s es) (hsender : s.sender = .trailing) :
    s.cancelled = true ∨ s.drained = true := by
  cases h with
  | going _ _ _ _ hs =>
    rw [hsender] at hs
    simp at hs
  | closed _ _ _ _ hready => exact hready

theorem Signed.finish {k : Kind} (h : Signed k failed es .streaming) (hk : k ≠ .grpc) :
    Signed k failed (es ++ [.ended]) .ended := by
  cases h with
  | streaming hnone =>
    refine .ended ?_
    rw [endings_append, hnone]
    cases k with
    | grpc => exact absurd rfl hk
    | lines | webSocket => rfl

theorem Signed.trail {k : Kind} (h : Signed k failed es .trailing) :
    Signed k failed (es ++ [.trailers (statusTrailers failed), .ended]) .ended := by
  cases h with
  | trailing hkind hnone =>
    refine .ended ?_
    rw [endings_append, hnone, hkind]
    rfl

theorem Calm.step (h : Calm u i₀ as s es) (hfed : Fed i₀ as (given es) s.inbound s.receiver)
    (hshut : Shut u es s.receiver) (ha : Effect u s a s' fs) (hown : a.disturbs = false) :
    Calm u i₀ (as ++ [a]) s' (es ++ fs) := by
  cases ha with
  | arrive | endInput | pass =>
    exact h.go_on rfl rfl .rfl ⟨rfl, rfl, rfl, rfl⟩ (.inl rfl) fun _ hj => hj
  | shutdown | hangUp => cases hown
  | greet hsender =>
    exact h.go_on rfl rfl .rfl ⟨rfl, rfl, rfl, rfl⟩ (.inr ⟨hsender, rfl⟩) fun _ hj => hj
  | write =>
    exact h.go_on (given_framesOf _ _) (endings_framesOf _ _) .rfl ⟨rfl, rfl, rfl, rfl⟩ (.inl rfl) fun _ hj => hj
  | spawn hreceiver | serve hreceiver =>
    exact h.take (by simp [hreceiver]) (by simp [hreceiver, Receiver.takes]) (by simp [hreceiver, Receiver.takes])
      ⟨rfl, rfl, rfl, rfl, rfl⟩
  | refuse hreceiver =>
    refine h.move (by simp [hreceiver]) Receiver.noConfusion rfl rfl ⟨rfl, rfl, rfl, rfl⟩ fun hj => ?_
    exact .refused (hj.failed_of_takes (congrArg Receiver.takes hreceiver))
  | conclude hreceiver hnext =>
    refine h.move (by simp [hreceiver]) Receiver.noConfusion rfl rfl ⟨rfl, rfl, rfl, rfl⟩ fun hj => ?_
    have hfailed : s.failed = false := hj.failed_of_takes (congrArg Receiver.takes hreceiver)
    rw [hreceiver] at hfed
    refine .past rfl Receiver.noConfusion ?_
    rw [hfailed]
    exact hfed.verdict_of_over hnext
  | stopReading hreceiver hcancelled =>
    cases hcancelled.symm.trans (h.of_going (by simp [hreceiver])).1
  | noteFailure hreceiver =>
    refine h.move (by simp [hreceiver]) Receiver.noConfusion rfl rfl ⟨rfl, rfl, rfl, rfl⟩ fun _ => ?_
    rw [hreceiver] at hfed
    exact .past rfl Receiver.noConfusion hfed.verdict_of_refused
  | close hreceiver =>
    refine h.move (by simp [hreceiver]) Receiver.noConfusion rfl rfl ⟨rfl, rfl, rfl, rfl⟩ fun hj => ?_
    rw [hreceiver] at hj
    cases hj with
    | taking htakes => cases htakes
    | past _ _ hverdict => exact .past rfl Receiver.noConfusion hverdict
  | drain hreceiver =>
    obtain ⟨pre, post, notes, hes, hpre, hsigned, hverdict⟩ := h.of_releasing hshut hreceiver
    rw [List.append_nil]
    exact .closed pre post notes rfl (.inr rfl) hes hpre hsigned (hverdict.skip _)
  | cancel hreceiver =>
    obtain ⟨pre, post, notes, hes, hpre, hsigned, hverdict⟩ := h.of_releasing hshut hreceiver
    rw [List.append_nil]
    exact .closed pre post notes rfl (.inl rfl) hes hpre hsigned (hverdict.skip _)
  | @run task t t' s₁ ht hrun =>
    rw [List.append_nil]
    rcases Task.run_frame hrun with rfl | ⟨m, rfl⟩
    · exact h.of_task t' ht
    · rw [← State.task?_queued s m] at ht
      exact (h.queued m).of_task t' ht
  | dropAnswer ht =>
    rw [List.append_nil]
    exact h.of_task .finished ht
  | finish hsender hready hkind =>
    refine h.stop (hready.imp_right And.left) rfl rfl (.inl rfl) rfl fun hsigned => ?_
    rw [hsender] at hsigned
    exact hsigned.finish hkind
  | finishStream hsender hready hkind =>
    refine h.stop (hready.imp_right And.left) rfl rfl (.inl rfl) rfl fun hsigned => ?_
    rw [hsender] at hsigned
    rw [List.append_nil]
    cases hsigned with
    | streaming hnone => exact .trailing hkind hnone
  | trail hsender =>
    have hready : s.cancelled = true ∨ s.drained = true := h.of_trailing hsender
    refine h.stop hready rfl rfl hready rfl fun hsigned => ?_
    rw [hsender] at hsigned
    exact hsigned.trail

end Calm

end Switchboard.Session
