-- SUMMARY: An undisturbed session takes all messages there are, and comes to its end.
import Switchboard.Proofs.Session.Output

/-!
# Progress

A session that nobody disturbs can always go on by steps of its own, until it is
`Idle` and waits for more input, or until its receive half is `Leaving`
(`Undisturbed.advance`); the work left, as `State.work` counts it, gets less. From there
it is a few steps to the end of both halves. So it comes to rest (`Undisturbed.reaches_rest`),
and then all messages before the first fault have been taken.
-/

namespace Switchboard.Session

/-! ## The course of a session -/

/-- How the input has ended so far. -/
def Inbound.ending : Inbound → BodyEnd
  | .frames _ ending => ending
  | .packets _ ending => ending

theorem Inbound.ending_of_next {i i' : Inbound} {r : Arrival} (h : i.next = some (i', r)) :
    i'.ending = i.ending := by
  cases i with
  | frames d ending =>
    simp only [next] at h
    split at h <;> cases h <;> rfl
  | packets ps ending =>
    cases ps with
    | nil => cases ending <;> cases h <;> rfl
    | cons p ps =>
      simp only [next] at h
      split at h <;> cases h <;> rfl

/-- As long as nothing has come and the input has not ended, there is nothing to meet; once it has
ended, there is always something. -/
theorem Inbound.pending_of_next {i : Inbound} (h : i.next = none) : i.ending = .pending := by
  cases i with
  | frames d ending =>
    simp only [next] at h
    split at h <;> first | rfl | cases h
  | packets ps ending =>
    cases ps with
    | nil => cases ending <;> first | rfl | cases h
    | cons p ps =>
      simp only [next] at h
      split at h <;> cases h

/-- What is known of a session that was opened on a body, after these actions. -/
structure Course (u : Setup) (limit : Nat) (b : Body) (as : List Action) (s : State) (es : List Event) :
    Prop where
  fed : Fed (u.kind.inbound limit b) as (given es) s.inbound s.receiver
  shut : Shut u es s.receiver
  ending : s.inbound.ending = (as.foldl delivered (b.chunks, b.ending)).2
  busy : ∀ t, s.receiver = .serving t → t.isFinished = false

/-- What is known besides if nobody disturbs the session. -/
structure Undisturbed (u : Setup) (limit : Nat) (b : Body) (as : List Action) (s : State) (es : List Event) :
    Prop extends Course u limit b as s es where
  calm : Calm u (u.kind.inbound limit b) as s es
  current : s.receiver ≠ .ended → Current u es s

section Course

variable {u : Setup} {limit : Nat} {b : Body} {as : List Action} {s s' : State} {es fs : List Event} {a : Action}

theorem Effect.ending (ha : Effect u s a s' fs) {i : List Octets × BodyEnd} (hi : s.inbound.ending = i.2) :
    s'.inbound.ending = (delivered i a).2 := by
  obtain ⟨chunks, e⟩ := i
  cases ha with
  | arrive | endInput =>
    cases hinbound : s.inbound <;> rw [hinbound] at hi <;> cases hi <;> cases e <;> rfl
  | spawn _ _ hnext | serve _ _ hnext | refuse _ hnext | conclude _ hnext =>
    exact (Inbound.ending_of_next hnext).trans hi
  | @run task t t' s₁ ht hrun =>
    rw [State.inbound_withTask]
    rcases Task.run_frame hrun with rfl | ⟨m, rfl⟩ <;> exact hi
  | dropAnswer =>
    rw [State.inbound_withTask]
    exact hi
  | _ => exact hi

theorem Effect.busy (ha : Effect u s a s' fs) (hbusy : ∀ t, s.receiver = .serving t → t.isFinished = false)
    (t : Task) (ht : s'.receiver = .serving t) : t.isFinished = false := by
  have hwithTask : ∀ {v : Task} {s : State} {task : Option Nat},
      (∀ t, s.receiver = .serving t → t.isFinished = false) → (s.withTask v task).receiver = .serving t →
      t.isFinished = false := by
    intro v s task hbusy ht
    cases task with
    | some i => exact hbusy t ht
    | none =>
      simp only [State.withTask] at ht
      split at ht
      · cases ht
      · next hunfinished =>
        cases ht
        exact Bool.eq_false_iff.mpr hunfinished
  cases ha with
  | serve =>
    cases ht
    rfl
  | refuse | conclude | stopReading | noteFailure | close | drain | cancel => cases ht
  | @run task t₁ t₂ s₁ _ hrun =>
    refine hwithTask ?_ ht
    rcases Task.run_frame hrun with rfl | ⟨m, rfl⟩ <;> exact hbusy
  | dropAnswer => exact hwithTask hbusy ht
  | _ => exact hbusy t ht

theorem Course.start (u : Setup) (limit : Nat) (b : Body) :
    Course u limit b [] (opened u (u.kind.inbound limit b)) [] := by
  refine ⟨.taking rfl (Kind.sound_inbound ..) fun _ => rfl, .before rfl fun _ => List.not_mem_nil, ?_, ?_⟩
  · show (u.kind.inbound limit b).ending = b.ending
    unfold Kind.inbound
    cases u.kind.framing? <;> rfl
  · intro t ht
    cases ht

theorem Course.step (h : Course u limit b as s es) (ha : Effect u s a s' fs) :
    Course u limit b (as ++ [a]) s' (es ++ fs) := by
  refine ⟨h.fed.step ha, h.shut.step ha, ?_, ha.busy h.busy⟩
  rw [List.foldl_append]
  exact ha.ending h.ending

theorem Effect.ended (ha : Effect u s a s' fs) (hended : s.receiver = .ended) : s'.receiver = .ended := by
  cases ha with
  | spawn h | serve h | refuse h | conclude h | stopReading h | noteFailure h | close h | drain h | cancel h =>
    cases h.symm.trans hended
  | @run task t t' s₁ ht hrun =>
    cases task with
    | none => cases (State.receiver_of_task? ht).symm.trans hended
    | some i => rcases Task.run_frame hrun with rfl | ⟨m, rfl⟩ <;> exact hended
  | dropAnswer ht => exact (State.ended_withTask _ ht).mpr hended
  | _ => exact hended

theorem Wrote.start (u : Setup) : Wrote u [] (if u.kind = .lines true then .greeting else .streaming) [] := by
  split
  · next hlines => exact .greeting hlines rfl
  · next hne =>
    refine .streaming ?_
    unfold opening
    split
    · next hlines => exact absurd hlines hne
    · rfl

theorem Current.start (u : Setup) (i : Inbound) : Current u [] (opened u i) := ⟨rfl, [], Wrote.start u, .start⟩

theorem Undisturbed.start (u : Setup) (limit : Nat) (b : Body) :
    Undisturbed u limit b [] (opened u (u.kind.inbound limit b)) [] := by
  refine ⟨Course.start u limit b, ?_, fun _ => Current.start u _⟩
  refine .going Receiver.noConfusion rfl rfl rfl ?_ rfl (.taking rfl rfl)
  show (if _ then _ else _) = _ ∨ (if _ then _ else _) = _
  split
  · exact .inl rfl
  · exact .inr rfl

theorem Undisturbed.step (h : Undisturbed u limit b as s es) (ha : Effect u s a s' fs)
    (hown : a.disturbs = false) : Undisturbed u limit b (as ++ [a]) s' (es ++ fs) := by
  refine ⟨h.toCourse.step ha, h.calm.step h.fed h.shut ha hown, fun hgoing => ?_⟩
  have hbefore : s.receiver ≠ .ended := fun hended => hgoing (ha.ended hended)
  obtain ⟨hcancelled, hdrained, -⟩ := h.calm.of_going hbefore
  refine (h.current hbefore).step ha ?_
  -- the queue is cut off by a signal only, and there has been none
  cases ha with
  | hangUp => cases hown
  | dropAnswer _ hsignal => cases hsignal.symm.trans hcancelled
  | finish _ hready | finishStream _ hready => simp [hcancelled, hdrained] at hready
  | _ => rfl

/-- What every step keeps that disturbs nobody, a run of them keeps. -/
theorem Undisturbed.of_run (h : Undisturbed u limit b as s es) {bs : List Action}
    (hcalm : ∀ a ∈ bs, a.disturbs = false) (hrun : run u s bs = some (s', fs)) :
    Undisturbed u limit b (as ++ bs) s' (es ++ fs) := by
  refine Step.run_induction (R := fun s bs fs => (∀ a ∈ bs, a.disturbs = false) →
    Undisturbed u limit b (as ++ bs) s (es ++ fs)) ?_ ?_ hrun hcalm
  · intro _
    rwa [List.append_nil, List.append_nil]
  · intro s₁ s₂ a bs fs gs ih hstep hcalm
    have hbefore := ih fun c hc => hcalm c (List.mem_append_left _ hc)
    rw [← List.append_assoc, ← List.append_assoc]
    exact hbefore.step (effect_of_step hstep) (hcalm a (by simp))

theorem Action.disturbs_of_isOwn (ha : a.isOwn = true) : a.disturbs = false := by
  cases a <;> first | rfl | cases ha

/-- What the session does itself delivers nothing. -/
theorem foldl_delivered_own {bs : List Action} (hown : ∀ a ∈ bs, a.isOwn = true) (i : List Octets × BodyEnd) :
    bs.foldl delivered i = i := by
  induction bs with
  | nil => rfl
  | cons a bs ih =>
    have hsame : delivered i a = i := by
      have ha := hown a List.mem_cons_self
      cases a <;> first | rfl | cases ha
    rw [List.foldl_cons, hsame]
    exact ih fun c hc => hown c (List.mem_cons_of_mem a hc)

end Course

/-! ## Going on -/

/-- Steps of its own lead a session to a state like this. -/
def Reaches (u : Setup) (s : State) (p : State → Prop) : Prop :=
  ∃ bs s' fs, (∀ a ∈ bs, a.isOwn = true) ∧ run u s bs = some (s', fs) ∧ p s'

section Reaches

variable {u : Setup} {s s' : State} {fs : List Event} {p : State → Prop}

theorem Reaches.here (h : p s) : Reaches u s p := ⟨[], s, [], by simp, rfl, h⟩

theorem Reaches.of_run {bs : List Action} (hown : ∀ a ∈ bs, a.isOwn = true)
    (hrun : run u s bs = some (s', fs)) (h : Reaches u s' p) : Reaches u s p := by
  obtain ⟨cs, s₁, gs, howncs, hruncs, hp⟩ := h
  refine ⟨bs ++ cs, s₁, fs ++ gs, ?_, Step.run_append_eq_some_iff.mpr ⟨s', fs, gs, hrun, hruncs, rfl⟩, hp⟩
  intro a ha
  exact (List.mem_append.mp ha).elim (hown a) (howncs a)

theorem Reaches.of_step {a : Action} (hown : a.isOwn = true) (hstep : step u s a = some (s', fs))
    (h : Reaches u s' p) : Reaches u s p :=
  h.of_run (by simpa using hown) (run_singleton hstep)

end Reaches

/-- A session that waits for input: all that it was given has been served and written. -/
structure Idle (s : State) : Prop where
  reading : s.receiver = .reading
  next : s.inbound.next = none
  settled : ∀ t ∈ s.tasks, t.isFinished = true
  queue : s.queue = []
  streaming : s.sender = .streaming

/-- The receive half takes no more messages, and nothing keeps it from closing. -/
def Leaving (s : State) : Prop :=
  s.receiver.takes = false ∧ (s.receiver = .closing true → ∀ t ∈ s.tasks, t.isFinished = true)

section Advance

variable {u : Setup} {limit : Nat} {b : Body} {as : List Action} {s s' : State} {es fs : List Event}
  {ms left : List Message}

/-- What was given and what is left make up all messages that there are. -/
theorem Fed.decoded_held {i₀ inbound : Inbound} {r : Receiver} (h : Fed i₀ as ms inbound r)
    (hr : r.takes = true) : decoded (i₀.held as) = ms ++ decoded inbound.owed := by
  cases h with
  | taking _ _ hheld =>
    have hheld := hheld []
    rw [List.append_nil] at hheld
    rw [hheld, decoded_append]
    rfl
  | refused => cases hr
  | past htakes => cases hr.symm.trans htakes

/-- A receive half that reads and has nothing else to do takes what comes next. -/
theorem Undisturbed.advance_reading (h : Undisturbed u limit b as s es) (hreceiver : s.receiver = .reading)
    (hms : decoded ((u.kind.inbound limit b).held as) = ms) (hgiven : given es ++ left = ms) :
    Advances u left s es ms ∨ s.inbound.next = none := by
  have hfed := h.fed
  rw [hreceiver] at hfed
  have hleft : left = decoded s.inbound.owed := by
    rw [hfed.decoded_held rfl, ← hgiven] at hms
    exact (List.append_cancel_left hms).symm
  have hmeets := hfed.meets
  cases hnext : s.inbound.next with
  | none => exact .inr rfl
  | some r =>
    obtain ⟨i, arrival⟩ := r
    rw [hnext] at hmeets
    cases hmeets with
    | @message _ m _ hfirst =>
      have hleft' : left = m :: decoded i.owed := by
        rw [hleft, show s.inbound.owed = some m :: i.owed from hfirst []]
        rfl
      exact .inl (.of_message hreceiver hnext hleft' hgiven)
    | bad | ended =>
      refine .inl (.of_step (a := .receive) (by simp only [Session.step, hreceiver, Session.receive, hnext]; rfl)
        rfl left ?_ ?_)
      · rw [List.append_nil, hgiven]
      · simp only [State.work, Receiver.work, hreceiver]
        omega

/-- An undisturbed session goes on until it waits for input or leaves. -/
theorem Undisturbed.advance (h : Undisturbed u limit b as s es) (hcapacity : 0 < u.capacity)
    (hms : decoded ((u.kind.inbound limit b).held as) = ms) (hgiven : given es ++ left = ms) :
    Advances u left s es ms ∨ Idle s ∨ Leaving s := by
  by_cases hleaving : Leaving s
  · exact .inr (.inr hleaving)
  have hgoing : s.receiver ≠ .ended := fun hended =>
    hleaving ⟨by rw [hended]; rfl, fun hclosing => by cases hended.symm.trans hclosing⟩
  obtain ⟨hcancelled, -, hopen, hsender, -⟩ := h.calm.of_going hgoing
  rcases hsender with hsender | hsender
  · refine .inl (.of_step (a := .greet) (by simp only [Session.step, hsender]; rfl) rfl left ?_ ?_)
    · simpa [given] using hgiven
    · simp only [State.work, Sender.work, hsender]
      omega
  cases hqueue : s.queue with
  | cons m queue => exact .inl (.of_queue hsender hcancelled hqueue hgiven)
  | nil =>
    have htask : (∀ t ∈ s.tasks, t.isFinished = true) ∨ Advances u left s es ms := by
      by_cases hall : ∀ t ∈ s.tasks, t.isFinished = true
      · exact .inl hall
      · obtain ⟨t, ht, hunfinished⟩ : ∃ t ∈ s.tasks, t.isFinished = false := by simpa using hall
        obtain ⟨i, hi⟩ := List.mem_iff_getElem?.mp ht
        exact .inr (.of_spawned hi hunfinished hopen hqueue hcapacity hgiven)
    rcases htask with hall | hadvances
    · cases hreceiver : s.receiver with
      | reading =>
        rcases h.advance_reading hreceiver hms hgiven with hadvances | hnext
        · exact .inl hadvances
        · exact .inr (.inl ⟨hreceiver, hnext, hall, hqueue, hsender⟩)
      | serving t => exact .inl (.of_serving hreceiver (h.busy t hreceiver) hopen hqueue hcapacity hgiven)
      | refused | closing | releasing | ended =>
        exact absurd ⟨by rw [hreceiver]; rfl, fun _ => hall⟩ hleaving
    · exact .inl hadvances

/-- Steps of its own lead an undisturbed session to where it waits for input or leaves. -/
theorem Undisturbed.reaches_pause (h : Undisturbed u limit b as s es) (hcapacity : 0 < u.capacity)
    (hms : decoded ((u.kind.inbound limit b).held as) = ms) (hgiven : given es ++ left = ms) :
    Reaches u s fun s' => Idle s' ∨ Leaving s' := by
  induction hn : s.work u left using Nat.strongRecOn generalizing as s es left with
  | ind n ih =>
    rcases h.advance hcapacity hms hgiven with ⟨bs, s₁, fs₁, left₁, hown, hrun, hgiven₁, hless⟩ | hpause
    · have h₁ := h.of_run (fun a ha => Action.disturbs_of_isOwn (hown a ha)) hrun
      have hms₁ : decoded ((u.kind.inbound limit b).held (as ++ bs)) = ms := by
        rw [Kind.held_inbound, List.foldl_append, foldl_delivered_own hown, ← Kind.held_inbound]
        exact hms
      exact (ih _ (hn ▸ hless) h₁ hms₁ hgiven₁ rfl).of_run hown hrun
    · exact .here hpause

end Advance

/-! ## Coming to the end -/

section End

variable {u : Setup} {s : State}

/-- A receive half that leaves comes to its end. -/
theorem Leaving.reaches_ended (h : Leaving s) : Reaches u s fun s' => s'.receiver = .ended := by
  obtain ⟨inbound, receiver, tasks, queue, queueOpen, sender, cancelled, drained, failed, now⟩ := s
  obtain ⟨htakes, htasks⟩ := h
  cases receiver with
  | reading | serving => cases htakes
  | refused => exact ⟨[.noteFailure, .close, .release], _, _, by simp [Action.isOwn], rfl, rfl⟩
  | closing clean =>
    cases clean with
    | false => exact ⟨[.close, .release], _, _, by simp [Action.isOwn], rfl, rfl⟩
    | true =>
      have hall : tasks.all Task.isFinished = true := List.all_eq_true.mpr (htasks rfl)
      have hclose : step u ⟨inbound, .closing true, tasks, queue, queueOpen, sender, cancelled, drained, failed, now⟩
          .close = some (⟨inbound, .releasing true, tasks, queue, queueOpen, sender, cancelled, drained, failed, now⟩,
            [.closed (u.actor.close u.connection)]) := by
        simp only [step, hall, Bool.not_true, Bool.and_false]
        rfl
      exact .of_step rfl hclose (.of_step (a := .release) rfl rfl (.here rfl))
  | releasing clean => cases clean <;> exact .of_step (a := .release) rfl rfl (.here rfl)
  | ended => exact .here rfl

theorem reaches_end_of_trailing (hsender : s.sender = .trailing) :
    Reaches u s fun s' => s'.sender = .ended := by
  have htrail : step u s .trail = some ({ s with sender := .ended },
      [.trailers (statusTrailers s.failed), .ended]) := by
    simp only [step, hsender, if_true]
  exact .of_step rfl htrail (.here rfl)

/-- A send half that is ready to stop does so. -/
theorem reaches_end_of_ready (hsender : s.sender = .streaming)
    (hready : (s.cancelled || (s.drained && s.queue.isEmpty)) = true) :
    Reaches u s fun s' => s'.sender = .ended := by
  have hboth : (s.sender = .streaming && (s.cancelled || (s.drained && s.queue.isEmpty))) = true := by
    rw [hready, hsender]
    rfl
  by_cases hkind : u.kind = .grpc
  · have hfinish : step u s .finish = some (s.cutOff .trailing, []) := by
      simp only [step, hboth, if_true, hkind]
    exact .of_step rfl hfinish (reaches_end_of_trailing rfl)
  · have hfinish : step u s .finish = some (s.cutOff .ended, [.ended]) := by
      simp only [step, hboth, if_true]
    exact .of_step rfl hfinish (.here rfl)

/-- A send half that streams and was told to stop writes what it has to and stops. -/
theorem reaches_end_of_streaming (hsender : s.sender = .streaming)
    (hsignal : s.cancelled = true ∨ s.drained = true) : Reaches u s fun s' => s'.sender = .ended := by
  induction hqueue : s.queue generalizing s with
  | nil =>
    refine reaches_end_of_ready hsender ?_
    rcases hsignal with h | h <;> simp [h, hqueue]
  | cons m queue ih =>
    cases hcancelled : s.cancelled with
    | true => exact reaches_end_of_ready hsender (by simp [hcancelled])
    | false =>
      obtain ⟨fs, hwrite⟩ : ∃ fs, step u s .write = some ({ s with queue }, fs) := by
        simp only [step, hsender, hqueue, hcancelled, Bool.false_and, Bool.false_eq_true, if_false]
        exact ⟨_, rfl⟩
      exact .of_step rfl hwrite (ih hsender hsignal rfl)

/-- A send half that was told to stop comes to its end. -/
theorem reaches_end (hsignal : s.cancelled = true ∨ s.drained = true) :
    Reaches u s fun s' => s'.sender = .ended := by
  cases hsender : s.sender with
  | greeting =>
    have hgreet : step u s .greet = some ({ s with sender := .streaming }, [.frame greetingLine]) := by
      simp only [step, hsender, if_true]
    exact .of_step rfl hgreet (reaches_end_of_streaming rfl hsignal)
  | streaming => exact reaches_end_of_streaming hsender hsignal
  | trailing => exact reaches_end_of_trailing hsender
  | ended => exact .here hsender

end End

/-! ## Rest -/

/-- Whether there is a fault among what was found. -/
def faulty (found : List (Option Message)) : Bool := found.any Option.isNone

theorem faulty_map_some (ms : List Message) : faulty (ms.map some) = false := by
  simp [faulty]

section Rest

variable {u : Setup} {limit : Nat} {b : Body} {as : List Action} {s s' : State} {es fs : List Event}
  {ms : List Message} {failed : Bool}

theorem Verdict.found {i₀ : Inbound} (h : Verdict i₀ as ms failed) :
    decoded (i₀.held as) = ms ∧ faulty (i₀.held as) = failed := by
  cases h with
  | clean hheld =>
    have hheld := hheld []
    rw [List.append_nil] at hheld
    rw [hheld]
    exact ⟨decoded_map_some ms, faulty_map_some ms⟩
  | failed hheld =>
    obtain ⟨rs, hrs⟩ := hheld []
    rw [List.append_nil] at hrs
    rw [hrs, decoded_append]
    exact ⟨List.append_nil ms, by simp [faulty]⟩

theorem Calm.of_ended {i₀ : Inbound} (h : Calm u i₀ as s es) (hended : s.receiver = .ended) :
    (s.cancelled = true ∨ s.drained = true) ∧ Verdict i₀ as (given es) s.failed := by
  cases h with
  | going hgoing => exact absurd hended hgoing
  | closed _ _ _ _ hsignal _ _ _ hverdict => exact ⟨hsignal, hverdict⟩

theorem receiver_ended_of_run {bs : List Action} (hended : s.receiver = .ended)
    (hrun : run u s bs = some (s', fs)) : s'.receiver = .ended :=
  Step.run_keeps (I := fun s => s.receiver = .ended) hended
    (fun hended hstep => (effect_of_step hstep).ended hended) hrun

/-- Steps of its own lead an undisturbed session to where it waits for input or both halves have
ended. -/
theorem Undisturbed.reaches_rest (h : Undisturbed u limit b as s es) (hcapacity : 0 < u.capacity) :
    Reaches u s fun s' => Idle s' ∨ (s'.receiver = .ended ∧ s'.sender = .ended) := by
  obtain ⟨rs, hrs⟩ := h.fed.taken []
  rw [List.append_nil] at hrs
  have hgiven : given es ++ decoded rs = decoded ((u.kind.inbound limit b).held as) := by
    rw [hrs, decoded_append]
  obtain ⟨bs, s₁, fs₁, hown₁, hrun₁, hidle | hleaving⟩ := h.reaches_pause hcapacity rfl hgiven
  · exact ⟨bs, s₁, fs₁, hown₁, hrun₁, .inl hidle⟩
  · have h₁ := h.of_run (fun a ha => Action.disturbs_of_isOwn (hown₁ a ha)) hrun₁
    obtain ⟨cs, s₂, fs₂, hown₂, hrun₂, hended⟩ := hleaving.reaches_ended (u := u)
    have h₂ := h₁.of_run (fun a ha => Action.disturbs_of_isOwn (hown₂ a ha)) hrun₂
    obtain ⟨ds, s₃, fs₃, hown₃, hrun₃, hsender⟩ := reaches_end (u := u) (h₂.calm.of_ended hended).1
    refine .of_run hown₁ hrun₁ (.of_run hown₂ hrun₂ (.of_run hown₃ hrun₃ (.here (.inr ⟨?_, hsender⟩))))
    exact receiver_ended_of_run hended hrun₃

/-- A session that waits for input has taken all messages that there are. -/
theorem Undisturbed.of_idle (h : Undisturbed u limit b as s es) (hidle : Idle s) :
    (u.kind.inbound limit b).held as = (given es).map some ∧
      (as.foldl delivered (b.chunks, b.ending)).2 = .pending := by
  have hfed := h.fed
  rw [hidle.reading] at hfed
  have hmeets := hfed.meets
  rw [hidle.next] at hmeets
  cases hmeets with
  | nothing hnone =>
    have hheld := hfed.held []
    rw [List.append_nil, show s.inbound.held [] = [] from hnone, List.append_nil] at hheld
    exact ⟨hheld, h.ending ▸ Inbound.pending_of_next hidle.next⟩

end Rest

end Switchboard.Session
