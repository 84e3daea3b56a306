-- SUMMARY: Who waits for a connection is told how it ended, and by then nothing of it is left.
import Switchboard.Proofs.Streaming.Chronicle
import Switchboard.Proofs.Streaming.Clock
import Switchboard.Proofs.Streaming.Pending

/-!
# Waits

A wait takes the connection in the slot and comes out when its receive half is over.
What it is told is a matter of the incidents of this connection (`Tells`): the write that
failed, else the read that failed, and success only where the connection was shut from this
side and neither failed; but if the callback has panicked on the receive half, nothing else
is told. A caller that waits does nothing else (`wait_of_taken`), and others do not move it
(`seat?_of_other`, `seat?_of_step`).

A call that has registered never does so again (`Turn.isLate`, `Turn.registers`), so once a
teardown has emptied the pending table, the entries of all calls that were registered by then
are gone for good (`absent_of_run`). `wait_tells_how_it_ended` holds of every run, in which
parts of the client act and callers are dropped in any order.
-/

namespace Switchboard.Streaming

variable {u : Setup} {s t v : State} {i j k : Nat} {c : Caller} {l : Link} {r : Request} {p q : Phase}
  {o : Outcome} {a : Happening} {as : List Happening} {es fs : List Event} {ds : List Delivery}
  {rs : List Request} {wire : RequestId}

/-! ## What others do to a caller -/

/-- A step in which a caller comes out has moved this caller. -/
theorem Turn.moved (ht : Turn u s t es ds rs) (h : .finished i o ∈ es) : t.seat? i ≠ s.seat? i := by
  have out {r p q} (moves : Moves s t i r q (.finished p)) (hq : q.isFinished = false) :
      t.seat? i ≠ s.seat? i := by
    rw [moves.after, if_pos rfl, moves.before]
    rintro heq
    cases heq
    cases hq
  cases ht with
  | aside _ _ _ quiet => cases quiet _ h
  | advance _ _ _ _ _ _ quiet =>
    obtain ⟨_, h⟩ := quiet _ h
    cases h
  | refuse after =>
    cases List.mem_singleton.mp h
    rw [after, if_pos rfl, seat?_length]
    exact fun h => nomatch h
  | conclude moves _ _ early =>
    cases List.mem_singleton.mp h
    exact out moves (not_finished_of_early early)
  | withdraw moves | answer moves =>
    cases List.mem_singleton.mp h
    exact out moves rfl
  | miss | pass =>
    obtain ⟨_, _, h⟩ := List.mem_map.mp h
    cases h
  | register => cases List.mem_singleton.mp h
  | clear | enter | enqueue | drop | hand => cases h

theorem seat?_dropCaller (i j : Nat) : (s.dropCaller i).seat? j =
    if i = j then (s.seat? j).map fun e => (e.1, .finished (.failed .cancelled)) else s.seat? j :=
  seat?_of_moved rfl j

/-- Others do not move a caller that waits for no answer. -/
theorem seat?_of_other (hs : s.seat? i = some (r, q)) (deaf : q.listens = false)
    (h : happen u s a = some (t, fs)) (other : ∀ b, a ≠ .act (.caller i b)) (kept : a ≠ .drop i) :
    t.seat? i = some (r, q) := by
  cases a with
  | drop j =>
    simp only [happen] at h
    split at h <;> cases h
    rw [seat?_dropCaller, if_neg (fun hj : j = i => kept (hj ▸ rfl)), hs]
  | act a =>
    cases a with
    | caller j b =>
      obtain ⟨c, -, taken⟩ := taken_of_step (u := u) h
      obtain ⟨p, moved, -⟩ := acts_of_taken taken
      rw [seat?_of_moved moved, if_neg (fun hj : j = i => other b (hj ▸ rfl)), hs]
    | link k b =>
      obtain ⟨l, -, h⟩ := linkStep_of_step (u := u) h
      obtain ⟨p, hp, spares⟩ := spares_of_linkStep u hs h
      cases spares with
      | stay => exact hp
      | hand listens =>
        rw [deaf] at listens
        cases listens
    | start r' =>
      have hlength : i ≠ s.callers.length := by
        rintro rfl
        rw [seat?_length] at hs
        cases hs
      cases turn_of_start (Option.some.inj h) with
      | enter after | refuse after => rw [after, if_neg hlength, hs]
    | cancel j =>
      cases h
      rw [← hs]
      simp only [State.seat?, List.getElem?_modify]
      split <;> cases s.callers[i]? <;> rfl
    | discard =>
      cases h
      rw [State.seat?, callers_cancelSlot, ← State.seat?, hs]
    | setHeaders _ | setCallback _ | arrive _ _ | pass _ =>
      cases h
      exact hs

theorem seat?_of_step {a : Action} (hs : s.seat? i = some (r, q)) (deaf : q.listens = false)
    (h : step u s a = some (t, es)) (other : ¬ ∃ b, a = .caller i b) : t.seat? i = some (r, q) :=
  seat?_of_other (a := .act a) hs deaf h (fun b hb => other ⟨b, Happening.act.inj hb⟩) (by simp)

/-! ## Callers that have come out -/

theorem stepCaller_of_finished (hp : c.phase = .finished o) (b : CallerAction) :
    stepCaller u s i c b = none := by
  have idle : mayConnect s c = false := by simp [mayConnect, hp]
  cases b with
  | reuse =>
    simp only [stepCaller, idle]
    split <;> rfl
  | _ => simp [stepCaller, idle, hp]

theorem step_of_finished (hs : s.seat? i = some (r, .finished o)) (b : CallerAction) :
    step u s (.caller i b) = none := by
  obtain ⟨c, hc, -, hp⟩ := exists_caller hs
  rw [step, hc, Option.bind_some, stepCaller_of_finished hp b]

theorem seat?_of_finished {a : Action} (hs : s.seat? i = some (r, .finished o))
    (h : step u s a = some (t, es)) : t.seat? i = some (r, .finished o) := by
  apply seat?_of_step hs rfl h
  rintro ⟨b, rfl⟩
  rw [step_of_finished hs b] at h
  cases h

theorem outcome?_of_seat? (hs : s.seat? i = some (r, .finished o)) : s.outcome? i = some o := by
  obtain ⟨c, hc, -, hp⟩ := exists_caller hs
  simp only [State.outcome?, hc, Option.map_some, hp]

theorem outcome?_eq_none (hs : s.seat? i = some (r, q)) (hq : q.isFinished = false) :
    s.outcome? i = none := by
  obtain ⟨c, hc, -, rfl⟩ := exists_caller hs
  simp only [State.outcome?, hc, Option.map_some]
  cases hp : c.phase with
  | finished =>
    rw [hp] at hq
    cases hq
  | _ => rfl

/-! ## Callers that wait -/

/-- How far a caller can be that waits for the end of a connection. -/
def Phase.isPatient : Phase → Bool
  | .waiting | .joining _ | .finished _ => true
  | _ => false

/-- What a caller that waits does by itself. -/
inductive Waits (s : State) (i : Nat) : Phase → Phase → List Event → Prop
  | claim {k : Nat} (slot : s.slot = some k) (free : (s.link k).claimed = false) :
      Waits s i .waiting (.joining k) []
  | vacant (taken : ∀ k, s.slot = some k → k < s.links.length → (s.link k).claimed = true) :
      Waits s i .waiting (.finished (.failed .notConnected)) [.finished i (.failed .notConnected)]
  | join {k : Nat} {o : Outcome} (reports : (s.link k).receiver.report? = some o) :
      Waits s i (.joining k) (.finished o) [.finished i o]

theorem wait_of_taken {b : CallerAction} (hc : s.callers[i]? = some c) (hr : c.request = .wait)
    (patient : c.phase.isPatient = true) (h : Taken u s i c b t es) :
    ∃ p, t.seat? i = some (.wait, p) ∧ Waits s i c.phase p es := by
  obtain ⟨v, p, fs, h, rfl, rfl⟩ := h
  have moves := moves_moveTo hc rfl h.callers p
  refine ⟨p, by rw [moves.after, if_pos rfl, hr], ?_⟩
  -- Nothing else is open to it: it needs no connection of its own, and it has no call.
  have needless (may : mayConnect s c = true) : False := by
    have needs := (mayConnect_cases may).2
    rw [hr] at needs
    cases needs
  have other {q : Phase} (phase : c.phase = q) (hq : q.isPatient = false) : False := by
    rw [← phase, patient] at hq
    cases hq
  cases h with
  | @claim k l phase _ _ slot there unclaimed =>
    rw [phase]
    exact .claim slot (by rw [link_of_getElem? there, unclaimed])
  | vacant phase _ _ taken =>
    rw [phase]
    refine .vacant fun k hk hlt => ?_
    have hl := List.getElem?_eq_getElem hlt
    rw [link_of_getElem? hl]
    exact taken k _ hk hl
  | @join k l o phase there reports =>
    rw [phase]
    exact .join (by rw [link_of_getElem? there, reports])
  | reuse may | dial may | noTransport may => exact (needless may).elim
  | shut _ request => cases hr.symm.trans request
  | established phase | refused phase | lapse phase | register phase | queue phase | send phase
  | unsent _ phase | answer phase | withdraw phase => exact (other phase rfl).elim
  | fail _ phase => rcases phase with phase | ⟨phase, -⟩ <;> exact (other phase rfl).elim

theorem waits_of_own {b : CallerAction} (hs : s.seat? i = some (.wait, q)) (patient : q.isPatient = true)
    (h : step u s (.caller i b) = some (t, es)) :
    ∃ p, t.seat? i = some (.wait, p) ∧ Waits s i q p es := by
  obtain ⟨c, hc, taken⟩ := taken_of_step h
  obtain ⟨hr, rfl⟩ := caller_of_seat? hc hs
  exact wait_of_taken hc hr patient taken

theorem Waits.isPatient (h : Waits s i q p es) : p.isPatient = true := by
  cases h <;> rfl

theorem request?_of_happen {r : Request} (h : happen u s a = some (t, fs)) (hr : s.request? i = some r) :
    t.request? i = some r := by
  cases a with
  | act a => exact request?_of_step h hr
  | drop j =>
    simp only [happen] at h
    split at h <;> cases h
    rw [← hr, State.request?, State.request?, seat?_dropCaller]
    split
    · cases s.seat? i <;> rfl
    · rfl

/-- A caller comes in to wait, or is turned away. -/
theorem Turn.newcomer_isPatient (ht : Turn u s t es ds rs) (hs : s.seat? i = none)
    (hp : t.seat? i = some (r, p)) : p.isPatient = true := by
  cases ht with
  | enter after | refuse after =>
    rw [after, hs] at hp
    split at hp <;> cases hp
    rfl
  | aside seats | clear seats | pass seats | miss _ _ _ seats =>
    rw [seats, hs] at hp
    cases hp
  | advance moves | conclude moves | register moves | enqueue moves | drop moves | withdraw moves
  | answer moves | hand moves =>
    rw [(moves.vacant hs).2] at hp
    cases hp

theorem newcomer_isPatient (h : happen u s a = some (t, fs)) (hs : s.seat? i = none)
    (hp : t.seat? i = some (r, p)) : p.isPatient = true := by
  cases a with
  | act a => exact (turn_of_step h).newcomer_isPatient hs hp
  | drop j =>
    simp only [happen] at h
    split at h <;> cases h
    rw [seat?_dropCaller, hs] at hp
    split at hp <;> cases hp

/-- A caller that waits for the end of a connection has waited, or has just come in. -/
theorem isPatient_of_happen (patient : ∀ q, s.seat? i = some (.wait, q) → q.isPatient = true)
    (h : happen u s a = some (t, fs)) (hs : t.seat? i = some (.wait, p)) : p.isPatient = true := by
  cases hq : s.seat? i with
  | none => exact newcomer_isPatient h hq hs
  | some e =>
    obtain ⟨r', q⟩ := e
    have hrequest : t.request? i = some r' := request?_of_happen h (by rw [State.request?, hq]; rfl)
    rw [State.request?, hs] at hrequest
    cases hrequest
    have hpatient := patient q hq
    have deaf : q.listens = false := by cases q <;> first | rfl | cases hpatient
    by_cases own : ∃ b, a = .act (.caller i b)
    · obtain ⟨b, rfl⟩ := own
      obtain ⟨p', hp', waits⟩ := waits_of_own hq hpatient h
      rw [hs] at hp'
      cases hp'
      exact waits.isPatient
    by_cases dropped : a = .drop i
    · subst dropped
      simp only [happen] at h
      split at h <;> cases h
      rw [seat?_dropCaller, if_pos rfl, hq] at hs
      cases hs
      rfl
    · have same := seat?_of_other hq deaf h (fun b hb => own ⟨b, hb⟩) dropped
      rw [hs] at same
      cases same
      exact hpatient

theorem isPatient_of_run {headers : Headers}
    (h : Step.run (happen u) (State.fresh headers) as = some (t, es)) (i : Nat) :
    ∀ p, t.seat? i = some (.wait, p) → p.isPatient = true := by
  apply Step.run_keeps (I := fun t => ∀ p, t.seat? i = some (.wait, p) → p.isPatient = true) _ _ h
  · intro p hs
    simp [State.fresh, State.seat?] at hs
  · intro s t a fs patient hstep p hs
    exact isPatient_of_happen patient hstep hs

/-- What a caller that waits is told, and why. -/
theorem waits_of_finished (patient : ∀ p, s.seat? i = some (.wait, p) → p.isPatient = true)
    (hs : s.seat? i = some (.wait, q)) (h : happen u s a = some (t, fs)) (out : .finished i o ∈ fs) :
    ∃ p, Waits s i q p fs := by
  have hpatient := patient q hs
  have deaf : q.listens = false := by cases q <;> first | rfl | cases hpatient
  cases a with
  | drop j =>
    simp only [happen] at h
    split at h <;> cases h
    cases out
  | act a =>
    by_cases own : ∃ b, a = .caller i b
    · obtain ⟨b, rfl⟩ := own
      obtain ⟨p, -, waits⟩ := waits_of_own hs hpatient h
      exact ⟨p, waits⟩
    · have same := seat?_of_step hs deaf h own
      exact absurd (same.trans hs.symm) ((turn_of_step h).moved out)

/-! ## Calls that have registered -/

/-- The caller has come past the point where a call registers. -/
def State.IsLate (s : State) (i : Nat) : Prop := ∃ r q, s.seat? i = some (r, q) ∧ q.isEarly = false

theorem Moves.isLate (moves : Moves s t j r q p) (late : s.IsLate i)
    (still : q.isEarly = false → p.isEarly = false) : t.IsLate i := by
  obtain ⟨r', q', hs, hq⟩ := late
  by_cases hij : i = j
  · subst hij
    rw [moves.before] at hs
    cases hs
    exact ⟨r, p, by rw [moves.after, if_pos rfl], still hq⟩
  · exact ⟨r', q', by rw [moves.after, if_neg hij, hs], hq⟩

theorem Turn.isLate (ht : Turn u s t es ds rs) (late : s.IsLate i) : t.IsLate i := by
  have seated : i ≠ s.callers.length := by
    rintro rfl
    obtain ⟨_, _, hs, -⟩ := late
    rw [seat?_length] at hs
    cases hs
  cases ht with
  | aside seats | clear seats | pass seats | miss _ _ _ seats =>
    unfold State.IsLate
    rw [seats]
    exact late
  | enter after | refuse after =>
    unfold State.IsLate
    rw [after, if_neg seated]
    exact late
  | advance moves _ _ early =>
    apply moves.isLate late
    intro hq
    rw [early] at hq
    cases hq
  | conclude moves | register moves | enqueue moves | drop moves | withdraw moves | answer moves =>
    exact moves.isLate late fun _ => rfl
  | @hand _ _ q _ _ moves =>
    apply moves.isLate late
    intro hq
    cases q <;> exact hq

/-- A call that registers does so for the first time, and not again. -/
theorem Turn.registers (ht : Turn u s t es ds rs) (h : .registered i wire ∈ es) :
    ¬ s.IsLate i ∧ t.IsLate i := by
  cases ht with
  | register moves =>
    cases List.mem_singleton.mp h
    refine ⟨?_, _, _, by rw [moves.after, if_pos rfl], rfl⟩
    rintro ⟨_, _, hs, hq⟩
    rw [moves.before] at hs
    cases hs
    cases hq
  | aside _ _ _ quiet => cases quiet _ h
  | advance _ _ _ _ _ _ quiet =>
    obtain ⟨_, h⟩ := quiet _ h
    cases h
  | refuse | conclude | withdraw | answer => cases List.mem_singleton.mp h
  | miss | pass =>
    obtain ⟨_, _, h⟩ := List.mem_map.mp h
    cases h
  | clear | enter | enqueue | drop | hand => cases h

/-- The caller has no entry, and will not have one again. -/
structure State.Absent (s : State) (i : Nat) : Prop where
  late : s.IsLate i
  entry : ∀ key, s.pending.find? key ≠ some i

theorem isLate_of_happen (late : s.IsLate i) (h : happen u s a = some (t, fs)) : t.IsLate i := by
  cases a with
  | act a => exact (turn_of_step h).isLate late
  | drop j =>
    simp only [happen] at h
    split at h <;> cases h
    obtain ⟨r, q, hs, hq⟩ := late
    unfold State.IsLate
    rw [seat?_dropCaller, hs]
    split
    · exact ⟨r, _, rfl, rfl⟩
    · exact ⟨r, q, rfl, hq⟩

theorem State.Absent.step (absent : s.Absent i) (h : happen u s a = some (t, fs)) : t.Absent i where
  late := isLate_of_happen absent.late h
  entry := by
    intro key hkey
    cases a with
    | drop j =>
      simp only [happen] at h
      split at h <;> cases h
      exact absent.entry key hkey
    | act a =>
      rcases (turn_of_step h).entry hkey with hkey | ⟨wire, hregistered, -⟩
      · exact absent.entry key hkey
      · exact ((turn_of_step h).registers hregistered).1 absent.late

theorem absent_of_run (absent : s.Absent i) (h : Step.run (happen u) s as = some (t, es)) : t.Absent i :=
  Step.run_keeps (I := fun t => t.Absent i) absent (fun absent hstep => absent.step hstep) h

theorem isLate_of_registered {headers : Headers}
    (h : Step.run (happen u) (State.fresh headers) as = some (t, es))
    (hregistered : .registered i wire ∈ es) : t.IsLate i := by
  refine Step.run_induction (R := fun t _ es => .registered i wire ∈ es → t.IsLate i)
    (fun h => nomatch h) ?_ h hregistered
  intro t v a as es fs ih hstep hmem
  rcases List.mem_append.mp hmem with hmem | hmem
  · exact isLate_of_happen (ih hmem) hstep
  · cases a with
    | act a => exact ((turn_of_step hstep).registers hmem).2
    | drop j =>
      simp only [happen] at hstep
      split at hstep <;> cases hstep
      cases hmem

/-! ## How a connection ended -/

/-- How the wait for a connection comes out, by what has befallen the connection. -/
structure Tells (bs : List Incident) (o : Outcome) : Prop where
  /-- Success is told only of a connection that was shut from this side. -/
  done : o = .done → .shut ∈ bs
  written : (∀ text, .crash text ∉ bs) → ∀ e, .writeFault e ∈ bs → o = .failed e
  read : (∀ e, .writeFault e ∉ bs) → ∀ e, .readFault e ∈ bs → o = .failed e
  /-- That the callback has panicked is told whatever else there is to tell. -/
  crashed : ∀ text, .crash text ∈ bs → o = .failed (.transport ("receive task failed: " ++ text))
  /-- Nothing else is told. -/
  cause : o = .done ∨ ∃ e, o = .failed e ∧ (.writeFault e ∈ bs ∨ .readFault e ∈ bs ∨
    ∃ text, .crash text ∈ bs ∧ e = .transport ("receive task failed: " ++ text))

section
variable {bs : List Incident} {n : Nat} (h : Chronicle k as l bs n)
include h

theorem Chronicle.mem_writeFault (e : ClientError) : .writeFault e ∈ bs ↔ l.failure = some e := by
  rw [← mem_writeFaults, h.recalls.written, Option.mem_toList]

/-- The end of a receive half is what has befallen the connection. -/
theorem Chronicle.tells_of_ended {e : Option ClientError} (ended : l.receiver = .ended e) :
    Tells bs (.ofEnd e) := by
  obtain ⟨read, hread, rfl⟩ : ∃ read : Option ClientError, readFaults bs = read.toList ∧
      e = l.failure.or read := by
    have hrecalls := h.recalls.read
    rw [ended] at hrecalls
    exact hrecalls
  have written := h.mem_writeFault
  have faulty (e : ClientError) : .readFault e ∈ bs ↔ read = some e := by
    rw [← mem_readFaults, hread, Option.mem_toList]
  have calm (text : String) : .crash text ∉ bs := fun hb => by
    have crashed := (h.crashed text).mpr hb
    rw [ended] at crashed
    cases crashed
  refine ⟨fun hdone => ?_, fun _ e he => ?_, fun hnone e he => ?_,
    fun text hb => absurd hb (calm text), ?_⟩
  · -- Something has befallen the connection, and it was neither a write nor a read.
    obtain ⟨b, hb⟩ := List.exists_mem_of_ne_nil bs (h.ending.mp (.inr (.inr (by simp [ended]))))
    cases b with
    | shut => exact hb
    | writeFault e => simp [(written e).mp hb, Outcome.ofEnd] at hdone
    | readFault e =>
      rw [(faulty e).mp hb] at hdone
      cases hfailure : l.failure <;> simp [hfailure, Outcome.ofEnd] at hdone
    | crash text => exact absurd hb (calm text)
  · simp [(written e).mp he, Outcome.ofEnd]
  · have hfailure : l.failure = none := Option.eq_none_iff_forall_ne_some.mpr fun e' he' =>
      hnone e' ((written e').mpr he')
    simp [hfailure, (faulty e).mp he, Outcome.ofEnd]
  · cases hfailure : l.failure with
    | some e => exact .inr ⟨e, rfl, .inl ((written e).mpr hfailure)⟩
    | none =>
      cases read with
      | some e => exact .inr ⟨e, rfl, .inr (.inl ((faulty e).mpr rfl))⟩
      | none => exact .inl rfl

/-- A receive half that has crashed is one on which the callback has panicked, and no read has failed
before. -/
theorem Chronicle.tells_of_crashed {text : String} (crashed : l.receiver = .crashed text) :
    Tells bs (.failed (.transport ("receive task failed: " ++ text))) := by
  have hmem : .crash text ∈ bs := (h.crashed text).mp crashed
  refine ⟨(nomatch ·), fun calm => absurd hmem (calm text), fun _ e he => ?_, fun text' hb => ?_,
    .inr ⟨_, rfl, .inr (.inr ⟨text, hmem, rfl⟩)⟩⟩
  · have none : readFaults bs = [] := by
      have hrecalls := h.recalls.read
      rw [crashed] at hrecalls
      exact hrecalls
    rw [← mem_readFaults, none] at he
    cases he
  · have same := (h.crashed text').mpr hb
    rw [crashed] at same
    cases same
    rfl

theorem Chronicle.tells (reports : l.receiver.report? = some o) : Tells bs o := by
  cases hr : l.receiver with
  | ended e =>
    rw [hr] at reports
    cases reports
    exact h.tells_of_ended hr
  | crashed text =>
    rw [hr] at reports
    cases reports
    exact h.tells_of_crashed hr
  | _ =>
    rw [hr] at reports
    cases reports

end

/-- What is left of a connection when its receive half has got to its end. -/
structure Stopped (u : Setup) (headers : Headers) (as : List Happening) (s : State) (es : List Event)
    (k : Nat) (l : Link) : Prop where
  sender : l.sender = .ended
  cancelled : l.cancelled = true
  still : ∀ b, happen u s (.act (.link k b)) = none
  /-- The transport has been closed once. -/
  closed : es.count (.closed k) = 1
  torn : .act (.link k .clear) ∈ as
  /-- No call that was registered before the teardown has an entry. -/
  gone : ∀ bs cs v fs i wire, as = bs ++ .act (.link k .clear) :: cs →
    Step.run (happen u) (State.fresh headers) bs = some (v, fs) → .registered i wire ∈ fs →
    ∀ key, s.pending.find? key ≠ some i
  /-- Who waits for the connection can be told. -/
  heard : ∀ i, s.seat? i = some (.wait, .joining k) →
    ∃ t o, happen u s (.act (.caller i .join)) = some (t, [.finished i o])

theorem gone_of_run {headers : Headers} {bs cs : List Happening} {key : String}
    (h : Step.run (happen u) (State.fresh headers) (bs ++ .act (.link k .clear) :: cs) = some (t, es))
    (before : Step.run (happen u) (State.fresh headers) bs = some (s, fs))
    (hregistered : .registered i wire ∈ fs) : t.pending.find? key ≠ some i := by
  obtain ⟨s', _, _, before', after, -⟩ := Step.run_append_eq_some_iff.mp h
  rw [before] at before'
  cases before'
  obtain ⟨v, _, _, clear, after, -⟩ := Step.run_cons_eq_some_iff.mp after
  have absent : v.Absent i := by
    refine ⟨isLate_of_happen (isLate_of_registered before hregistered) clear, fun key hkey => ?_⟩
    have empty : v.pending = [] := pending_of_clear (u := u) clear
    rw [empty] at hkey
    cases hkey
  exact (absent_of_run absent after).entry key

theorem exists_join (hs : s.seat? i = some (.wait, .joining k)) (hl : s.links[k]? = some l)
    (reports : l.receiver.report? = some o) :
    happen u s (.act (.caller i .join)) = some (s.finish i o) := by
  obtain ⟨c, hc, -, hphase⟩ := exists_caller hs
  simp only [happen, step, hc, Option.bind_some, stepCaller, hphase, hl, reports, Option.map_some]

theorem stopped_of_run {headers : Headers}
    (h : Step.run (happen u) (State.fresh headers) as = some (s, es)) (hl : s.links[k]? = some l)
    (hended : l.receiver.hasEnded = true) : Stopped u headers as s es k l := by
  have chronicle := link_of_getElem? hl ▸ chronicle_of_run h k
  cases ended : l.receiver with
  | ended e =>
    have sender := chronicle.recalls.joined (by rw [ended]; rfl)
    have sound : l.Sound := (ages_of_run h).new k l rfl hl
    refine ⟨sender, sound.sender sender, fun b => ?_, ?_, chronicle.cleared (by rw [ended]; rfl), ?_, ?_⟩
    · simp only [happen, step, hl, Option.bind_some, stepLink_of_ended b sender hended]
    · rw [chronicle.closed, hended]
      rfl
    · rintro bs cs v fs i wire rfl before hregistered key
      exact gone_of_run h before hregistered
    · exact fun i hs => ⟨_, .ofEnd e, exists_join hs hl (by rw [ended]; rfl)⟩
  | _ =>
    rw [ended] at hended
    cases hended

/-- Whatever parts of a client act and whatever callers are dropped, in whatever order: a wait for a
connection tells the write that failed on it, else the read that failed, and success only if the
connection was shut from this side; one that finds no connection to wait for tells so. If the callback
has panicked on the receive half, a wait for the connection tells this, and no more is said of what
becomes of the connection. What has begun to end otherwise can go on to its end, and then both halves
have stopped, the transport has been closed once, and no call that was registered before the teardown
is pending. -/
theorem wait_tells_how_it_ended {headers : Headers}
    (h : Step.run (happen u) (State.fresh headers) as = some (s, es)) :
    (∀ i p a t fs o, s.seat? i = some (.wait, p) → happen u s a = some (t, fs) → .finished i o ∈ fs →
      (p = .waiting ∧ o = .failed .notConnected ∧ ∀ k, s.slot = some k → (s.link k).claimed = true) ∨
      ∃ k, p = .joining k ∧ Tells (incidents u (State.fresh headers) as k) o) ∧
    ∀ k l, s.links[k]? = some l →
      (incidents u (State.fresh headers) as k ≠ [] →
        (∀ text, .crash text ∉ incidents u (State.fresh headers) as k) → Ends u k s) ∧
      (l.receiver.hasEnded = true → Stopped u headers as s es k l) := by
  constructor
  · intro i p a t fs o hs hstep out
    obtain ⟨p', waits⟩ := waits_of_finished (isPatient_of_run h i) hs hstep out
    cases waits with
    | claim => cases out
    | vacant taken =>
      cases List.mem_singleton.mp out
      exact .inl ⟨rfl, rfl, fun k hk => taken k hk (slotFilled_of_run h k hk)⟩
    | @join k o reports =>
      cases List.mem_singleton.mp out
      exact .inr ⟨k, rfl, (chronicle_of_run h k).tells reports⟩
  · intro k l hl
    have chronicle := link_of_getElem? hl ▸ chronicle_of_run h k
    have sound : l.Sound := (ages_of_run h).new k l rfl hl
    refine ⟨fun hbs calm => ?_, stopped_of_run h hl⟩
    exact ends_of_isEnding hl sound (chronicle.ending.mpr hbs) (chronicle.hasCrashed calm)

/-- A call is being written when the client is closed, and the write fails after that. Somebody else,
who wants a connection too, is dropped. -/
def closedAmidWrite : List Happening :=
  [.act (.start (.connect [])), .act (.caller 0 .dial), .act (.caller 0 .established),
    .act (.start ping), .act (.caller 1 .reuse), .act (.caller 1 .register), .act (.caller 1 .enqueue),
    .act (.start .wait), .act (.caller 2 .claim), .act (.link 0 .take), .act (.start (.connect [])),
    .drop 3, .act (.start .close), .act (.caller 4 .shut),
    .act (.link 0 (.writeFault (.transport "broken pipe"))), .act (.link 0 .stop),
    .act (.link 0 .abort), .act (.link 0 .cancel), .act (.link 0 .clear), .act (.link 0 .joinSender),
    .act (.link 0 .hangUp)]

theorem wait_tells_how_it_ended_closedAmidWrite :
    ∃ s es t fs l, Step.run (happen paddedSetup) (State.fresh []) closedAmidWrite = some (s, es) ∧
      s.seat? 2 = some (.wait, .joining 0) ∧
      happen paddedSetup s (.act (.caller 2 .join)) = some (t, fs) ∧
      .finished 2 (.failed (.transport "broken pipe")) ∈ fs ∧
      Tells [.shut, .writeFault (.transport "broken pipe")] (.failed (.transport "broken pipe")) ∧
      s.links[0]? = some l ∧ Stopped paddedSetup [] closedAmidWrite s es 0 l ∧
      .registered 1 (.text (paddedId 0)) ∈ es ∧ s.pending = [] := by
  have hshown : ((Step.run (happen paddedSetup) (State.fresh []) closedAmidWrite).bind fun r =>
      (happen paddedSetup r.1 (.act (.caller 2 .join))).map fun q =>
        (r.1.seat? 2, q.2, (r.1.links[0]?).map Link.receiver)) =
      some (some (.wait, .joining 0), [.finished 2 (.failed (.transport "broken pipe"))],
        some (.ended (some (.transport "broken pipe")))) := by
    decide +kernel
  have hcall : (Step.run (happen paddedSetup) (State.fresh []) closedAmidWrite).map (fun r =>
      (wires 1 r.2, r.1.pending)) = some ([.text (paddedId 0)], []) := by
    decide +kernel
  have hincidents : incidents paddedSetup (State.fresh []) closedAmidWrite 0 =
      [.shut, .writeFault (.transport "broken pipe")] := by
    decide +kernel
  obtain ⟨⟨s, es⟩, hrun, hshown⟩ := Option.bind_eq_some_iff.mp hshown
  obtain ⟨⟨t, fs⟩, hjoin, hshown⟩ := Option.map_eq_some_iff.mp hshown
  simp only [Prod.mk.injEq] at hshown
  obtain ⟨hseat, rfl, hreceiver⟩ := hshown
  rw [hrun, Option.map_some, Option.some.injEq, Prod.mk.injEq] at hcall
  obtain ⟨hwires, hpending⟩ := hcall
  obtain ⟨l, hl, ended⟩ := Option.map_eq_some_iff.mp hreceiver
  obtain ⟨told, ends⟩ := wait_tells_how_it_ended hrun
  have out := List.mem_singleton_self (Event.finished 2 (.failed (.transport "broken pipe")))
  refine ⟨s, es, t, _, l, hrun, hseat, hjoin, out, ?_, hl, (ends 0 l hl).2 (by rw [ended]; rfl),
    mem_wires.mp (by simp [hwires]), hpending⟩
  rcases told 2 _ _ _ _ _ hseat hjoin out with ⟨hphase, -⟩ | ⟨k, hphase, tells⟩
  · cases hphase
  · cases hphase
    rw [hincidents] at tells
    exact tells

/-- A call waits for its answer when a write fails. Before the send half has cancelled the connection,
the callback panics of a message from the peer. Two callers wait for the end. -/
def panickedAfterWrite : List Happening :=
  [.act (.setCallback "on_message"), .act (.start (.connect [])), .act (.caller 0 .dial),
    .act (.caller 0 .established), .act (.start ping), .act (.caller 1 .reuse),
    .act (.caller 1 .register), .act (.caller 1 .enqueue), .act (.start .wait),
    .act (.caller 2 .claim), .act (.start .wait), .act (.link 0 .take),
    .act (.arrive 0 (.message (Message.notify "tick" (.list [])))),
    .act (.link 0 (.writeFault (.transport "broken pipe"))), .act (.link 0 (.crash "task 3 panicked")),
    .act (.link 0 .abort)]

/-- A write has failed, and neither of those who wait is told of it: one is told of the panic, and the
other that there is nothing to wait for. Both halves are gone, but the call is still pending, and the
transport is never closed. -/
theorem failed_write_untold :
    ∃ s es l, Step.run (happen paddedSetup) (State.fresh []) panickedAfterWrite = some (s, es) ∧
      incidents paddedSetup (State.fresh []) panickedAfterWrite 0 =
        [.writeFault (.transport "broken pipe"), .crash "task 3 panicked"] ∧
      happen paddedSetup s (.act (.caller 2 .join)) = some (s.finish 2
        (.failed (.transport "receive task failed: task 3 panicked"))) ∧
      happen paddedSetup s (.act (.caller 3 .claim)) = some (s.finish 3 (.failed .notConnected)) ∧
      s.links[0]? = some l ∧ l.sender = .ended ∧ l.cancelled = true ∧
      s.pending = [((RequestId.text (paddedId 0)).key, 1)] ∧ es.count (.closed 0) = 0 ∧
      ∀ b, happen paddedSetup s (.act (.link 0 b)) = none := by
  have hshown : (Step.run (happen paddedSetup) (State.fresh []) panickedAfterWrite).map (fun r =>
      (r.1.links[0]?, r.1.pending, r.2.count (.closed 0))) =
      some (some
          { cancelled := true, failure := some (.transport "broken pipe"), sender := .ended,
            receiver := .crashed "task 3 panicked", claimed := true },
        [((RequestId.text (paddedId 0)).key, 1)], 0) := by
    decide +kernel
  have hwaiters : (Step.run (happen paddedSetup) (State.fresh []) panickedAfterWrite).map (fun r =>
      (decide (happen paddedSetup r.1 (.act (.caller 2 .join)) = some (r.1.finish 2
        (.failed (.transport "receive task failed: task 3 panicked")))),
      decide (happen paddedSetup r.1 (.act (.caller 3 .claim)) =
        some (r.1.finish 3 (.failed .notConnected))))) = some (true, true) := by
    decide +kernel
  have hincidents : incidents paddedSetup (State.fresh []) panickedAfterWrite 0 =
      [.writeFault (.transport "broken pipe"), .crash "task 3 panicked"] := by
    decide +kernel
  obtain ⟨⟨s, es⟩, hrun, hshown⟩ := Option.map_eq_some_iff.mp hshown
  simp only [Prod.mk.injEq] at hshown
  obtain ⟨hl, hpending, hclosed⟩ := hshown
  rw [hrun, Option.map_some, Option.some.injEq, Prod.mk.injEq, decide_eq_true_iff,
    decide_eq_true_iff] at hwaiters
  refine ⟨s, es, _, hrun, hincidents, hwaiters.1, hwaiters.2, hl, rfl, rfl, hpending, hclosed, fun b => ?_⟩
  cases b <;> simp [happen, step, hl, stepLink]

end Switchboard.Streaming
