-- SUMMARY: What is on record of one call, by how far the call is.
import Switchboard.Proofs.Streaming.Turn

/-!
# Standing

On record of a caller are the ids under which its request was registered, the
messages that were handed to it and how it came out. `Standing` says what these can
be in each phase of the caller. `Progress` is what one step does to one caller and
adds to its record, and it keeps the standing (`Standing.progress`).

A pending entry is always that of a call that was not handed its answer yet
(`State.PendingSound`): this is why a call is handed one message at most.
-/

namespace Switchboard.Streaming

def Phase.isFinished : Phase → Bool
  | .finished _ => true
  | _ => false

/-- Only a call gets registered, and what it sends is a request. -/
structure Sound (r : Request) (p : Phase) : Prop where
  request : p.isFinished = false → ∀ m headers, r = .call m headers → m.isRequest = true
  call : p.isCall = true → r.isCall = true

/-- What is on record of a caller in a phase. -/
inductive Standing : Phase → List RequestId → List Delivery → List Outcome → Prop
  | early {p} (early : p.isEarly = true) : Standing p [] [] []
  | waiting {p x} (exchange : p.exchange? = some x) (empty : x.handed = none) :
      Standing p [x.wire] [] []
  /-- Only an answer that came before the request was queued can be lost. -/
  | handed {p x d} (exchange : p.exchange? = some x) (full : x.handed = some d.passed)
      (queued : d.queued = true → p.isAwaiting = true) : Standing p [x.wire] [d] []
  | answered {w d} : Standing (.finished (.answered d.passed)) [w] [d] [.answered d.passed]
  | failed {ws ds o} (answer : o.isAnswer = false) (once : ws.length ≤ 1) (single : ds.length ≤ 1)
      (lost : ∀ d ∈ ds, d.queued = false) : Standing (.finished o) ws ds [o]

/-- What a step does to one caller and adds to its record. -/
inductive Progress (r : Request) :
    Phase → Phase → List RequestId → List Delivery → List Outcome → Prop
  | stay {q} : Progress r q q [] [] []
  | advance {q p} (early : q.isEarly = true) (still : p.isEarly = true)
      (call : p.isCall = true → r.isCall = true) : Progress r q p [] [] []
  | conclude {q o} (early : q.isEarly = true) (answer : o.isAnswer = false) :
      Progress r q (.finished o) [] [] [o]
  | register {link x} (handed : x.handed = none) :
      Progress r (.registering link) (.enqueuing x) [x.wire] [] []
  | enqueue {x} : Progress r (.enqueuing x) (.awaiting x) [] [] []
  | drop {q x e} (origin : q = .enqueuing x ∨ q = .awaiting x ∧ x.handed = none) :
      Progress r q (.withdrawing x e) [] [] []
  | withdraw {x e} : Progress r (.withdrawing x e) (.finished (.failed e)) [] [] [.failed e]
  | answer {x m} (handed : x.handed = some m) :
      Progress r (.awaiting x) (.finished (.answered m)) [] [] [.answered m]
  | hand {q x d} (listens : q.listens = true) (exchange : q.exchange? = some x)
      (empty : x.handed = none) (queued : d.queued = q.isAwaiting) :
      Progress r q (q.hand d.passed) [] [d] []

variable {u : Setup} {s t : State} {i j : Nat} {r : Request} {p q : Phase} {es : List Event}
  {ds ds' : List Delivery} {rs : List Request} {ws ws' : List RequestId} {os os' : List Outcome}

/-! ## Phases -/

theorem exchange?_of_early (h : q.isEarly = true) : q.exchange? = none := by
  cases q <;> first | rfl | cases h

theorem exchange?_hand {x : Exchange} {m : Message} (hl : q.listens = true)
    (hx : q.exchange? = some x) : (q.hand m).exchange? = some { x with handed := some m } := by
  cases q <;> cases hl <;> cases hx <;> rfl

theorem isAwaiting_hand (m : Message) : (q.hand m).isAwaiting = q.isAwaiting := by
  cases q <;> rfl

/-! ## Standing is kept -/

/-- A caller without an id on the wire has nothing on record. -/
theorem Standing.of_early (h : Standing q ws ds os) (early : q.isEarly = true) :
    ws = [] ∧ ds = [] ∧ os = [] := by
  have hx := exchange?_of_early early
  cases h with
  | early => exact ⟨rfl, rfl, rfl⟩
  | waiting exchange | handed exchange =>
    rw [hx] at exchange
    cases exchange
  | answered | failed => cases early

/-- What is on record of a registered call that has not come out. -/
theorem Standing.of_exchange {x : Exchange} (h : Standing q ws ds os) (hx : q.exchange? = some x) :
    ws = [x.wire] ∧ os = [] ∧ (x.handed = none ∧ ds = [] ∨
      ∃ d, x.handed = some d.passed ∧ ds = [d] ∧ (d.queued = true → q.isAwaiting = true)) := by
  cases h with
  | early early =>
    rw [exchange?_of_early early] at hx
    cases hx
  | waiting exchange empty =>
    rw [exchange] at hx
    cases hx
    exact ⟨rfl, rfl, .inl ⟨empty, rfl⟩⟩
  | handed exchange full queued =>
    rw [exchange] at hx
    cases hx
    exact ⟨rfl, rfl, .inr ⟨_, full, rfl, queued⟩⟩
  | answered | failed => cases hx

theorem Standing.progress (h : Standing q ws ds os) (hp : Progress r q p ws' ds' os') :
    Standing p (ws ++ ws') (ds ++ ds') (os ++ os') := by
  cases hp with
  | stay => simpa using h
  | advance early still =>
    obtain ⟨rfl, rfl, rfl⟩ := h.of_early early
    exact .early still
  | conclude early answer =>
    obtain ⟨rfl, rfl, rfl⟩ := h.of_early early
    exact .failed answer (Nat.zero_le 1) (Nat.zero_le 1) fun _ hd => nomatch hd
  | register handed =>
    obtain ⟨rfl, rfl, rfl⟩ := h.of_early rfl
    exact .waiting rfl handed
  | @enqueue x =>
    obtain ⟨rfl, rfl, ⟨empty, rfl⟩ | ⟨d, full, rfl, -⟩⟩ := h.of_exchange (x := x) rfl
    · exact .waiting rfl empty
    · exact .handed rfl full fun _ => rfl
  | @drop _ x e origin =>
    obtain ⟨rfl, rfl, ⟨empty, rfl⟩ | ⟨d, full, rfl, queued⟩⟩ :=
      h.of_exchange (x := x) (by rcases origin with rfl | ⟨rfl, -⟩ <;> rfl)
    · exact .waiting rfl empty
    · rcases origin with rfl | ⟨rfl, hnone⟩
      · exact .handed rfl full queued
      · rw [hnone] at full
        cases full
  | @withdraw x e =>
    obtain ⟨rfl, rfl, ⟨empty, rfl⟩ | ⟨d, full, rfl, queued⟩⟩ := h.of_exchange (x := x) rfl
    · exact .failed rfl (Nat.le_refl 1) (Nat.zero_le 1) fun _ hd => nomatch hd
    · refine .failed rfl (Nat.le_refl 1) (Nat.le_refl 1) fun d' hd => ?_
      obtain rfl := List.mem_singleton.mp hd
      exact Bool.eq_false_iff.mpr fun h => nomatch queued h
  | @answer x m handed =>
    obtain ⟨rfl, rfl, ⟨empty, rfl⟩ | ⟨d, full, rfl, -⟩⟩ := h.of_exchange (x := x) rfl
    · rw [handed] at empty
      cases empty
    · rw [handed] at full
      cases full
      exact .answered
  | @hand _ x d listens exchange empty queued =>
    obtain ⟨rfl, rfl, ⟨-, rfl⟩ | ⟨d', full, rfl, -⟩⟩ := h.of_exchange exchange
    · refine .handed (x := { x with handed := some d.passed }) (exchange?_hand listens exchange) rfl
        fun h => ?_
      rw [isAwaiting_hand, ← queued, h]
    · rw [empty] at full
      cases full

/-! ## Pending entries -/

/-- A pending entry is that of a call which was not handed its answer yet, under its id. -/
def State.PendingSound (s : State) : Prop :=
  ∀ key i, s.pending.find? key = some i → ∃ r p x, s.seat? i = some (r, p) ∧
    p.exchange? = some x ∧ x.handed = none ∧ x.wire.key = key

/-- It is enough that no entry is new and that the callers of those that are left keep theirs. -/
theorem State.PendingSound.of_subset (h : s.PendingSound)
    (old : ∀ key i, t.pending.find? key = some i → s.pending.find? key = some i)
    (kept : ∀ key i r q x, t.pending.find? key = some i → s.seat? i = some (r, q) →
      q.exchange? = some x → x.handed = none → x.wire.key = key →
      ∃ p, t.seat? i = some (r, p) ∧ p.exchange? = some x) : t.PendingSound := by
  intro key i hi
  obtain ⟨r, q, x, hs, hx, empty, hkey⟩ := h key i (old key i hi)
  obtain ⟨p, ht, hp⟩ := kept key i r q x hi hs hx empty hkey
  exact ⟨r, p, x, ht, hp, empty, hkey⟩

theorem State.PendingSound.of_seats (h : s.PendingSound) (seats : ∀ j, t.seat? j = s.seat? j)
    (old : ∀ key i, t.pending.find? key = some i → s.pending.find? key = some i) : t.PendingSound :=
  h.of_subset old fun _ i _ q _ _ hs hx _ _ => ⟨q, (seats i).trans hs, hx⟩

theorem State.PendingSound.of_enter (h : s.PendingSound)
    (after : ∀ j, t.seat? j = if j = s.callers.length then some (r, p) else s.seat? j)
    (pending : t.pending = s.pending) : t.PendingSound := by
  refine h.of_subset (fun _ _ hi => pending ▸ hi) fun _ i r q x _ hs hx _ _ => ⟨q, ?_, hx⟩
  have hi : i ≠ s.callers.length := by
    rintro rfl
    rw [seat?_length] at hs
    cases hs
  rw [after, if_neg hi, hs]

theorem State.PendingSound.of_moves (h : s.PendingSound) (moves : Moves s t i r q p)
    (old : ∀ key j, t.pending.find? key = some j → s.pending.find? key = some j)
    (kept : ∀ key x, t.pending.find? key = some i → q.exchange? = some x → x.handed = none →
      x.wire.key = key → p.exchange? = some x) : t.PendingSound := by
  refine h.of_subset old fun key j r' q' x hj hs hx empty hkey => ?_
  by_cases hji : j = i
  · subst hji
    rw [moves.before] at hs
    cases hs
    exact ⟨p, by rw [moves.after, if_pos rfl], kept key x hj hx empty hkey⟩
  · exact ⟨q', by rw [moves.after, if_neg hji, hs], hx⟩

theorem find?_of_erase {key k : String} (pending : t.pending = s.pending.erase k)
    (h : t.pending.find? key = some i) : k ≠ key ∧ s.pending.find? key = some i := by
  rw [pending, Keyed.find?_erase] at h
  split at h
  · cases h
  · next hne => exact ⟨hne, h⟩

theorem State.PendingSound.turn (h : s.PendingSound) (ht : Turn u s t es ds rs) : t.PendingSound := by
  cases ht with
  | aside seats pending => exact h.of_seats seats fun _ _ hi => pending ▸ hi
  | clear seats pending =>
    intro key i hi
    rw [pending] at hi
    cases hi
  | enter after pending | refuse after pending => exact h.of_enter after pending
  | advance moves pending _ early | conclude moves pending _ early =>
    refine h.of_moves moves (fun _ _ hi => pending ▸ hi) fun _ x _ hx => ?_
    rw [exchange?_of_early early] at hx
    cases hx
  | @register r i link x moves wire handed pending =>
    intro key j hj
    rw [pending, Keyed.find?_insert] at hj
    split at hj
    · next hkey =>
      cases hj
      exact ⟨r, _, x, by rw [moves.after, if_pos rfl], rfl, handed, hkey⟩
    · obtain ⟨r', q, y, hs, hy, empty, hkey⟩ := h key j hj
      have hji : j ≠ i := by
        rintro rfl
        rw [moves.before] at hs
        cases hs
        cases hy
      exact ⟨r', q, y, by rw [moves.after, if_neg hji, hs], hy, empty, hkey⟩
  | enqueue moves pending =>
    exact h.of_moves moves (fun _ _ hi => pending ▸ hi) fun _ x _ hx _ _ => hx
  | drop moves origin pending =>
    refine h.of_moves moves (fun _ _ hi => pending ▸ hi) fun _ x _ hx _ _ => ?_
    rcases origin with rfl | ⟨rfl, -⟩ <;> exact hx
  | withdraw moves pending =>
    refine h.of_moves moves (fun _ _ hi => (find?_of_erase pending hi).2) fun key x hi hx _ hkey => ?_
    cases hx
    exact absurd hkey (find?_of_erase pending hi).1
  | answer moves handed pending =>
    refine h.of_moves moves (fun _ _ hi => pending ▸ hi) fun _ x _ hx empty _ => ?_
    cases hx
    rw [handed] at empty
    cases empty
  | hand moves found listens _ _ pending =>
    refine h.of_moves moves (fun _ _ hi => (find?_of_erase pending hi).2) fun key x hi hx _ hkey => ?_
    -- The caller has one id on the wire, and the entry under it was erased.
    obtain ⟨_, _, y, hs, hy, -, hwire⟩ := h _ _ found.pending
    rw [moves.before] at hs
    cases hs
    rw [hx] at hy
    cases hy
    exact absurd (hwire.symm.trans hkey) (find?_of_erase pending hi).1
  | miss seat found deaf seats _ pending =>
    exact h.of_seats seats fun _ _ hi => (find?_of_erase pending hi).2
  | pass seats _ _ _ _ pending =>
    refine h.of_seats seats fun _ _ hi => ?_
    rcases pending with pending | ⟨_, _, -, -, pending⟩
    · exact pending ▸ hi
    · exact (find?_of_erase pending hi).2

/-! ## Turns as progress of callers -/

/-- Events of other things add nothing to any record. -/
theorem record_of_quiet (quiet : ∀ e ∈ es, e.isAside = true) :
    allWires es = [] ∧ calledBack es = [] ∧ ∀ i, wires i es = [] ∧ outcomes i es = [] := by
  simp only [allWires, calledBack, wires, outcomes, List.filterMap_eq_nil_iff]
  refine ⟨?_, ?_, fun i => ⟨?_, ?_⟩⟩
  all_goals
    intro e he
    have := quiet e he
    cases e <;> first | rfl | cases this

theorem isAside_of_dialed (h : ∀ e ∈ es, ∃ headers, e = .dialed headers) :
    ∀ e ∈ es, e.isAside = true := by
  intro e he
  obtain ⟨headers, rfl⟩ := h e he
  rfl

theorem record_of_calledBack (cs : List (String × Message)) :
    allWires (cs.map fun c => .calledBack c.1 c.2) = [] ∧
      calledBack (cs.map fun c => .calledBack c.1 c.2) = cs ∧
      ∀ i, wires i (cs.map fun c => .calledBack c.1 c.2) = [] ∧
        outcomes i (cs.map fun c => .calledBack c.1 c.2) = [] := by
  induction cs with
  | nil => exact ⟨rfl, rfl, fun _ => ⟨rfl, rfl⟩⟩
  | cons c cs ih => exact ⟨ih.1, congrArg (c :: ·) ih.2.1, ih.2.2⟩

/-- What a step does to the caller that moves, and that it adds nothing to other records. -/
theorem Moves.progress {r' : Request} {q' : Phase} (h : Moves s t i r q p)
    (hj : s.seat? j = some (r', q'))
    (mover : Progress r q p (wires i es) (handedTo i ds) (outcomes i es))
    (others : j ≠ i → wires j es = [] ∧ handedTo j ds = [] ∧ outcomes j es = []) :
    ∃ p', t.seat? j = some (r', p') ∧
      Progress r' q' p' (wires j es) (handedTo j ds) (outcomes j es) := by
  by_cases hji : j = i
  · subst hji
    rw [h.before] at hj
    cases hj
    exact ⟨p, by rw [h.after, if_pos rfl], mover⟩
  · obtain ⟨hws, hds, hos⟩ := others hji
    refine ⟨q', by rw [h.after, if_neg hji, hj], ?_⟩
    rw [hws, hds, hos]
    exact .stay

/-- A step of the client is progress, or none, of each caller. -/
theorem Turn.progress (ht : Turn u s t es ds rs) (h : s.PendingSound) (hj : s.seat? j = some (r, q)) :
    ∃ p, t.seat? j = some (r, p) ∧
      Progress r q p (wires j es) (handedTo j ds) (outcomes j es) := by
  have hlength : j ≠ s.callers.length := by
    rintro rfl
    rw [seat?_length] at hj
    cases hj
  cases ht with
  | aside seats _ _ quiet =>
    obtain ⟨hws, hos⟩ := (record_of_quiet quiet).2.2 j
    exact ⟨q, (seats j).trans hj, by rw [hws, hos]; exact .stay⟩
  | clear seats => exact ⟨q, (seats j).trans hj, .stay⟩
  | enter after => exact ⟨q, by rw [after, if_neg hlength, hj], .stay⟩
  | refuse after =>
    refine ⟨q, by rw [after, if_neg hlength, hj], ?_⟩
    rw [outcomes_finished, if_neg hlength.symm]
    exact .stay
  | advance moves _ _ early still call quiet =>
    have record := (record_of_quiet (isAside_of_dialed quiet)).2.2
    refine moves.progress hj ?_ fun _ => ⟨(record j).1, rfl, (record j).2⟩
    rw [(record _).1, (record _).2]
    exact .advance early still call
  | conclude moves _ _ early answer =>
    refine moves.progress hj ?_ fun hne => ⟨rfl, rfl, by simp [hne.symm]⟩
    simpa using .conclude early answer
  | register moves _ handed =>
    refine moves.progress hj ?_ fun hne => ⟨by simp [hne.symm], rfl, rfl⟩
    simpa using .register handed
  | enqueue moves => exact moves.progress hj .enqueue fun _ => ⟨rfl, rfl, rfl⟩
  | drop moves origin => exact moves.progress hj (.drop origin) fun _ => ⟨rfl, rfl, rfl⟩
  | withdraw moves =>
    refine moves.progress hj ?_ fun hne => ⟨rfl, rfl, by simp [hne.symm]⟩
    simpa using .withdraw
  | answer moves handed =>
    refine moves.progress hj ?_ fun hne => ⟨rfl, rfl, by simp [hne.symm]⟩
    simpa using .answer handed
  | hand moves found listens taker queued =>
    obtain ⟨_, _, x, hs, hx, empty, -⟩ := h _ _ found.pending
    rw [moves.before] at hs
    cases hs
    refine moves.progress hj ?_ fun hne => ⟨rfl, by simp [taker, hne.symm], rfl⟩
    simpa [taker] using .hand listens hx empty queued
  | @miss _ _ _ _ d seat found deaf seats taker =>
    obtain ⟨hws, hos⟩ := (record_of_calledBack d.left).2.2 j
    refine ⟨q, (seats j).trans hj, ?_⟩
    rw [hws, hos, handedTo_singleton, taker]
    exact .stay
  | @pass d seats waiter taker =>
    obtain ⟨hws, hos⟩ := (record_of_calledBack d.left).2.2 j
    refine ⟨q, (seats j).trans hj, ?_⟩
    rw [hws, hos, handedTo_singleton, taker]
    exact .stay

theorem Moves.vacant (h : Moves s t i r q p) (hj : s.seat? j = none) :
    i ≠ j ∧ t.seat? j = none := by
  have hij : i ≠ j := by
    rintro rfl
    rw [h.before] at hj
    cases hj
  exact ⟨hij, by rw [h.after, if_neg hij.symm, hj]⟩

/-- What comes of a number that is not a caller's: a caller that is new, or nothing. -/
theorem Turn.newcomer (ht : Turn u s t es ds rs) (hj : s.seat? j = none) :
    (∃ r p, t.seat? j = some (r, p) ∧ Sound r p ∧
      Standing p (wires j es) (handedTo j ds) (outcomes j es)) ∨
      t.seat? j = none ∧ wires j es = [] ∧ handedTo j ds = [] ∧ outcomes j es = [] := by
  cases ht with
  | aside seats _ _ quiet =>
    obtain ⟨hws, hos⟩ := (record_of_quiet quiet).2.2 j
    exact .inr ⟨(seats j).trans hj, hws, rfl, hos⟩
  | clear seats => exact .inr ⟨(seats j).trans hj, rfl, rfl, rfl⟩
  | @enter r after _ _ request =>
    by_cases hlength : j = s.callers.length
    · exact .inl ⟨r, .waiting, by rw [after, if_pos hlength], ⟨fun _ => request, (fun h => nomatch h)⟩,
        .early rfl⟩
    · exact .inr ⟨by rw [after, if_neg hlength, hj], rfl, rfl, rfl⟩
  | @refuse r e after =>
    by_cases hlength : j = s.callers.length
    · refine .inl ⟨r, .finished (.failed e), by rw [after, if_pos hlength],
        ⟨(fun h => nomatch h), fun h => nomatch h⟩, ?_⟩
      rw [outcomes_finished, if_pos hlength.symm]
      exact .failed rfl (Nat.zero_le 1) (Nat.zero_le 1) fun _ hd => nomatch hd
    · exact .inr ⟨by rw [after, if_neg hlength, hj], rfl, rfl, by simp [Ne.symm hlength]⟩
  | advance moves _ _ _ _ _ quiet =>
    obtain ⟨hws, hos⟩ := (record_of_quiet (isAside_of_dialed quiet)).2.2 j
    exact .inr ⟨(moves.vacant hj).2, hws, rfl, hos⟩
  | enqueue moves | drop moves => exact .inr ⟨(moves.vacant hj).2, rfl, rfl, rfl⟩
  | conclude moves | withdraw moves | answer moves =>
    exact .inr ⟨(moves.vacant hj).2, rfl, rfl, by simp [(moves.vacant hj).1]⟩
  | register moves => exact .inr ⟨(moves.vacant hj).2, by simp [(moves.vacant hj).1], rfl, rfl⟩
  | hand moves _ _ taker =>
    exact .inr ⟨(moves.vacant hj).2, rfl, by simp [taker, (moves.vacant hj).1], rfl⟩
  | @miss _ _ _ _ d _ _ _ seats taker | @pass d seats _ taker =>
    obtain ⟨hws, hos⟩ := (record_of_calledBack d.left).2.2 j
    exact .inr ⟨(seats j).trans hj, hws, by simp [taker], hos⟩

end Switchboard.Streaming
