-- SUMMARY: What is on record of all calls of a streaming client, and that it adds up.
import Switchboard.Proofs.Streaming.Standing
import Mathlib.Data.List.Pairwise
import Mathlib.Logic.Function.Defs

/-!
# Books

A book is the whole record of a run: the events, the deliveries and the requests.
`Book` says that it adds up with the state in which the run has ended. Each turn
keeps it (`Book.turn`), so it holds after every run (`book_of_run`). That no two
calls share an id on the wire is apart from this, as it alone depends on the ids
that are drawn (`WiresFresh`).
-/

namespace Switchboard.Streaming

/-- The call has failed, or is about to. -/
def Phase.isLost : Phase → Bool
  | .withdrawing .. => true
  | .finished o => !o.isAnswer
  | _ => false

/-- The record of a run and the state in which it has ended. -/
structure Book (s : State) (es : List Event) (ds : List Delivery) (rs : List Request) : Prop where
  requests : ∀ j, rs[j]? = (s.seat? j).map Prod.fst
  pending : s.PendingSound
  standing : ∀ j r p, s.seat? j = some (r, p) →
    Standing p (wires j es) (handedTo j ds) (outcomes j es)
  vacant : ∀ j, s.seat? j = none → wires j es = [] ∧ handedTo j ds = [] ∧ outcomes j es = []
  sound : ∀ j r p, s.seat? j = some (r, p) → Sound r p
  matched : ∀ d ∈ ds, ∀ i, d.waiter = some i → ∃ r p wire id, s.seat? i = some (r, p) ∧
    wires i es = [wire] ∧ d.message.isAnswer = true ∧ d.message.id? = some wire ∧
    r.id? = some id ∧ d.passed = d.message.withId id ∧
    (d.taker = some i ∨ d.taker = none ∧ p.isLost = true)
  unmatched : ∀ d ∈ ds, d.waiter = none → d.taker = none ∧ d.passed = d.message
  left : calledBack es = ds.flatMap Delivery.left

variable {u : Setup} {s t : State} {i j : Nat} {r : Request} {p q : Phase} {es es' : List Event}
  {ds ds' : List Delivery} {rs rs' : List Request} {ws ws' : List RequestId} {os os' : List Outcome}

/-! ## One caller -/

theorem Standing.length_wires_le (h : Standing p ws ds os) : ws.length ≤ 1 := by
  cases h with
  | failed _ once => exact once
  | early => exact Nat.zero_le 1
  | waiting | handed | answered => exact Nat.le_refl 1

theorem not_finished_of_early (h : q.isEarly = true) : q.isFinished = false := by
  cases q <;> first | rfl | cases h

theorem not_finished_of_call (h : q.isCall = true) : q.isFinished = false := by
  cases q <;> first | rfl | cases h

theorem isCall_of_listens (h : q.listens = true) : q.isCall = true := by
  cases q <;> first | rfl | cases h

theorem isCall_of_exchange {x : Exchange} (hx : q.exchange? = some x) : q.isCall = true := by
  cases q <;> first | rfl | cases hx

theorem isLost_of_deaf {x : Exchange} (h : q.listens = false) (hx : q.exchange? = some x) :
    q.isLost = true := by
  cases q <;> first | rfl | (cases hx; done) | cases h

theorem Sound.id (h : Sound r p) (hp : p.isCall = true) : ∃ id, r.id? = some id := by
  cases r with
  | call m headers =>
    have hm := h.request (not_finished_of_call hp) m headers rfl
    cases hc : m.content with
    | request id _ _ => exact ⟨id, by simp [Request.id?, Message.id?, hc]⟩
    | _ => simp [Message.isRequest, hc] at hm
  | _ => cases h.call hp

theorem Sound.progress (h : Sound r q) (hp : Progress r q p ws ds os) : Sound r p := by
  cases hp with
  | stay => exact h
  | advance early still call => exact ⟨fun _ => h.request (not_finished_of_early early), call⟩
  | conclude | withdraw | answer => exact ⟨(fun h => nomatch h), fun h => nomatch h⟩
  | register | enqueue => exact ⟨fun _ => h.request rfl, fun _ => h.call rfl⟩
  | drop origin => rcases origin with rfl | ⟨rfl, -⟩ <;> exact ⟨fun _ => h.request rfl, fun _ => h.call rfl⟩
  | hand listens =>
    have hcall := isCall_of_listens listens
    exact ⟨fun _ => h.request (not_finished_of_call hcall), fun _ => h.call hcall⟩

/-- A call that has failed gets no answer any more. -/
theorem Progress.isLost (hp : Progress r q p ws ds os) (h : q.isLost = true) : p.isLost = true := by
  cases hp with
  | stay => exact h
  | withdraw | drop => rfl
  | advance early | conclude early => cases q <;> first | (cases early; done) | cases h
  | register | enqueue | answer => cases h
  | hand listens => cases q <;> first | (cases listens; done) | cases h

/-! ## One turn -/

theorem getElem?_requests (j : Nat) :
    (s.callers.map Caller.request)[j]? = (s.seat? j).map Prod.fst := by
  rw [List.getElem?_map, State.seat?, Option.map_map]
  rfl

theorem Moves.request (h : Moves s t i r q p) (j : Nat) :
    (t.seat? j).map Prod.fst = (s.seat? j).map Prod.fst := by
  rw [h.after]
  split
  · next hj => rw [hj, h.before, Option.map_some, Option.map_some]
  · rfl

theorem Turn.requests (ht : Turn u s t es ds rs) (j : Nat) :
    (t.seat? j).map Prod.fst = (s.callers.map Caller.request ++ rs)[j]? := by
  cases ht with
  | aside seats | clear seats | pass seats | miss _ _ _ seats =>
    rw [List.append_nil, getElem?_requests, seats]
  | enter after | refuse after =>
    rw [after, List.getElem?_append, List.length_map, getElem?_requests, List.getElem?_singleton]
    by_cases hlt : j < s.callers.length
    · rw [if_neg (Nat.ne_of_lt hlt), if_pos hlt]
    · by_cases hj : j = s.callers.length
      · simp [hj]
      · rw [if_neg hj, if_neg hlt, if_neg (by omega), State.seat?,
          List.getElem?_eq_none (Nat.le_of_not_lt hlt)]
        rfl
  | advance moves | conclude moves | register moves | enqueue moves | drop moves | withdraw moves
  | answer moves | hand moves =>
    rw [List.append_nil, getElem?_requests, moves.request]

theorem Turn.left (ht : Turn u s t es ds rs) : calledBack es = ds.flatMap Delivery.left := by
  cases ht with
  | aside _ _ _ quiet => exact (record_of_quiet quiet).2.1
  | advance _ _ _ _ _ _ quiet => exact (record_of_quiet (isAside_of_dialed quiet)).2.1
  | hand _ _ _ taker => simp [Delivery.left, taker, calledBack]
  | miss | pass => simp [(record_of_calledBack _).2.1]
  | _ => rfl

/-- What a turn delivers is left as it is, or the answer to a call whose entry was pending. -/
theorem Turn.found (ht : Turn u s t es ds rs) {d : Delivery} (hd : d ∈ ds) :
    d.waiter = none ∧ d.taker = none ∧ d.passed = d.message ∨
      ∃ i r q wire, s.seat? i = some (r, q) ∧ Matches s d i r wire ∧
        (d.taker = some i ∨ d.taker = none ∧ q.listens = false) := by
  cases ht with
  | hand moves found _ taker =>
    obtain rfl := List.mem_singleton.mp hd
    exact .inr ⟨_, _, _, _, moves.before, found, .inl taker⟩
  | miss seat found deaf _ taker =>
    obtain rfl := List.mem_singleton.mp hd
    exact .inr ⟨_, _, _, _, seat, found, .inr ⟨taker, deaf⟩⟩
  | pass _ waiter taker passed =>
    obtain rfl := List.mem_singleton.mp hd
    exact .inl ⟨waiter, taker, passed⟩
  | _ => cases hd

/-! ## The book is kept -/

theorem Book.fresh (headers : Headers) : Book (State.fresh headers) [] [] [] where
  requests _ := rfl
  pending _ _ h := nomatch h
  standing _ _ _ h := nomatch h
  vacant _ _ := ⟨rfl, rfl, rfl⟩
  sound _ _ _ h := nomatch h
  matched _ h := nomatch h
  unmatched _ h := nomatch h
  left := rfl

theorem Book.requests_eq (h : Book s es ds rs) : rs = s.callers.map Caller.request :=
  List.ext_getElem? fun j => by rw [h.requests, getElem?_requests]

section
variable (h : Book s es ds rs) (ht : Turn u s t es' ds' rs')
include h ht

theorem Book.standing_turn (hj : t.seat? j = some (r, p)) :
    Standing p (wires j (es ++ es')) (handedTo j (ds ++ ds')) (outcomes j (es ++ es')) := by
  rw [wires_append, handedTo_append, outcomes_append]
  cases hs : s.seat? j with
  | some e =>
    obtain ⟨r', q⟩ := e
    obtain ⟨p', hp', progress⟩ := ht.progress h.pending hs
    rw [hj] at hp'
    cases hp'
    exact (h.standing j r q hs).progress progress
  | none =>
    obtain ⟨hws, hds, hos⟩ := h.vacant j hs
    rcases ht.newcomer hs with ⟨r', p', hp', -, standing⟩ | ⟨hnone, -⟩
    · rw [hj] at hp'
      cases hp'
      rwa [hws, hds, hos]
    · rw [hj] at hnone
      cases hnone

theorem Book.vacant_turn (hj : t.seat? j = none) :
    wires j (es ++ es') = [] ∧ handedTo j (ds ++ ds') = [] ∧ outcomes j (es ++ es') = [] := by
  rw [wires_append, handedTo_append, outcomes_append]
  cases hs : s.seat? j with
  | some e =>
    obtain ⟨p', hp', -⟩ := ht.progress h.pending hs
    rw [hj] at hp'
    cases hp'
  | none =>
    obtain ⟨hws, hds, hos⟩ := h.vacant j hs
    rcases ht.newcomer hs with ⟨_, _, hp', -⟩ | ⟨-, hws', hds', hos'⟩
    · rw [hj] at hp'
      cases hp'
    · rw [hws, hds, hos, hws', hds', hos']
      exact ⟨rfl, rfl, rfl⟩

/-- A call that is registered is not registered again. -/
theorem Book.wires_turn {wire : RequestId} (hj : t.seat? j = some (r, p))
    (hwires : wires j es = [wire]) : wires j (es ++ es') = [wire] := by
  have hle := (h.standing_turn ht hj).length_wires_le
  rw [wires_append, hwires] at hle ⊢
  have hnil : wires j es' = [] := List.eq_nil_of_length_eq_zero (by simpa using hle)
  rw [hnil, List.append_nil]

theorem Book.matched_turn {d : Delivery} (hd : d ∈ ds ++ ds') (hi : d.waiter = some i) :
    ∃ r p wire id, t.seat? i = some (r, p) ∧ wires i (es ++ es') = [wire] ∧
      d.message.isAnswer = true ∧ d.message.id? = some wire ∧ r.id? = some id ∧
      d.passed = d.message.withId id ∧
      (d.taker = some i ∨ d.taker = none ∧ p.isLost = true) := by
  rcases List.mem_append.mp hd with hd | hd
  · obtain ⟨r, q, wire, id, hs, hwires, answer, hid, hr, passed, taker⟩ := h.matched d hd i hi
    obtain ⟨p, hp, progress⟩ := ht.progress h.pending hs
    exact ⟨r, p, wire, id, hp, h.wires_turn ht hp hwires, answer, hid, hr, passed,
      taker.imp_right fun ⟨hnone, lost⟩ => ⟨hnone, progress.isLost lost⟩⟩
  · rcases ht.found hd with ⟨hnone, -⟩ | ⟨i', r, q, wire, hs, found, taker⟩
    · rw [hnone] at hi
      cases hi
    · obtain rfl : i' = i := Option.some.inj (found.waiter.symm.trans hi)
      obtain ⟨p, hp, progress⟩ := ht.progress h.pending hs
      obtain ⟨_, _, x, hs', hx, -, hkey⟩ := h.pending _ _ found.pending
      rw [hs] at hs'
      cases hs'
      obtain rfl := RequestId.key_injective hkey
      obtain ⟨hwires, -⟩ := (h.standing i' r q hs).of_exchange hx
      obtain ⟨id, hid⟩ : ∃ id, r.id? = some id := (h.sound i' r q hs).id (isCall_of_exchange hx)
      have passed : d.passed = d.message.withId id := by rw [found.passed, hid]; rfl
      exact ⟨r, p, x.wire, id, hp, h.wires_turn ht hp hwires, found.answer, found.id, hid, passed,
        taker.imp_right fun ⟨hnone, deaf⟩ => ⟨hnone, progress.isLost (isLost_of_deaf deaf hx)⟩⟩

theorem Book.turn : Book t (es ++ es') (ds ++ ds') (rs ++ rs') where
  requests j := by rw [ht.requests, h.requests_eq]
  pending := h.pending.turn ht
  standing _ _ _ hj := h.standing_turn ht hj
  vacant _ hj := h.vacant_turn ht hj
  sound j r p hj := by
    cases hs : s.seat? j with
    | some e =>
      obtain ⟨r', q⟩ := e
      obtain ⟨p', hp', progress⟩ := ht.progress h.pending hs
      rw [hj] at hp'
      cases hp'
      exact (h.sound j r q hs).progress progress
    | none =>
      rcases ht.newcomer hs with ⟨_, _, hp', sound, -⟩ | ⟨hnone, -⟩
      · rw [hj] at hp'
        cases hp'
        exact sound
      · rw [hj] at hnone
        cases hnone
  matched _ hd _ hi := h.matched_turn ht hd hi
  unmatched d hd hnone := by
    rcases List.mem_append.mp hd with hd | hd
    · exact h.unmatched d hd hnone
    · rcases ht.found hd with ⟨-, taker, passed⟩ | ⟨_, _, _, _, -, found, -⟩
      · exact ⟨taker, passed⟩
      · rw [found.waiter] at hnone
        cases hnone
  left := by rw [calledBack_append, List.flatMap_append, h.left, ht.left]

end

theorem book_of_run {headers : Headers} {as : List Action}
    (h : run u (State.fresh headers) as = some (t, es)) :
    Book t es (deliveries u (State.fresh headers) as) (requests u (State.fresh headers) as) := by
  refine Step.reach_induction (R := fun t as es =>
    Book t es (deliveries u (State.fresh headers) as) (requests u (State.fresh headers) as))
    (Book.fresh headers) ?_ h
  intro t v a as es fs hrun hbook hstep
  rw [deliveries_concat hrun, requests_concat hrun]
  exact hbook.turn (turn_of_step hstep)

/-! ## Ids on the wire -/

/-- All ids on the wire have been drawn, and no two are the same. -/
structure WiresFresh (u : Setup) (s : State) (es : List Event) : Prop where
  drawn : ∀ wire ∈ allWires es, ∃ n < s.drawn, wire = .text (u.freshId n)
  distinct : (allWires es).Nodup

theorem Turn.wires (ht : Turn u s t es ds rs) :
    allWires es = [] ∧ s.drawn ≤ t.drawn ∨
      allWires es = [.text (u.freshId s.drawn)] ∧ t.drawn = s.drawn + 1 := by
  cases ht with
  | aside _ _ drawn quiet => exact .inl ⟨(record_of_quiet quiet).1, Nat.le_of_eq drawn.symm⟩
  | advance _ _ drawn _ _ _ quiet =>
    exact .inl ⟨(record_of_quiet (isAside_of_dialed quiet)).1, Nat.le_of_eq drawn.symm⟩
  | enter _ _ drawn => exact .inl ⟨rfl, drawn⟩
  | register _ wire _ _ drawn => exact .inr ⟨by rw [← wire]; rfl, drawn⟩
  | miss _ _ _ _ _ _ drawn | pass _ _ _ _ drawn =>
    exact .inl ⟨(record_of_calledBack _).1, Nat.le_of_eq drawn.symm⟩
  | clear _ _ drawn | refuse _ _ drawn | conclude _ _ drawn | enqueue _ _ drawn | drop _ _ _ drawn
  | withdraw _ _ drawn | answer _ _ _ drawn | hand _ _ _ _ _ _ drawn =>
    exact .inl ⟨rfl, Nat.le_of_eq drawn.symm⟩

theorem WiresFresh.turn (hfresh : Function.Injective u.freshId) (h : WiresFresh u s es)
    (ht : Turn u s t es' ds rs) : WiresFresh u t (es ++ es') := by
  rcases ht.wires with ⟨hnil, hle⟩ | ⟨hwire, hdrawn⟩
  · constructor
    · intro wire hmem
      rw [allWires_append, hnil, List.append_nil] at hmem
      obtain ⟨n, hn, rfl⟩ := h.drawn wire hmem
      exact ⟨n, Nat.lt_of_lt_of_le hn hle, rfl⟩
    · rw [allWires_append, hnil, List.append_nil]
      exact h.distinct
  · have hnew : RequestId.text (u.freshId s.drawn) ∉ allWires es := by
      intro hmem
      obtain ⟨n, hn, heq⟩ := h.drawn _ hmem
      exact Nat.ne_of_gt hn (hfresh (RequestId.text.inj heq))
    constructor
    · intro wire hmem
      rw [allWires_append, hwire, List.mem_append, List.mem_singleton] at hmem
      rcases hmem with hmem | rfl
      · obtain ⟨n, hn, rfl⟩ := h.drawn wire hmem
        exact ⟨n, by omega, rfl⟩
      · exact ⟨s.drawn, by omega, rfl⟩
    · rw [allWires_append, hwire, List.nodup_append]
      refine ⟨h.distinct, List.pairwise_singleton _ _, ?_⟩
      rintro wire hmem _ hsingle rfl
      obtain rfl := List.mem_singleton.mp hsingle
      exact hnew hmem

theorem wiresFresh_of_run (hfresh : Function.Injective u.freshId) {headers : Headers} {as : List Action}
    (h : run u (State.fresh headers) as = some (t, es)) : WiresFresh u t es :=
  Step.run_induction (R := fun t _ es => WiresFresh u t es) ⟨(fun _ h => nomatch h), List.nodup_nil⟩
    (fun hwires hstep => hwires.turn hfresh (turn_of_step hstep)) h

theorem registered_of_mem_wires {wire : RequestId} (h : wire ∈ wires i es) :
    .registered i wire ∈ es := by
  obtain ⟨e, he, hw⟩ := List.mem_filterMap.mp h
  split at hw
  · split at hw
    · next hi =>
      cases hw
      exact hi ▸ he
    · cases hw
  · cases hw

/-- Two calls are never registered under one id. -/
theorem WiresFresh.eq_of_mem {wire : RequestId} (h : WiresFresh u s es) (hi : wire ∈ wires i es)
    (hj : wire ∈ wires j es) : i = j := by
  have apart := @List.Pairwise.forall _ _ _
    ⟨fun _ _ differ w hw w' hw' heq => differ w' hw' w hw heq.symm⟩
    (List.pairwise_filterMap.mp h.distinct) _ (registered_of_mem_wires hi) _
    (registered_of_mem_wires hj)
  refine Decidable.byContradiction fun hne => ?_
  exact apart (fun heq => hne (Event.registered.inj heq).1) wire rfl wire rfl rfl

theorem mem_allWires {wire : RequestId} (h : wire ∈ wires i es) : wire ∈ allWires es :=
  List.mem_filterMap.mpr ⟨_, registered_of_mem_wires h, rfl⟩

end Switchboard.Streaming
