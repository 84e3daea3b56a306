-- SUMMARY: A call of a streaming client returns the answer that was sent to it, and no other.
import Switchboard.Proofs.Streaming.Unforeseen

/-!
# Correlation

`Correlated` says what becomes of each message that a client reads and where the
answers of its calls come from; `calls_correlate` says that this is so in every run.
The run is any sequence of steps of any number of callers and connections, and the
peers send what they like. All that is asked of the ids that the client draws is
that no two are the same.

An id is a random number, which its peers learn when they read the request that
travels under it. A peer that answers an id before the request is so much as queued
has guessed it. Only by such an answer can a call be handed one and yet fail
(`Correlated.kept`); where ids are `Unforeseen`, a call returns whatever it was handed
(`Correlated.returned`).
-/

namespace Switchboard.Streaming

/-- What a run that started from `s₀` has made of its calls, and of the messages that it read. -/
structure Correlated (u : Setup) (s₀ : State) (as : List Action) (t : State) (es : List Event) :
    Prop where
  /-- No two calls have the same id on the wire. -/
  distinct : (allWires es).Nodup
  /-- What is written to a peer is what a caller sends, or the request of a call under the call's
  id on the wire. -/
  sent : ∀ k m, .sent k m ∈ es → ∃ i, (requests u s₀ as)[i]? = some (.send m) ∨
    ∃ m' headers wire, (requests u s₀ as)[i]? = some (.call m' headers) ∧
      wires i es = [wire] ∧ m = m'.withId wire
  /-- A call registers once, is handed one message and comes out once. -/
  once : ∀ i, (wires i es).length ≤ 1 ∧ (handedTo i (deliveries u s₀ as)).length ≤ 1 ∧
    (outcomes i es).length ≤ 1
  /-- What a call returns is the one message that was handed to it: an answer to its id on the
  wire, under the caller's own id. -/
  answered : ∀ i r, .finished i (.answered r) ∈ es → ∃ d wire id,
    handedTo i (deliveries u s₀ as) = [d] ∧ wires i es = [wire] ∧
    d.message.isAnswer = true ∧ d.message.id? = some wire ∧
    ((requests u s₀ as)[i]?).bind Request.id? = some id ∧ r = d.message.withId id
  /-- Each connection delivers the messages that arrive on it in their order, and the rest of
  them is yet to be read. -/
  arrived : ∀ k, (onLink k (arrivals u s₀ as)).filterMap Read.message? =
    ((deliveries u s₀ as).filter fun d => d.link = k).map Delivery.message ++
      (t.inbound k).filterMap Read.message?
  /-- The callback is given, in their order, the messages that no call takes. -/
  left : calledBack es = (deliveries u s₀ as).flatMap Delivery.left
  /-- A message that matches no pending entry is left to the callback as it is. -/
  unmatched : ∀ d ∈ deliveries u s₀ as, d.waiter = none → d.taker = none ∧ d.passed = d.message
  /-- A message that matches the entry of a call answers the call's id on the wire. The call takes
  it unless it has given up, in which case it returns no answer. -/
  matched : ∀ d ∈ deliveries u s₀ as, ∀ i, d.waiter = some i →
    d.message.isAnswer = true ∧ (∃ wire, wires i es = [wire] ∧ d.message.id? = some wire) ∧
    (d.taker = some i ∨ d.taker = none ∧ ∀ r, .finished i (.answered r) ∉ es)
  /-- If no peer answers an id before the request under it is queued, a call to which an answer was
  handed returns it, and can do nothing else, whatever became of its deadline, its connection or its
  caller's wish. -/
  returned : Unforeseen u s₀ as (allWires es) → ∀ d ∈ deliveries u s₀ as, ∀ i, d.taker = some i →
    outcomes i es = [.answered d.passed] ∨
    (outcomes i es = [] ∧ ∀ a v, step u t (.caller i a) = some v ↔
      a = .settle ∧ v = t.finish i (.answered d.passed))
  /-- Even if a peer does, this holds of each call whose request was queued by then. Only one that was
  not may fail in spite of the answer. -/
  kept : ∀ d ∈ deliveries u s₀ as, ∀ i, d.taker = some i →
    outcomes i es = [.answered d.passed] ∨
    (outcomes i es = [] ∧ ∀ a v, step u t (.caller i a) = some v ↔
      a = .settle ∧ v = t.finish i (.answered d.passed)) ∨
    (d.queued = false ∧ ∃ r p, t.seat? i = some (r, p) ∧
      (p.isLost = true ∨ ∃ x, p = .enqueuing x))

variable {u : Setup} {s t : State} {i : Nat} {r : Request} {p : Phase} {es : List Event}
  {ds : List Delivery} {rs : List Request} {ws : List RequestId} {os : List Outcome}

/-! ## What the record of a caller says -/

theorem mem_outcomes {o : Outcome} : o ∈ outcomes i es ↔ .finished i o ∈ es := by
  unfold outcomes
  rw [List.mem_filterMap]
  constructor
  · rintro ⟨e, he, h⟩
    split at h
    · split at h
      · next hj =>
        cases h
        exact hj ▸ he
      · cases h
    · cases h
  · exact fun h => ⟨_, h, by simp⟩

theorem mem_handedTo {d : Delivery} : d ∈ handedTo i ds ↔ d ∈ ds ∧ d.taker = some i := by
  simp [handedTo]

theorem Standing.once (h : Standing p ws ds os) : ws.length ≤ 1 ∧ ds.length ≤ 1 ∧ os.length ≤ 1 := by
  cases h with
  | failed _ once single => exact ⟨once, single, Nat.le_refl 1⟩
  | early | waiting | handed | answered => simp

theorem Standing.of_answered {m : Message} (h : Standing p ws ds os) (hm : .answered m ∈ os) :
    ∃ w d, p = .finished (.answered m) ∧ ws = [w] ∧ ds = [d] ∧ m = d.passed := by
  cases h with
  | @answered w d =>
    obtain rfl := Outcome.answered.inj (List.mem_singleton.mp hm)
    exact ⟨w, d, rfl, rfl, rfl, rfl⟩
  | failed answer =>
    obtain rfl := List.mem_singleton.mp hm
    cases answer
  | early | waiting | handed => cases hm

/-- A call that awaits its answer and has it can only return it. -/
theorem step_of_handed {x : Exchange} {m : Message} (hseat : t.seat? i = some (r, .awaiting x))
    (hx : x.handed = some m) (a : CallerAction) (v : State × List Event) :
    step u t (.caller i a) = some v ↔ a = .settle ∧ v = t.finish i (.answered m) := by
  obtain ⟨c, hc, hcr⟩ := Option.map_eq_some_iff.mp hseat
  have hp : c.phase = .awaiting x := congrArg Prod.snd hcr
  rw [step, hc, Option.bind_some]
  cases a with
  | settle => simp [stepCaller, hp, settled?, hx, eq_comm]
  | reuse => cases hu : t.usable? <;> simp [stepCaller, hp, mayConnect, hu]
  | _ => simp [stepCaller, hp, mayConnect]

theorem Book.seat_of_handed {d : Delivery} (h : Book t es ds rs) (hd : d ∈ handedTo i ds) :
    ∃ r p, t.seat? i = some (r, p) := by
  cases hseat : t.seat? i with
  | some e => exact ⟨e.1, e.2, rfl⟩
  | none =>
    rw [(h.vacant i hseat).2.1] at hd
    cases hd

theorem Book.seat_of_finished {o : Outcome} (h : Book t es ds rs) (ho : .finished i o ∈ es) :
    ∃ r p, t.seat? i = some (r, p) := by
  cases hseat : t.seat? i with
  | some e => exact ⟨e.1, e.2, rfl⟩
  | none =>
    have hmem := mem_outcomes.mpr ho
    rw [(h.vacant i hseat).2.2] at hmem
    cases hmem

theorem Book.once (h : Book t es ds rs) (i : Nat) :
    (wires i es).length ≤ 1 ∧ (handedTo i ds).length ≤ 1 ∧ (outcomes i es).length ≤ 1 := by
  cases hseat : t.seat? i with
  | some e => exact (h.standing i e.1 e.2 hseat).once
  | none =>
    obtain ⟨hws, hds, hos⟩ := h.vacant i hseat
    rw [hws, hds, hos]
    exact ⟨Nat.zero_le 1, Nat.zero_le 1, Nat.zero_le 1⟩

/-- What is handed to a call matches its entry. -/
theorem Book.waiter_of_taker (h : Book t es ds rs) {d : Delivery} (hd : d ∈ ds)
    (hi : d.taker = some i) : d.waiter = some i := by
  cases hw : d.waiter with
  | none =>
    rw [(h.unmatched d hd hw).1] at hi
    cases hi
  | some j =>
    obtain ⟨_, _, _, _, -, -, -, -, -, -, taker | ⟨hnone, -⟩⟩ := h.matched d hd j hw
    · rw [← hi, taker]
    · rw [hnone] at hi
      cases hi

theorem Book.answered (h : Book t es ds rs) {m : Message} (hm : .finished i (.answered m) ∈ es) :
    ∃ d wire id, handedTo i ds = [d] ∧ wires i es = [wire] ∧ d.message.isAnswer = true ∧
      d.message.id? = some wire ∧ (rs[i]?).bind Request.id? = some id ∧ m = d.message.withId id := by
  obtain ⟨r, p, hseat⟩ := h.seat_of_finished hm
  obtain ⟨wire, d, -, hwires, hds, rfl⟩ := (h.standing i r p hseat).of_answered (mem_outcomes.mpr hm)
  obtain ⟨hd, htaker⟩ := mem_handedTo.mp (show d ∈ handedTo i ds by rw [hds]; exact List.mem_singleton_self d)
  obtain ⟨r', p', wire', id, hseat', hwires', answer, hid, hr, passed, -⟩ :=
    h.matched d hd i (h.waiter_of_taker hd htaker)
  rw [hseat] at hseat'
  cases hseat'
  rw [hwires] at hwires'
  cases hwires'
  refine ⟨d, wire, id, hds, hwires, answer, hid, ?_, passed⟩
  rw [h.requests, hseat]
  exact hr

theorem Book.kept (h : Book t es ds rs) {d : Delivery} (hd : d ∈ ds) (hi : d.taker = some i) :
    outcomes i es = [.answered d.passed] ∨
    (outcomes i es = [] ∧ ∀ a v, step u t (.caller i a) = some v ↔
      a = .settle ∧ v = t.finish i (.answered d.passed)) ∨
    (d.queued = false ∧ ∃ r p, t.seat? i = some (r, p) ∧
      (p.isLost = true ∨ ∃ x, p = .enqueuing x)) := by
  have hmem : d ∈ handedTo i ds := mem_handedTo.mpr ⟨hd, hi⟩
  obtain ⟨r, p, hseat⟩ := h.seat_of_handed hmem
  have standing := h.standing i r p hseat
  generalize hds : handedTo i ds = ds', hos : outcomes i es = os, hws : wires i es = ws at *
  cases standing with
  | early | waiting => cases hmem
  | handed exchange full queued =>
    obtain rfl := List.mem_singleton.mp hmem
    cases p with
    | awaiting x =>
      cases exchange
      exact .inr (.inl ⟨rfl, step_of_handed hseat full⟩)
    | enqueuing x =>
      exact .inr (.inr ⟨Bool.eq_false_iff.mpr fun hq => (nomatch queued hq), r, _, hseat, .inr ⟨x, rfl⟩⟩)
    | withdrawing x e =>
      exact .inr (.inr ⟨Bool.eq_false_iff.mpr fun hq => (nomatch queued hq), r, _, hseat, .inl rfl⟩)
    | _ => cases exchange
  | answered =>
    obtain rfl := List.mem_singleton.mp hmem
    exact .inl rfl
  | failed answer _ _ lost =>
    exact .inr (.inr ⟨lost d hmem, r, _, hseat, .inl (by rw [Phase.isLost, answer]; rfl)⟩)

theorem Book.sent (h : Book t es ds rs) {m : Message} (hm : Travels t es m) :
    ∃ i, rs[i]? = some (.send m) ∨ ∃ m' headers wire, rs[i]? = some (.call m' headers) ∧
      wires i es = [wire] ∧ m = m'.withId wire := by
  obtain ⟨i, r, p, hseat, hm⟩ := hm
  refine ⟨i, ?_⟩
  rw [h.requests, hseat, Option.map_some]
  rcases hm with rfl | ⟨m', headers, wire, rfl, hwires, rfl⟩
  · exact .inl rfl
  · exact .inr ⟨m', headers, wire, rfl, hwires, rfl⟩

/-! ## Calls correlate -/

/-- In every run of a client that draws its ids without repetition, a call returns only the answer
that was sent to it, whoever else asked under the same id; each message that is read goes to one
call or is left to the callback, unchanged if nobody waited for it; and an answer that was handed
over is returned. -/
theorem calls_correlate (hfresh : Function.Injective u.freshId) {headers : Headers}
    {as : List Action} (h : run u (State.fresh headers) as = some (t, es)) :
    Correlated u (State.fresh headers) as t es := by
  have book := book_of_run h
  refine
    { distinct := (wiresFresh_of_run hfresh h).distinct
      sent := fun k m hm => book.sent (travels_of_run h k m (.inr hm))
      once := book.once
      answered := fun _ _ => book.answered
      arrived := messages_arrived h
      left := book.left
      unmatched := book.unmatched
      matched := ?_
      returned := fun unforeseen d hd i hi => ?_
      kept := fun _ hd _ => book.kept hd }
  rotate_left
  · rcases book.kept hd hi with told | ⟨untold, only⟩ | ⟨early, -⟩
    · exact .inl told
    · exact .inr ⟨untold, only⟩
    · have queued := queued_of_run hfresh h unforeseen (fun _ => id) hd hi
      cases early.symm.trans queued
  intro d hd i hi
  obtain ⟨r, p, wire, id, hseat, hwires, answer, hid, -, -, taker⟩ := book.matched d hd i hi
  refine ⟨answer, ⟨wire, hwires, hid⟩, taker.imp_right fun ⟨hnone, lost⟩ => ⟨hnone, fun m hm => ?_⟩⟩
  obtain ⟨_, _, rfl, -⟩ := (book.standing i r p hseat).of_answered (mem_outcomes.mpr hm)
  cases lost

/-- An id of 32 digits at least, told from others by how many of them are `f`. -/
def paddedId (n : Nat) : String :=
  String.ofList (List.replicate (31 - n) '0' ++ List.replicate (n + 1) 'f')

theorem paddedId_injective : Function.Injective paddedId := by
  intro a b h
  have hcount := congrArg (List.count 'f') (String.ofList_injective h)
  simpa [List.count_append, List.count_replicate] using hcount

/-- Three calls, two under one id and one without, that are answered out of order, and one of them
twice. One is cancelled and all are late, but by then they have their answers. -/
def threeCalls : List Action :=
  let call (id : RequestId) (method : String) : Action :=
    .start (.call (Message.request id method (.list [])) [])
  let answer (n : Nat) (value : String) : Action :=
    .arrive 0 (.message (Message.result (.text (paddedId n)) (.str value)))
  [.setCallback "late", call (.number ⟨"1"⟩) "a", call (.number ⟨"1"⟩) "b", call .null "c",
    .caller 0 .dial, .caller 0 .established, .caller 1 .reuse, .caller 2 .reuse,
    .caller 0 .register, .caller 1 .register, .caller 2 .register,
    .caller 2 .enqueue, .caller 1 .enqueue, .caller 0 .enqueue,
    .link 0 .take, .link 0 .write, .link 0 .take, .link 0 .write, .link 0 .take, .link 0 .write,
    answer 2 "b", answer 3 "c", answer 2 "b", answer 1 "a",
    .link 0 .receive, .link 0 .receive, .link 0 .receive, .link 0 .receive,
    .cancel 1, .pass 100000, .caller 2 .settle, .caller 1 .settle, .caller 0 .settle]

theorem calls_correlate_threeCalls :
    ∃ t es, run { url := { scheme := "ws" }, config := {}, freshId := paddedId } (State.fresh [])
        threeCalls = some (t, es) ∧
      Correlated { url := { scheme := "ws" }, config := {}, freshId := paddedId } (State.fresh [])
        threeCalls t es ∧
      outcomes 0 es = [.answered (Message.result (.number ⟨"1"⟩) (.str "a"))] ∧
      outcomes 1 es = [.answered (Message.result (.number ⟨"1"⟩) (.str "b"))] ∧
      outcomes 2 es = [.answered (Message.result (.text (paddedId 0)) (.str "c"))] ∧
      calledBack es = [("late", Message.result (.text (paddedId 2)) (.str "b"))] ∧
      Unforeseen { url := { scheme := "ws" }, config := {}, freshId := paddedId } (State.fresh [])
        threeCalls (allWires es) ∧
      ∃ d ∈ deliveries { url := { scheme := "ws" }, config := {}, freshId := paddedId } (State.fresh [])
        threeCalls, d.taker = some 1 ∧ outcomes 1 es = [.answered d.passed] := by
  have hrun : (run { url := { scheme := "ws" }, config := {}, freshId := paddedId } (State.fresh [])
      threeCalls).map (fun r => (outcomes 0 r.2, outcomes 1 r.2, outcomes 2 r.2, calledBack r.2)) =
        some ([.answered (Message.result (.number ⟨"1"⟩) (.str "a"))],
          [.answered (Message.result (.number ⟨"1"⟩) (.str "b"))],
          [.answered (Message.result (.text (paddedId 0)) (.str "c"))],
          [("late", Message.result (.text (paddedId 2)) (.str "b"))]) := by
    decide +kernel
  have hnames : (run { url := { scheme := "ws" }, config := {}, freshId := paddedId } (State.fresh [])
      threeCalls).map (fun r => decide (∀ n < threeCalls.length, ∀ wire ∈ allWires r.2,
        (threeCalls[n]?).bind Action.answers? = some wire →
        wire ∈ queuedIds { url := { scheme := "ws" }, config := {}, freshId := paddedId }
          (State.fresh []) (threeCalls.take n))) = some true := by
    decide +kernel
  obtain ⟨⟨t, es⟩, hrun, hshown⟩ := Option.map_eq_some_iff.mp hrun
  simp only [Prod.mk.injEq] at hshown
  rw [hrun, Option.map_some, Option.some.injEq, decide_eq_true_iff] at hnames
  have correlated := calls_correlate paddedId_injective hrun
  have unforeseen : Unforeseen { url := { scheme := "ws" }, config := {}, freshId := paddedId }
      (State.fresh []) threeCalls (allWires es) := by
    intro n wire hn hwire
    by_cases hlt : n < threeCalls.length
    · exact hnames n hlt wire hwire hn
    · rw [List.getElem?_eq_none (Nat.le_of_not_lt hlt)] at hn
      cases hn
  obtain ⟨d, _, _, hd, -⟩ := correlated.answered 1
    (Message.result (.number ⟨"1"⟩) (.str "b")) (mem_outcomes.mp (by simp [hshown.2.1]))
  obtain ⟨hd, htaker⟩ := mem_handedTo.mp (hd ▸ List.mem_singleton_self d)
  refine ⟨t, es, hrun, correlated, hshown.1, hshown.2.1, hshown.2.2.1, hshown.2.2.2, unforeseen, d, hd,
    htaker, ?_⟩
  rcases correlated.returned unforeseen d hd 1 htaker with told | ⟨untold, -⟩
  · exact told
  · rw [hshown.2.1] at untold
    cases untold

end Switchboard.Streaming
