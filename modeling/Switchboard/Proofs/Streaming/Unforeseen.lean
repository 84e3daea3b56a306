-- SUMMARY: If no peer guesses the id of a call, answers come to calls whose requests are queued.
import Switchboard.Proofs.Streaming.Traffic

/-!
# Ids that nobody foresees

A call has its pending entry before its request is put into a queue. A peer learns of the
id under which the request travels from the request, so it answers only later; but nothing
keeps a peer that has guessed the id from answering before. `Unforeseen` says of a run that
this does not occur. Then whatever arrives for a call arrives when its request is queued
(`answersQueued_of_run`), and so does whatever is delivered to it (`queued_of_run`).
-/

namespace Switchboard.Streaming

/-- The id of a call whose request is put into a queue. -/
def queuing (s : State) : Action → List RequestId
  | .caller i .enqueue =>
    match (s.callers[i]?).map Caller.phase with
    | some (.enqueuing x) =>
      if (s.links[x.link]?).any fun l => l.sender ≠ .ended then [x.wire] else []
    | _ => []
  | _ => []

/-- The ids of the calls whose requests have been put into a queue in a run. -/
def queuedIds (u : Setup) (s : State) (as : List Action) : List RequestId :=
  Step.history (step u) queuing s as

/-- The id that an answer names when it arrives. -/
def Action.answers? : Action → Option RequestId
  | .arrive _ (.message m) => if m.isAnswer then m.id? else none
  | _ => none

/-- Among the ids of calls, no answer that arrives in the run names one before the request of this
call has been put into a queue. -/
def Unforeseen (u : Setup) (s : State) (as : List Action) (ids : List RequestId) : Prop :=
  ∀ n wire, (as[n]?).bind Action.answers? = some wire → wire ∈ ids →
    wire ∈ queuedIds u s (as.take n)

/-- The request of a call has been put into a queue, or the call has failed. -/
def Phase.isPast : Phase → Bool
  | .awaiting _ | .withdrawing .. | .finished _ => true
  | _ => false

variable {u : Setup} {s t v : State} {i k : Nat} {a : Action} {as : List Action} {c : Caller}
  {r : Request} {p q : Phase} {m : Message} {wire : RequestId} {ids : List RequestId}
  {es fs : List Event} {ds : List Delivery} {rs : List Request} {ws : List RequestId}
  {os : List Outcome}

theorem unforeseen_concat (h : Unforeseen u s (as ++ [a]) ids) :
    Unforeseen u s as ids ∧ ∀ wire, a.answers? = some wire → wire ∈ ids → wire ∈ queuedIds u s as := by
  constructor
  · intro n wire hn hwire
    have hlt : n < as.length := by
      refine Nat.lt_of_not_le fun hle => ?_
      rw [List.getElem?_eq_none hle] at hn
      cases hn
    have hn' : ((as ++ [a])[n]?).bind Action.answers? = some wire := by
      rwa [List.getElem?_append_left hlt]
    have queued := h n wire hn' hwire
    rwa [List.take_append_of_le_length (Nat.le_of_lt hlt)] at queued
  · intro wire ha hwire
    have queued := h as.length wire (by simpa using ha) hwire
    rwa [List.take_append_of_le_length (Nat.le_refl _), List.take_length] at queued

theorem queuedIds_concat (h : run u s as = some (t, es)) (a : Action) :
    queuedIds u s (as ++ [a]) = queuedIds u s as ++ queuing t a :=
  Step.history_concat queuing h a

/-! ## Calls that are queued -/

theorem Progress.isPast (hp : Progress r q p ws ds os) (h : q.isPast = true) : p.isPast = true := by
  cases hp with
  | stay => exact h
  | advance early | conclude early => cases q <;> first | (cases early; done) | cases h
  | enqueue | drop | withdraw | answer => rfl
  | register => cases h
  | hand listens => cases q <;> first | (cases listens; done) | (cases h; done) | rfl

/-- The id is that of a call which is past its queueing. -/
def State.HasQueued (s : State) (es : List Event) (wire : RequestId) : Prop :=
  ∃ i r p, s.seat? i = some (r, p) ∧ wires i es = [wire] ∧ p.isPast = true

theorem State.HasQueued.turn (book : Book s es ds rs) {ds' : List Delivery} {rs' : List Request}
    (ht : Turn u s t fs ds' rs') (h : s.HasQueued es wire) : t.HasQueued (es ++ fs) wire := by
  obtain ⟨i, r, q, hs, hwires, past⟩ := h
  obtain ⟨p, hp, progress⟩ := ht.progress book.pending hs
  exact ⟨i, r, p, hp, book.wires_turn ht hp hwires, progress.isPast past⟩

/-- Whoever puts its request into a queue is past it then. -/
theorem hasQueued_of_queuing (book : Book s es ds rs) (h : step u s a = some (t, fs))
    (hwire : wire ∈ queuing s a) : t.HasQueued (es ++ fs) wire := by
  unfold queuing at hwire
  split at hwire
  · next i =>
    split at hwire
    · next x hx =>
      split at hwire
      · obtain rfl := List.mem_singleton.mp hwire
        obtain ⟨c, hc, taken⟩ := taken_of_step h
        obtain ⟨c', hc', phase⟩ := Option.map_eq_some_iff.mp hx
        obtain rfl := Option.some.inj (hc.symm.trans hc')
        have hs := seat?_of_getElem? hc
        have hwires := ((book.standing i _ _ hs).of_exchange (x := x) (by rw [phase]; rfl)).1
        obtain ⟨w, p, gs, act, rfl, -⟩ := taken
        have moves := moves_moveTo hc rfl act.callers p
        have hp : (w.moveTo i p).seat? i = some (c.request, p) := by rw [moves.after, if_pos rfl]
        refine ⟨i, _, p, hp, book.wires_turn (turn_of_step h) hp hwires, ?_⟩
        cases act with
        | queue | send | unsent | fail => rfl
      · cases hwire
    · cases hwire
  · cases hwire

theorem hasQueued_of_run {headers : Headers} (h : run u (State.fresh headers) as = some (t, es))
    (hwire : wire ∈ queuedIds u (State.fresh headers) as) : t.HasQueued es wire := by
  refine Step.reach_induction (R := fun t as es =>
    wire ∈ queuedIds u (State.fresh headers) as → t.HasQueued es wire) (fun h => nomatch h) ?_ h hwire
  intro t v a as es fs hrun ih hstep hwire
  rw [queuedIds_concat hrun, List.mem_append] at hwire
  have book := book_of_run hrun
  rcases hwire with hwire | hwire
  · exact (ih hwire).turn book (turn_of_step hstep)
  · exact hasQueued_of_queuing book hstep hwire

/-! ## Answers -/

/-- An answer that is yet to be read has arrived before the step, or arrives in it. -/
theorem inbound_cases (h : step u s a = some (t, es)) (hm : .message m ∈ t.inbound k)
    (answer : m.isAnswer = true) : .message m ∈ s.inbound k ∨ a.answers? = m.id? := by
  have hmem := inbound_of_step h k ▸ List.mem_append_right (onLink k (reading s a)) hm
  rcases List.mem_append.mp hmem with hmem | hmem
  · exact .inl hmem
  · obtain ⟨⟨j, r⟩, hr, heq⟩ := List.mem_filterMap.mp hmem
    unfold arriving at hr
    split at hr
    · split at hr
      · cases List.mem_singleton.mp hr
        simp only [Option.ite_none_right_eq_some, Option.some.injEq] at heq
        obtain ⟨-, rfl⟩ := heq
        exact .inr (by simp [Action.answers?, answer])
      · cases hr
    · cases hr

/-- The answers that are yet to be read name calls whose requests are queued. -/
theorem answersQueued_of_run {headers : Headers} (h : run u (State.fresh headers) as = some (t, es))
    (unforeseen : Unforeseen u (State.fresh headers) as ids) (hm : .message m ∈ t.inbound k)
    (answer : m.isAnswer = true) (hid : m.id? = some wire) (hwire : wire ∈ ids) :
    wire ∈ queuedIds u (State.fresh headers) as := by
  refine Step.reach_induction (R := fun t as _ => Unforeseen u (State.fresh headers) as ids →
    ∀ k, .message m ∈ t.inbound k → wire ∈ queuedIds u (State.fresh headers) as) ?_ ?_ h unforeseen k hm
  · intro _ k hm
    cases hm
  intro t v a as es fs hrun ih hstep unforeseen k hm
  obtain ⟨before, last⟩ := unforeseen_concat unforeseen
  rw [queuedIds_concat hrun]
  apply List.mem_append_left
  rcases inbound_cases hstep hm answer with hm | hnames
  · exact ih before k hm
  · exact last wire (hnames.trans hid) hwire

/-- What a connection delivers was yet to be read. -/
theorem inbound_of_delivering {d : Delivery} (h : step u s a = some (t, es)) (hd : d ∈ delivering s a) :
    ∃ k, .message d.message ∈ s.inbound k := by
  obtain ⟨⟨k, r⟩, hr, hd⟩ := List.mem_filterMap.mp hd
  cases r with
  | message m =>
    obtain rfl := Option.some.inj hd
    refine ⟨k, ?_⟩
    have hread : .message m ∈ onLink k (reading s a) := List.mem_filterMap.mpr ⟨_, hr, by simp⟩
    have hmem := inbound_of_step h k ▸ List.mem_append_left (t.inbound k) hread
    have still : arriving s a = [] := by
      cases a with
      | arrive => cases hr
      | _ => rfl
    rw [still] at hmem
    rw [message_delivery]
    simpa [onLink] using hmem
  | nothing | fault e => cases hd

/-- Who is handed an answer listens for it. -/
theorem Turn.hands {d : Delivery} (ht : Turn u s t es ds rs) (hd : d ∈ ds) (htaker : d.taker = some i) :
    ∃ r q wire, s.seat? i = some (r, q) ∧ Matches s d i r wire ∧ q.listens = true ∧
      d.queued = q.isAwaiting := by
  cases ht with
  | hand moves found listens taker queued =>
    obtain rfl := List.mem_singleton.mp hd
    obtain rfl := Option.some.inj (taker.symm.trans htaker)
    exact ⟨_, _, _, moves.before, found, listens, queued⟩
  | miss _ _ _ _ taker | pass _ _ taker =>
    obtain rfl := List.mem_singleton.mp hd
    cases taker.symm.trans htaker
  | _ => cases hd

/-- If the ids of calls are unforeseen, a call that is handed an answer has its request queued. -/
theorem queued_of_run (hfresh : Function.Injective u.freshId) {headers : Headers} {d : Delivery}
    (h : run u (State.fresh headers) as = some (t, es))
    (unforeseen : Unforeseen u (State.fresh headers) as ids) (all : ∀ wire ∈ allWires es, wire ∈ ids)
    (hd : d ∈ deliveries u (State.fresh headers) as) (htaker : d.taker = some i) : d.queued = true := by
  refine Step.reach_induction (R := fun _ as es => Unforeseen u (State.fresh headers) as ids →
    (∀ wire ∈ allWires es, wire ∈ ids) → d ∈ deliveries u (State.fresh headers) as → d.queued = true)
    (fun _ _ h => nomatch h) ?_ h unforeseen all hd
  intro t v a as es fs hrun ih hstep unforeseen all hd
  have before := (unforeseen_concat unforeseen).1
  have all' : ∀ wire ∈ allWires es, wire ∈ ids := fun wire hwire =>
    all wire (by rw [allWires_append]; exact List.mem_append_left _ hwire)
  rw [deliveries_concat hrun, List.mem_append] at hd
  rcases hd with hd | hd
  · exact ih before all' hd
  have book := book_of_run hrun
  obtain ⟨r, q, wire, hs, found, listens, queued⟩ := (turn_of_step hstep).hands hd htaker
  rw [queued]
  cases q with
  | awaiting => rfl
  | enqueuing x =>
    -- The answer names a call whose request is queued, and that is this one, which is not so far.
    obtain ⟨_, _, y, hs', hy, -, hkey⟩ := book.pending _ _ found.pending
    rw [hs] at hs'
    cases hs'
    cases hy
    obtain rfl := RequestId.key_injective hkey
    have hwires := ((book.standing i r _ hs).of_exchange (x := x) rfl).1
    have hown : x.wire ∈ wires i es := hwires ▸ List.mem_singleton_self x.wire
    obtain ⟨k, hm⟩ := inbound_of_delivering hstep hd
    have hqueued := answersQueued_of_run hrun before hm found.answer found.id
      (all' _ (mem_allWires hown))
    obtain ⟨j, r', p, hj, hwires', past⟩ := hasQueued_of_run hrun hqueued
    obtain rfl : j = i := (wiresFresh_of_run hfresh hrun).eq_of_mem
      (hwires' ▸ List.mem_singleton_self x.wire) hown
    rw [hs] at hj
    cases hj
    cases past
  | _ => cases listens

end Switchboard.Streaming
