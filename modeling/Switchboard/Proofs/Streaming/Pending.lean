-- SUMMARY: The pending table of a streaming client holds calls that are under way, and nothing else.
import Switchboard.Proofs.Streaming.Teardown

/-!
# Pending calls

A call enters the pending table when it registers. It can leave it by its answer, by
its own failure or with the teardown of any connection, several of which may come one
after the other. `pending_only_of_calls_under_way` says that whichever come, the call is
not in the table any more when it returns, and never again. A step adds an entry only
where it registers a call (`Turn.entry`), and the entries that there are belong to calls
that have not returned (`Book.entry`).
-/

namespace Switchboard.Streaming

variable {u : Setup} {s t v : State} {i j k : Nat} {key : String} {es fs : List Event}
  {ds : List Delivery} {rs : List Request}

theorem mem_wires {wire : RequestId} : wire ∈ wires i es ↔ .registered i wire ∈ es := by
  refine ⟨registered_of_mem_wires, fun h => ?_⟩
  exact List.mem_filterMap.mpr ⟨_, h, by simp⟩

/-- An entry was there before the step, or the step has registered its call. -/
theorem Turn.entry (ht : Turn u s t es ds rs) (h : t.pending.find? key = some i) :
    s.pending.find? key = some i ∨ ∃ wire, .registered i wire ∈ es ∧ wire.key = key := by
  cases ht with
  | aside _ pending | enter _ pending | refuse _ pending | advance _ pending | conclude _ pending
  | enqueue _ pending | drop _ _ pending | answer _ _ pending => exact .inl (pending ▸ h)
  | clear _ pending =>
    rw [pending] at h
    cases h
  | @register _ j _ x _ _ _ pending =>
    rw [pending, Keyed.find?_insert] at h
    split at h
    · next hkey =>
      cases h
      exact .inr ⟨x.wire, List.mem_singleton_self _, hkey⟩
    · exact .inl h
  | withdraw _ pending | hand _ _ _ _ _ pending | miss _ _ _ _ _ pending =>
    exact .inl (find?_of_erase pending h).2
  | pass _ _ _ _ _ pending =>
    rcases pending with pending | ⟨_, _, -, -, pending⟩
    · exact .inl (pending ▸ h)
    · exact .inl (find?_of_erase pending h).2

/-- An entry is that of a call which has registered under its key and has not returned. -/
theorem Book.entry (h : Book t es ds rs) (hkey : t.pending.find? key = some i) :
    ∃ m headers p wire, t.seat? i = some (.call m headers, p) ∧ p.isFinished = false ∧
      wires i es = [wire] ∧ wire.key = key ∧ outcomes i es = [] := by
  obtain ⟨r, p, x, hseat, hx, -, rfl⟩ := h.pending key i hkey
  obtain ⟨hwires, hos, -⟩ := (h.standing i r p hseat).of_exchange hx
  have hcall := isCall_of_exchange hx
  cases r with
  | call m headers => exact ⟨m, headers, p, x.wire, hseat, not_finished_of_call hcall, hwires, rfl, hos⟩
  | connect | send | wait | close => cases (h.sound i _ p hseat).call hcall

/-- Two calls never have one key. -/
theorem WiresFresh.eq_of_key (h : WiresFresh u s es) {w w' : RequestId} (hi : .registered i w ∈ es)
    (hj : .registered j w' ∈ es) (hkey : w.key = w'.key) : i = j := by
  obtain rfl := RequestId.key_injective hkey
  exact h.eq_of_mem (mem_wires.mpr hi) (mem_wires.mpr hj)

theorem pending_of_clear (h : step u s (.link k .clear) = some (t, es)) : t.pending = [] := by
  obtain ⟨l, -, h⟩ := Option.bind_eq_some_iff.mp h
  simp only [stepLink] at h
  split at h <;> cases h
  rfl

/-- Since a teardown only calls that have registered after it have entered the table. -/
theorem registered_since_clear {bs : List Action}
    (h : run u s (.link k .clear :: bs) = some (t, es)) (hkey : t.pending.find? key = some i) :
    ∃ wire, .registered i wire ∈ es ∧ wire.key = key := by
  obtain ⟨v, _, gs, hclear, hrun, rfl⟩ := Step.run_cons_eq_some_iff.mp h
  refine Step.run_induction (R := fun t _ es => ∀ key i, t.pending.find? key = some i →
    ∃ wire, .registered i wire ∈ _ ++ es ∧ wire.key = key) ?_ ?_ hrun key i hkey
  · intro key i hkey
    rw [pending_of_clear hclear] at hkey
    cases hkey
  · intro t w a as es fs ih hstep key i hkey
    rw [← List.append_assoc]
    rcases (turn_of_step hstep).entry hkey with hkey | ⟨wire, hmem, hwire⟩
    · obtain ⟨wire, hmem, hwire⟩ := ih key i hkey
      exact ⟨wire, List.mem_append_left _ hmem, hwire⟩
    · exact ⟨wire, List.mem_append_right _ hmem, hwire⟩

/-- In every run of a client that draws its ids without repetition, each key of the pending table is
the id of one call, which has registered and has not returned. From the step in which a call returns,
however it does, its key is never in the table again. After a teardown the table holds only calls
that have registered since, and when no call is under way it is empty. -/
theorem pending_only_of_calls_under_way (hfresh : Function.Injective u.freshId) {headers : Headers}
    {as : List Action} (h : run u (State.fresh headers) as = some (t, es)) :
    (∀ key i, t.pending.find? key = some i →
      (∃ wire, wire.key = key ∧ .registered i wire ∈ es) ∧ (∀ o, .finished i o ∉ es) ∧
      ∀ j wire, wire.key = key → .registered j wire ∈ es → j = i) ∧
    (∀ i wire o, .registered i wire ∈ es → .finished i o ∈ es →
      ∀ bs v fs, run u t bs = some (v, fs) → v.pending.find? wire.key = none) ∧
    (∀ k bs v fs, run u t (.link k .clear :: bs) = some (v, fs) →
      ∀ key i, v.pending.find? key = some i → ∃ wire, wire.key = key ∧ .registered i wire ∈ fs) ∧
    ((∀ i m headers p, t.seat? i = some (.call m headers, p) → p.isFinished = true) →
      t.pending = []) := by
  have book := book_of_run h
  refine ⟨?_, ?_, ?_, ?_⟩
  · intro key i hkey
    obtain ⟨_, _, _, wire, -, -, hwires, rfl, hos⟩ := book.entry hkey
    have hmem : .registered i wire ∈ es := mem_wires.mp (hwires ▸ List.mem_singleton_self wire)
    refine ⟨⟨wire, rfl, hmem⟩, fun o ho => ?_, fun j wire' hkey' hmem' => ?_⟩
    · have ho := mem_outcomes.mpr ho
      rw [hos] at ho
      cases ho
    · exact (wiresFresh_of_run hfresh h).eq_of_key hmem' hmem hkey'
  · intro i wire o hregistered hfinished bs v fs hrun
    have hreach := Step.run_append_eq_some_iff.mpr ⟨t, es, fs, h, hrun, rfl⟩
    cases hkey : v.pending.find? wire.key with
    | none => rfl
    | some j =>
      -- No two calls share a key, so the entry would be that of the call which has returned.
      obtain ⟨_, _, _, wire', -, -, hwires, hsame, hos⟩ := (book_of_run hreach).entry hkey
      have hmem : .registered j wire' ∈ es ++ fs :=
        mem_wires.mp (hwires ▸ List.mem_singleton_self wire')
      obtain rfl : j = i := (wiresFresh_of_run hfresh hreach).eq_of_key hmem
        (List.mem_append_left fs hregistered) hsame
      have ho := mem_outcomes.mpr (List.mem_append_left fs hfinished)
      rw [hos] at ho
      cases ho
  · intro k bs v fs hrun key i hkey
    obtain ⟨wire, hmem, hwire⟩ := registered_since_clear hrun hkey
    exact ⟨wire, hwire, hmem⟩
  · intro hidle
    refine Keyed.eq_nil_of_find? fun key => ?_
    cases hkey : t.pending.find? key with
    | none => rfl
    | some i =>
      obtain ⟨m, hs, p, _, hseat, hunderway, -⟩ := book.entry hkey
      rw [hidle i m hs p hseat] at hunderway
      cases hunderway

/-- Two calls share a connection. The first has returned its answer, and the second still waits when
the client is closed. -/
def closedAmid : List Action :=
  [.start ping, .caller 0 .dial, .caller 0 .established, .start ping, .caller 1 .reuse,
    .caller 0 .register, .caller 1 .register, .caller 0 .enqueue, .caller 1 .enqueue,
    .arrive 0 (.message (Message.result (.text (paddedId 0)) .null)), .link 0 .receive,
    .caller 0 .settle, .start .close, .caller 2 .shut, .link 0 .stop, .link 0 .cancel]

/-- After the teardown of its connection the second call fails, and a third one dials anew. -/
def dialedAnew : List Action :=
  [.caller 1 .settle, .start ping, .caller 3 .dial, .caller 3 .established, .caller 3 .register,
    .caller 1 .withdraw]

theorem pending_only_of_calls_under_way_dialedAnew :
    ∃ t es v fs, run paddedSetup (State.fresh []) closedAmid = some (t, es) ∧
      run paddedSetup t (.link 0 .clear :: dialedAnew) = some (v, fs) ∧
      t.pending = [((RequestId.text (paddedId 1)).key, 1)] ∧
      v.pending = [((RequestId.text (paddedId 2)).key, 3)] ∧
      (∀ o, .finished 1 o ∉ es) ∧ .finished 0 (.answered (Message.result (.number ⟨"1"⟩) .null)) ∈ es ∧
      v.pending.find? (RequestId.text (paddedId 0)).key = none ∧
      ∃ wire, wire.key = (RequestId.text (paddedId 2)).key ∧ .registered 3 wire ∈ fs := by
  have hshown : ((run paddedSetup (State.fresh []) closedAmid).bind fun r =>
      (run paddedSetup r.1 (.link 0 .clear :: dialedAnew)).map fun q =>
        (r.1.pending, q.1.pending, wires 0 r.2, outcomes 0 r.2)) =
      some ([((RequestId.text (paddedId 1)).key, 1)], [((RequestId.text (paddedId 2)).key, 3)],
        [.text (paddedId 0)], [.answered (Message.result (.number ⟨"1"⟩) .null)]) := by
    decide +kernel
  obtain ⟨⟨t, es⟩, before, hshown⟩ := Option.bind_eq_some_iff.mp hshown
  obtain ⟨⟨v, fs⟩, after, hshown⟩ := Option.map_eq_some_iff.mp hshown
  simp only [Prod.mk.injEq] at hshown
  obtain ⟨hpending, hpending', hwires, houtcomes⟩ := hshown
  have hregistered : .registered 0 (.text (paddedId 0)) ∈ es :=
    mem_wires.mp (hwires ▸ List.mem_singleton_self _)
  have hfinished : .finished 0 (.answered (Message.result (.number ⟨"1"⟩) .null)) ∈ es :=
    mem_outcomes.mp (houtcomes ▸ List.mem_singleton_self _)
  obtain ⟨owner, gone, since, -⟩ := pending_only_of_calls_under_way paddedId_injective before
  obtain ⟨-, waits, -⟩ := owner (RequestId.text (paddedId 1)).key 1 (by simp [hpending, Keyed.find?])
  exact ⟨t, es, v, fs, before, after, hpending, hpending', waits, hfinished,
    gone 0 _ _ hregistered hfinished _ v fs after,
    since 0 dialedAnew v fs after _ 3 (by simp [hpending', Keyed.find?])⟩

end Switchboard.Streaming
