-- SUMMARY: A watch that has its client to itself has every live connection in hand.
import Switchboard.Proofs.Watch.Tending

/-!
# Watches that have their client to themselves

Others may call, send and close where a watch keeps a client connected, but let them neither dial
nor wait. Then the watch seeks a connection as long as none is up (`Idle`), and once its dial has
come out well it has the connection in hand, until it is told how the connection has ended
(`Alone`). So whatever connection is live, the watch has it in hand (`attends_of_alone`), unless it
has returned or is about to: while the connection stays up, its hook can fail, and the callback of
the client can panic.
-/

namespace Switchboard.Watch

variable {u : Streaming.Setup} {p : RetryPolicy} {s t : State} {client client' : Streaming.State}
  {i k : Nat} {phase : Phase} {a : Action} {b : Streaming.Action} {as : List Action}
  {es : List Streaming.Event} {headers hs : Headers}

/-! ## Clients without a connection -/

/-- Nobody dials, and no connection is up. -/
structure Idle (client : Streaming.State) : Prop where
  free : client.dialing = none
  down : ∀ k, client.isUp k = false

theorem Idle.usable? (h : Idle client) : client.usable? = none := by
  rw [Streaming.State.usable?, Option.filter_eq_none_iff]
  intro k _
  rw [h.down k]
  exact Bool.false_ne_true

theorem Idle.step (h : Idle client) (one : Streaming.OneLive client)
    (hstep : Streaming.step u client b = some (client', es)) (undialed : ∀ i, b ≠ .caller i .dial) :
    Idle client' := by
  obtain ⟨-, free, -⟩ := one.undialed h.free hstep undialed
  refine ⟨free, fun k => Bool.eq_false_iff.mpr fun hup => ?_⟩
  have nobody (i : Nat) (hi : client.dials i = true) : False := by
    rw [one.dials_eq_false h.free] at hi
    cases hi
  cases Streaming.slotStep_of_step hstep with
  | keep keeps =>
    have hup := keeps.up k hup
    rw [h.down k] at hup
    cases hup
  | dial _ _ _ _ _ _ _ _ action => exact undialed _ (Streaming.Happening.act.inj action)
  | establish dialer | release dialer => exact nobody _ dialer

theorem seat?_of_own {q : Streaming.Phase} {r : Streaming.Request} (own : client.seat? i = some (r, q))
    {v : Streaming.State} (callers : v.callers = client.callers) (q' : Streaming.Phase) :
    (v.moveTo i q').seat? i = some (r, q') := by
  obtain ⟨caller, hc, rfl, rfl⟩ := Streaming.exists_caller own
  rw [(Streaming.moves_moveTo hc rfl callers q').after, if_pos rfl]

/-- One who connects while no connection is up dials, unless there is no transport. -/
theorem Idle.connect {c : Streaming.CallerAction} (h : Idle client)
    (own : client.seat? i = some (.connect hs, .waiting))
    (hstep : Streaming.step u client (.caller i c) = some (client', es)) :
    (∃ d, client'.seat? i = some (.connect hs, .dialing d)) ∨
    ∃ e, client'.seat? i = some (.connect hs, .finished (.failed e)) ∧ Idle client' := by
  obtain ⟨caller, hc, v, q, fs, act, rfl, -⟩ := Streaming.taken_of_step hstep
  obtain ⟨request, phase⟩ := Streaming.caller_of_seat? hc own
  have other {q : Streaming.Phase} (hq : caller.phase = q) (moved : q ≠ .waiting) : False :=
    moved (hq.symm.trans phase)
  cases act with
  | dial => exact .inl ⟨_, seat?_of_own own rfl _⟩
  | noTransport => exact .inr ⟨_, seat?_of_own own rfl _, h.free, h.down⟩
  | reuse _ usable => cases h.usable?.symm.trans usable
  | claim _ request' | vacant _ request' | shut _ request' => cases request.symm.trans request'
  | established hq | refused hq | lapse hq | register hq | queue hq | send hq | unsent _ hq | answer hq
  | withdraw hq | join hq => exact (other hq (by simp)).elim
  | fail _ hq => rcases hq with hq | ⟨hq, -⟩ <;> exact (other hq (by simp)).elim

/-- A dial brings up a connection that nobody has claimed, or leaves none. -/
theorem dialed {c : Streaming.CallerAction} {d : Nat} (one : Streaming.OneLive client)
    (own : client.seat? i = some (.connect hs, .dialing d))
    (hstep : Streaming.step u client (.caller i c) = some (client', es)) :
    (client'.seat? i = some (.connect hs, .finished .done) ∧ ∃ k, Reserved client' k) ∨
    ∃ e, client'.seat? i = some (.connect hs, .finished (.failed e)) ∧ Idle client' := by
  obtain ⟨caller, hc, taken⟩ := Streaming.taken_of_step hstep
  obtain ⟨hr, hp⟩ := Streaming.caller_of_seat? hc own
  by_cases established : c = .established
  · subst established
    obtain ⟨v, q, fs, act, rfl, -⟩ := taken
    cases act with
    | established =>
      rw [hr]
      refine .inl ⟨seat?_of_own own rfl _, client.links.length, rfl, rfl, ?_⟩
      simp [Streaming.State.link, Streaming.State.moveTo]
    | unsent action | fail action => cases action
  · obtain ⟨e, rfl, -⟩ := Streaming.release_of_dialing hp established taken
    have dialer : client.dialing = some i :=
      (one.holder i).mp (by rw [Streaming.dials_of_getElem? hc, hp]; rfl)
    exact .inr ⟨e, seat?_of_own own rfl _, rfl, one.vacant (by simp [dialer])⟩

/-! ## Where the watch can be -/

/-- Where a watch can be that has its client to itself. -/
inductive Alone (client : Streaming.State) : Phase → Prop
  | connecting {n : Nat} (idle : Idle client) : Alone client (.connecting n)
  | asking {n i : Nat} (own : client.seat? i = some (.connect [], .waiting)) (idle : Idle client) :
      Alone client (.dialing n i)
  | dialing {n i d : Nat} (own : client.seat? i = some (.connect [], .dialing d)) :
      Alone client (.dialing n i)
  | refused {n i : Nat} {e : ClientError} (idle : Idle client)
      (own : client.seat? i = some (.connect [], .finished (.failed e))) : Alone client (.dialing n i)
  | pausing {n deadline : Nat} (idle : Idle client) : Alone client (.pausing n deadline)
  | attends {k : Nat} {phase : Phase} (attends : Attends client k phase)
      (slot : client.slot = some k) (free : client.dialing = none) : Alone client phase
  | told {i : Nat} {o : Streaming.Outcome} (own : client.seat? i = some (.wait, .finished o))
      (idle : Idle client) : Alone client (.listening i)
  /-- The connection may be up still, but the watch gives it up. -/
  | broken {i : Nat} {text : String}
      (own : client.seat? i = some (.wait, .finished (.failed (.transport text)))) :
      Alone client (.listening i)
  | ended {o : Streaming.Outcome} : Alone client (.ended o)

/-- When the one that waits for the connection in the slot has been told, no connection is up. -/
theorem idle_of_ended {e : Option ClientError} (order : InOrder client)
    (hstep : Streaming.step u client b = some (client', es)) (slot : client'.slot = some k)
    (there : k < client.links.length) (free : client'.dialing = none)
    (ended : (client.link k).receiver = .ended e) : Idle client' := by
  have hl : client.links[k]? = some (client.link k) := by
    rw [List.getElem?_eq_getElem there, Streaming.link_of_getElem? (List.getElem?_eq_getElem there)]
  have down : client.isUp k = false := by
    have cancelled := (order.sound k _ hl).receiver (by rw [ended]; rfl)
    simp [Streaming.State.isUp, hl, cancelled]
  have one : Streaming.OneLive client' := order.one.step (Streaming.slotStep_of_step hstep)
  refine ⟨free, fun j => Bool.eq_false_iff.mpr fun hup => ?_⟩
  obtain rfl : j = k := Option.some.inj ((one.sole j hup).symm.trans slot)
  rw [(Streaming.ages_of_step hstep).isUp there hup] at down
  cases down

/-- What becomes of the watch by what goes on at its client, where others neither dial nor wait. -/
theorem Alone.step (h : Alone s.client s.phase) (order : InOrder s.client)
    (alone : outside s (.client b) = []) (hstep : Streaming.step u s.client b = some (client, es)) :
    Alone client s.phase := by
  have undialed (own : ∀ i, s.phase.caller? = some i → b ≠ .caller i .dial) (i : Nat) :
      b ≠ .caller i .dial := by
    rintro rfl
    exact own i (by simpa [outside] using alone) rfl
  have idle (h : Idle s.client) (own : ∀ i, s.phase.caller? = some i → b ≠ .caller i .dial) :
      Idle client := h.step order.one hstep (undialed own)
  have done {i : Nat} {r : Streaming.Request} {o : Streaming.Outcome}
      (own : s.client.seat? i = some (r, .finished o)) (c : Streaming.CallerAction) :
      b ≠ .caller i c := by
    rintro rfl
    rw [Streaming.step_of_finished own] at hstep
    cases hstep
  obtain ⟨client₀, phase⟩ := s
  cases h with
  | connecting h => exact .connecting (idle h (by rintro i ⟨⟩))
  | pausing h => exact .pausing (idle h (by rintro i ⟨⟩))
  | ended => exact .ended
  | @asking n i own h =>
    by_cases hb : ∃ c, b = .caller i c
    · obtain ⟨c, rfl⟩ := hb
      rcases h.connect own hstep with ⟨d, own⟩ | ⟨e, own, idle⟩
      · exact .dialing own
      · exact .refused idle own
    · apply Alone.asking (Streaming.seat?_of_step own rfl hstep hb)
      apply idle h
      rintro j ⟨⟩ rfl
      exact hb ⟨_, rfl⟩
  | @dialing n i d own =>
    by_cases hb : ∃ c, b = .caller i c
    · obtain ⟨c, rfl⟩ := hb
      rcases dialed order.one own hstep with ⟨own, k, reserved⟩ | ⟨e, own, idle⟩
      · exact .attends (.connected own reserved) reserved.slot reserved.free
      · exact .refused idle own
    · exact .dialing (Streaming.seat?_of_step own rfl hstep hb)
  | @refused n i e h own =>
    apply Alone.refused _ (Streaming.seat?_of_finished own hstep)
    apply idle h
    rintro j ⟨⟩
    exact done own _
  | @told i o own h =>
    apply Alone.told (Streaming.seat?_of_finished own hstep)
    apply idle h
    rintro j ⟨⟩
    exact done own _
  | broken own => exact .broken (Streaming.seat?_of_finished own hstep)
  | @attends k _ attends slot free =>
    have calm : ∀ i, b ≠ .caller i .dial := by
      apply undialed
      rintro i own rfl
      have leaving : Leaving client₀ k [] phase := .attends attends
      rw [leaving.not_dial own] at hstep
      cases hstep
    obtain ⟨slot', free', -⟩ := order.one.undialed free hstep calm
    have unmeddled : meddling { client := client₀, phase } (.client b) = [] := by
      rw [meddling, alone, ite_self]
    rcases Attends.step (s := { client := client₀, phase }) attends order unmeddled hstep with
      attends | ⟨i, o, rfl, told, reports⟩
    · exact .attends attends (slot'.trans slot) free'
    · cases hr : (client₀.link k).receiver with
      | ended e =>
        exact .told told (idle_of_ended order hstep (slot'.trans slot) (order.filled k slot) free' hr)
      | crashed text =>
        rw [hr] at reports
        cases reports
        exact .broken told
      | _ =>
        rw [hr] at reports
        cases reports

/-- A watch changes nothing about the connections of its client by what it does itself. -/
theorem slot_of_proceed {chance : Nat} (h : proceed u p chance s = some (t, es)) :
    t.client.slot = s.client.slot ∧ t.client.dialing = s.client.dialing := by
  obtain ⟨client, phase⟩ := s
  cases phase with
  | connecting | waiting =>
    cases h
    exact ⟨rfl, rfl⟩
  | dialing | listening =>
    obtain ⟨o, -, heq⟩ := Option.map_eq_some_iff.mp h
    cases heq
    exact ⟨rfl, rfl⟩
  | pausing =>
    simp only [proceed] at h
    split at h <;> cases h
    exact ⟨rfl, rfl⟩
  | announcing | ended => cases h

theorem Alone.proceed {chance : Nat} (h : Alone s.client s.phase)
    (hstep : Watch.proceed u p chance s = some (t, es)) : Alone t.client t.phase := by
  obtain ⟨client, phase⟩ := s
  cases h with
  | connecting idle =>
    cases hstep
    exact .asking (by simp [Streaming.State.seat?, Streaming.State.add]) ⟨idle.free, idle.down⟩
  | asking own | dialing own =>
    rw [proceed_of_unfinished u p chance own rfl rfl] at hstep
    cases hstep
  | refused idle own =>
    rw [proceed_of_dialed u p chance own, Option.some.injEq, Prod.mk.injEq] at hstep
    obtain ⟨rfl, -⟩ := hstep
    simp only [afterDial]
    split
    · exact .pausing idle
    · exact .ended
  | pausing idle =>
    simp only [Watch.proceed] at hstep
    split at hstep <;> cases hstep
    exact .connecting idle
  | attends attends slot free =>
    obtain ⟨slot', free'⟩ := slot_of_proceed hstep
    exact .attends (Attends.proceed (s := { client, phase }) attends hstep) (slot'.trans slot)
      (free'.trans free)
  | @told i o own idle =>
    rw [proceed_of_told u p chance own, Option.some.injEq, Prod.mk.injEq] at hstep
    obtain ⟨rfl, -⟩ := hstep
    simp only [afterWait]
    split
    · exact .connecting idle
    · exact .ended
    · exact .ended
  | broken own =>
    rw [proceed_of_told u p chance own, Option.some.injEq, Prod.mk.injEq] at hstep
    obtain ⟨rfl, -⟩ := hstep
    exact .ended
  | ended => cases hstep

theorem Alone.hookEnded {o : Streaming.Outcome} (h : Alone s.client s.phase)
    (hstep : Watch.step u p s (.hookEnded o) = some (t, es)) : Alone t.client t.phase := by
  obtain ⟨client, phase⟩ := s
  cases h with
  | attends attends slot free =>
    have same : t.client = client := by
      cases phase <;> cases hstep
      rfl
    rcases Attends.hookEnded (s := { client, phase }) attends hstep with attends | ⟨e, -, ended⟩
    · exact .attends attends (same ▸ slot) (same ▸ free)
    · rw [ended]
      exact .ended
  | _ => cases hstep

/-! ## Runs -/

/-- Others that dial or come to wait in a run. -/
def outsiders (u : Streaming.Setup) (p : RetryPolicy) (s : State) (as : List Action) : List Nat :=
  Step.history (step u p) outside s as

theorem alone_of_run (h : run u p { client := .fresh headers } as = some (s, es))
    (alone : outsiders u p { client := .fresh headers } as = []) : Alone s.client s.phase := by
  refine Step.reach_induction (R := fun t as _ =>
    outsiders u p { client := .fresh headers } as = [] → Alone t.client t.phase)
    (fun _ => .connecting ⟨rfl, fun k => by simp [Streaming.State.fresh, Streaming.State.isUp]⟩) ?_ h alone
  intro t v a as es fs hrun ih hstep alone
  rw [outsiders, Step.history_concat outside hrun, List.append_eq_nil_iff] at alone
  have before := ih alone.1
  cases a with
  | proceed => exact Alone.proceed (u := u) (p := p) before hstep
  | hookEnded => exact before.hookEnded hstep
  | client b =>
    obtain ⟨⟨client, fs⟩, hclient, heq⟩ := Option.map_eq_some_iff.mp hstep
    cases heq
    exact before.step (inOrder_of_run hrun) alone.2 hclient

/-- Where others neither dial nor wait, a watch has in hand whatever connection is live, until it
returns. It does so too when the callback has panicked: it has been told then. -/
theorem attends_of_alone (h : run u p { client := .fresh headers } as = some (s, es))
    (alone : outsiders u p { client := .fresh headers } as = []) (live : s.client.usable? = some k) :
    (∃ o, s.phase = .ended o) ∨ Attends s.client k s.phase ∨ ∃ i text, s.phase = .listening i ∧
      s.client.seat? i = some (.wait, .finished (.failed (.transport text))) := by
  have order := inOrder_of_run h
  obtain ⟨slot, hup⟩ := Option.filter_eq_some_iff.mp live
  have idle (idle : Idle s.client) : False := by
    rw [idle.down k] at hup
    cases hup
  have halone := alone_of_run h alone
  obtain ⟨client, phase⟩ := s
  cases halone with
  | connecting h | pausing h | asking _ h | refused h | told _ h => exact (idle h).elim
  | @dialing n i d own =>
    obtain ⟨c, hc, -, hp⟩ := Streaming.exists_caller own
    have dialer := (order.one.holder i).mp (by rw [Streaming.dials_of_getElem? hc, hp]; rfl)
    rw [order.one.vacant (by rw [dialer]; simp)] at hup
    cases hup
  | attends attends slot' =>
    obtain rfl := Option.some.inj (slot'.symm.trans slot)
    exact .inr (.inl attends)
  | broken own => exact .inr (.inr ⟨_, _, rfl, own⟩)
  | ended => exact .inl ⟨_, rfl⟩

end Switchboard.Watch
