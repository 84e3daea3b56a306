-- SUMMARY: A watch that has a connection in hand, and what anybody's steps make of it.
import Switchboard.Client.Watch
import Switchboard.Proofs.Streaming.Wait

/-!
# Watches that tend a connection

A watch has a connection in hand from when its dial has come out well until it is told how the
connection has ended (`Attends`). Until it waits, others can meddle: one who dials puts another
connection into the slot, and one who waits takes this one away. If nobody does, and nothing
befalls the connection but that it is shut, there are few ways to go (`Leaving`), and every step
of anybody leads along them.
-/

namespace Switchboard.Watch

open Streaming (Incident)

variable {u : Streaming.Setup} {p : RetryPolicy} {s t v : State} {client : Streaming.State}
  {i k : Nat} {phase : Phase} {a : Action} {as bs cs : List Action} {es fs : List Streaming.Event}
  {headers : Headers}

/-! ## The client of a watch -/

/-- What is done at the client as the watch takes an action. -/
def moves (s : State) : Action → List Streaming.Action
  | .client a => [a]
  | .hookEnded _ => []
  | .proceed _ =>
    match s.phase with
    | .connecting _ => [.start (.connect [])]
    | .waiting => [.start .wait]
    | _ => []

theorem client_of_step (h : step u p s a = some (t, es)) :
    Streaming.run u s.client (moves s a) = some (t.client, es) := by
  obtain ⟨client, phase⟩ := s
  cases a with
  | client a =>
    obtain ⟨⟨client', fs⟩, hstep, heq⟩ := Option.map_eq_some_iff.mp h
    cases heq
    exact Step.run_cons_eq_some_iff.mpr ⟨client', es, [], hstep, rfl, (List.append_nil es).symm⟩
  | hookEnded o =>
    cases phase with
    | announcing =>
      cases h
      rfl
    | _ => cases h
  | proceed chance =>
    cases phase with
    | connecting | waiting =>
      cases h
      rfl
    | dialing | listening =>
      obtain ⟨o, -, heq⟩ := Option.map_eq_some_iff.mp h
      cases heq
      rfl
    | pausing =>
      simp only [step, proceed] at h
      split at h <;> cases h
      rfl
    | announcing | ended => cases h

/-- What goes on at the client in a run of the watch. -/
def happenings (u : Streaming.Setup) (p : RetryPolicy) (s : State) (as : List Action) :
    List Streaming.Happening :=
  (Step.history (step u p) moves s as).map .act

/-- What befalls a connection of the client in a run of the watch. -/
def befallen (u : Streaming.Setup) (p : RetryPolicy) (s : State) (as : List Action) (k : Nat) :
    List Incident :=
  Streaming.incidents u s.client (happenings u p s as) k

theorem client_of_run (h : run u p s as = some (t, es)) :
    Step.run (Streaming.happen u) s.client (happenings u p s as) = some (t.client, es) := by
  apply Step.reach_induction (R := fun t as es =>
    Step.run (Streaming.happen u) s.client (happenings u p s as) = some (t.client, es)) rfl _ h
  intro t v a as es fs hrun ih hstep
  have hlast : Step.run (Streaming.happen u) t.client ((moves t a).map .act) = some (v.client, fs) := by
    rw [Streaming.run_act]
    exact client_of_step hstep
  rw [happenings, Step.history_concat moves hrun, List.map_append]
  exact Step.run_append_eq_some_iff.mpr ⟨t.client, es, fs, ih, hlast, rfl⟩

theorem befallen_append (h : run u p s as = some (t, es)) (bs : List Action) (k : Nat) :
    befallen u p s (as ++ bs) k = befallen u p s as k ++ befallen u p t bs k := by
  have parts : happenings u p s (as ++ bs) = happenings u p s as ++ happenings u p t bs := by
    rw [happenings, Step.history_append moves h, List.map_append]
    rfl
  rw [befallen, Streaming.incidents, parts,
    Step.history_append Streaming.befalling (client_of_run h), Streaming.onLink_append]
  rfl

theorem befallen_client (b : Streaming.Action) : befallen u p s [.client b] k =
    Streaming.onLink k (Streaming.befalling s.client (.act b)) := by
  have only : happenings u p s [.client b] = [.act b] := by
    rw [happenings, Step.history_singleton]
    rfl
  rw [befallen, Streaming.incidents, only, Step.history_singleton]

/-! ## The connection in hand -/

/-- The connection is there for who waits next. -/
structure Reserved (client : Streaming.State) (k : Nat) : Prop where
  slot : client.slot = some k
  free : client.dialing = none
  unclaimed : (client.link k).claimed = false

/-- The watch has the connection in hand: it knows that it is connected, and is the next to wait for
this connection, or it is the one that waits. -/
inductive Attends (client : Streaming.State) (k : Nat) : Phase → Prop
  | connected {n i : Nat} (own : client.seat? i = some (.connect [], .finished .done))
      (reserved : Reserved client k) : Attends client k (.dialing n i)
  | announcing (reserved : Reserved client k) : Attends client k .announcing
  | waiting (reserved : Reserved client k) : Attends client k .waiting
  | asking {i : Nat} (own : client.seat? i = some (.wait, .waiting)) (reserved : Reserved client k) :
      Attends client k (.listening i)
  | joining {i : Nat} (own : client.seat? i = some (.wait, .joining k)) :
      Attends client k (.listening i)

/-- The caller in whose place the watch stands. -/
def Phase.caller? : Phase → Option Nat
  | .dialing _ i | .listening i => some i
  | _ => none

/-- The watch is about to wait, but has not come to it. -/
def State.lingers (s : State) : Bool :=
  match s.phase with
  | .dialing .. | .announcing | .waiting => true
  | .listening i => s.client.seat? i = some (.wait, .waiting)
  | .connecting _ | .pausing .. | .ended _ => false

/-- Others that dial or come to wait. -/
def outside (s : State) : Action → List Nat
  | .client (.caller i .dial) | .client (.caller i .claim) =>
    if s.phase.caller? = some i then [] else [i]
  | _ => []

/-- Others that dial, or that come to wait, while the watch is about to. -/
def meddling (s : State) (a : Action) : List Nat := if s.lingers then outside s a else []

def meddlers (u : Streaming.Setup) (p : RetryPolicy) (s : State) (as : List Action) : List Nat :=
  Step.history (step u p) meddling s as

/-- The dials of the watch. -/
def dialing (s : State) : Action → List Nat
  | .client (.caller i .dial) => if s.phase.caller? = some i then [i] else []
  | _ => []

def ownDials (u : Streaming.Setup) (p : RetryPolicy) (s : State) (as : List Action) : List Nat :=
  Step.history (step u p) dialing s as

/-- Where a watch can be, after these actions, that has had the connection in hand: it has it still, or
has been told that it was shut, or has returned. -/
inductive Leaving (client : Streaming.State) (k : Nat) (as : List Action) : Phase → Prop
  | attends {phase : Phase} (attends : Attends client k phase) : Leaving client k as phase
  | told {i : Nat} (own : client.seat? i = some (.wait, .finished .done)) :
      Leaving client k as (.listening i)
  | ended {o : Streaming.Outcome} (how : o = .done ∨ ∃ e, o = .failed e ∧ .hookEnded o ∈ as) :
      Leaving client k as (.ended o)

theorem Leaving.mono (h : Leaving client k as phase) (bs : List Action) :
    Leaving client k (as ++ bs) phase := by
  cases h with
  | attends attends => exact .attends attends
  | told own => exact .told own
  | ended how =>
    apply Leaving.ended
    rcases how with done | ⟨e, failed, hmem⟩
    · exact .inl done
    · exact .inr ⟨e, failed, List.mem_append_left bs hmem⟩

/-! ## Clients in order -/

structure InOrder (client : Streaming.State) : Prop where
  one : Streaming.OneLive client
  filled : client.SlotFilled
  sound : client.LinksSound

theorem inOrder_of_run (h : run u p { client := .fresh headers } as = some (s, es)) :
    InOrder s.client where
  one := Streaming.oneLive_of_run (client_of_run h)
  filled := Streaming.slotFilled_of_run (client_of_run h)
  sound k l := (Streaming.ages_of_run (client_of_run h)).new k l rfl

/-- The client is in order, and no fault is on record for the connection. -/
structure Intact (client : Streaming.State) (k : Nat) : Prop extends InOrder client where
  unhurt : ∀ o, (client.link k).receiver.report? = some o → o = .done

theorem intact_of_run (h : run u p { client := .fresh headers } as = some (s, es))
    (shut : ∀ b ∈ befallen u p { client := .fresh headers } as k, b = .shut) : Intact s.client k := by
  refine ⟨inOrder_of_run h, fun o reports => ?_⟩
  have tells := (Streaming.chronicle_of_run (client_of_run h) k).tells reports
  rcases tells.cause with done | ⟨e, -, hfault | hfault | ⟨text, hcrash, -⟩⟩
  · exact done
  · cases shut _ hfault
  · cases shut _ hfault
  · cases shut _ hcrash

/-! ## Steps of the client -/

/-- No caller in whose place the watch stands dials. -/
theorem Leaving.not_dial (h : Leaving client k as phase) (own : phase.caller? = some i) :
    Streaming.step u client (.caller i .dial) = none := by
  rw [Option.eq_none_iff_forall_ne_some]
  rintro ⟨t, es⟩ hstep
  obtain ⟨r, hwaiting, hneeds⟩ := Streaming.waiting_of_dial hstep
  have idle {j : Nat} {r' : Streaming.Request} {q : Streaming.Phase} (hj : some j = some i)
      (hs : client.seat? j = some (r', q)) : r = r' ∧ q = .waiting := by
    cases hj
    rw [hwaiting] at hs
    cases hs
    exact ⟨rfl, rfl⟩
  cases h with
  | attends attends =>
    cases attends with
    | connected hs | joining hs => cases (idle own hs).2
    | asking hs =>
      cases (idle own hs).1
      cases hneeds
    | announcing | waiting => cases own
  | told hs => cases (idle own hs).2
  | ended => cases own

/-- A connection that is reserved stays so, unless somebody meddles or the watch itself claims it. -/
theorem Reserved.step {b : Streaming.Action} (h : Reserved s.client k) (order : InOrder s.client)
    (lingers : s.lingers = true) (alone : meddling s (.client b) = [])
    (hstep : Streaming.step u s.client b = some (client, es))
    (still : ∀ i, s.phase.caller? = some i → b ≠ .caller i .dial ∧ b ≠ .caller i .claim) :
    Reserved client k := by
  rw [meddling, if_pos lingers] at alone
  have own {i : Nat} (hi : (if s.phase.caller? = some i then [] else [i]) = []) :
      s.phase.caller? = some i := by
    split at hi
    · next hown => exact hown
    · cases hi
  have undialed : ∀ i, b ≠ .caller i .dial := by
    rintro i rfl
    exact (still i (own alone)).1 rfl
  obtain ⟨slot, free, -⟩ := order.one.undialed h.free hstep undialed
  refine ⟨slot.trans h.slot, free, ?_⟩
  have fares := Streaming.fares_of_happen (a := .act b) order.filled hstep k
  rw [Streaming.claimed_of_fares fares, h.unclaimed]
  rintro i hb
  cases hb
  exact (still i (own alone)).2 rfl

/-- What becomes of a watch that has a connection in hand by what goes on at its client: it has it still,
or it has been told how the connection ended. -/
theorem Attends.step {b : Streaming.Action} (h : Attends s.client k s.phase)
    (order : InOrder s.client) (alone : meddling s (.client b) = [])
    (hstep : Streaming.step u s.client b = some (client, es)) :
    Attends client k s.phase ∨ ∃ i o, s.phase = .listening i ∧
      client.seat? i = some (.wait, .finished o) ∧ (s.client.link k).receiver.report? = some o := by
  have undialed {i : Nat} (own : s.phase.caller? = some i) : b ≠ .caller i .dial := by
    have leaving : Leaving s.client k [] s.phase := .attends h
    rintro rfl
    rw [leaving.not_dial own] at hstep
    cases hstep
  obtain ⟨client', phase⟩ := s
  cases h with
  | @connected n i own reserved =>
    apply Or.inl
    apply Attends.connected (Streaming.seat?_of_finished own hstep)
    apply reserved.step order rfl alone hstep
    rintro j ⟨⟩
    refine ⟨undialed rfl, ?_⟩
    rintro rfl
    rw [Streaming.step_of_finished own] at hstep
    cases hstep
  | announcing reserved =>
    exact .inl (.announcing (reserved.step order rfl alone hstep (by rintro j ⟨⟩)))
  | waiting reserved => exact .inl (.waiting (reserved.step order rfl alone hstep (by rintro j ⟨⟩)))
  | @asking i own reserved =>
    by_cases hb : ∃ d, b = .caller i d
    · obtain ⟨d, rfl⟩ := hb
      obtain ⟨q, hs, waits⟩ := Streaming.waits_of_own own rfl hstep
      cases waits with
      | @claim j hslot =>
        obtain rfl : j = k := Option.some.inj (hslot.symm.trans reserved.slot)
        exact .inl (.joining hs)
      | vacant taken =>
        have claimed := taken k reserved.slot (order.filled k reserved.slot)
        rw [reserved.unclaimed] at claimed
        cases claimed
    · apply Or.inl
      apply Attends.asking (Streaming.seat?_of_step own rfl hstep hb)
      apply reserved.step order (by simpa [State.lingers] using own) alone hstep
      rintro j ⟨⟩
      exact ⟨fun h => hb ⟨_, h⟩, fun h => hb ⟨_, h⟩⟩
  | @joining i own =>
    by_cases hb : ∃ d, b = .caller i d
    · obtain ⟨d, rfl⟩ := hb
      obtain ⟨q, hs, waits⟩ := Streaming.waits_of_own own rfl hstep
      cases waits with
      | join reports => exact .inr ⟨i, _, rfl, hs, reports⟩
    · exact .inl (.joining (Streaming.seat?_of_step own rfl hstep hb))

/-! ## Steps of the watch -/

section
variable (u : Streaming.Setup) (p : RetryPolicy) (chance : Nat) {r : Streaming.Request}
  {o : Streaming.Outcome}

theorem proceed_of_dialed (own : client.seat? i = some (r, .finished o)) (n : Nat) :
    proceed u p chance { client, phase := .dialing n i } =
      some ({ client, phase := afterDial p n client.now chance o }, []) := by
  simp only [proceed, Streaming.outcome?_of_seat? own, Option.map_some]

theorem proceed_of_told (own : client.seat? i = some (r, .finished o)) :
    proceed u p chance { client, phase := .listening i } = some ({ client, phase := afterWait o }, []) := by
  simp only [proceed, Streaming.outcome?_of_seat? own, Option.map_some]

/-- A watch whose caller has not come out stays where it is. -/
theorem proceed_of_unfinished {q : Streaming.Phase} (hs : client.seat? i = some (r, q))
    (early : q.isFinished = false) (own : phase.caller? = some i) :
    proceed u p chance { client, phase } = none := by
  cases phase with
  | dialing | listening =>
    cases own
    simp only [proceed, Streaming.outcome?_eq_none hs early, Option.map_none]
  | _ => cases own

end

/-- A watch that has a connection in hand does not let go of it by itself. -/
theorem Attends.proceed {chance : Nat} (h : Attends s.client k s.phase)
    (hstep : Watch.proceed u p chance s = some (t, es)) : Attends t.client k t.phase := by
  obtain ⟨client, phase⟩ := s
  cases h with
  | connected own reserved =>
    rw [proceed_of_dialed u p chance own] at hstep
    cases hstep
    exact .announcing reserved
  | announcing => cases hstep
  | waiting reserved =>
    cases hstep
    apply Attends.asking
    · simp [Streaming.State.seat?, Streaming.State.add]
    · exact ⟨reserved.slot, reserved.free, reserved.unclaimed⟩
  | asking own | joining own =>
    rw [proceed_of_unfinished u p chance own rfl rfl] at hstep
    cases hstep

theorem Attends.hookEnded {o : Streaming.Outcome} (h : Attends s.client k s.phase)
    (hstep : Watch.step u p s (.hookEnded o) = some (t, es)) :
    Attends t.client k t.phase ∨ ∃ e, o = .failed e ∧ t.phase = .ended o := by
  obtain ⟨client, phase⟩ := s
  cases h with
  | announcing reserved =>
    cases hstep
    cases o with
    | done | answered => exact .inl (.waiting reserved)
    | failed e => exact .inr ⟨e, rfl, rfl⟩
  | _ => cases hstep

/-- What becomes of a watch by what it does itself. -/
theorem Leaving.proceed {chance : Nat} (h : Leaving s.client k as s.phase)
    (hstep : Watch.proceed u p chance s = some (t, es)) : Leaving t.client k as t.phase := by
  obtain ⟨client, phase⟩ := s
  cases h with
  | attends attends => exact .attends (Attends.proceed (s := { client, phase }) attends hstep)
  | told own =>
    rw [proceed_of_told u p chance own] at hstep
    cases hstep
    exact .ended (.inl rfl)
  | ended => cases hstep

theorem Leaving.hookEnded {o : Streaming.Outcome} (h : Leaving s.client k as s.phase)
    (hstep : Watch.step u p s (.hookEnded o) = some (t, es)) :
    Leaving t.client k (as ++ [.hookEnded o]) t.phase := by
  obtain ⟨client, phase⟩ := s
  cases h with
  | attends attends =>
    rcases Attends.hookEnded (s := { client, phase }) attends hstep with attends | ⟨e, failed, ended⟩
    · exact .attends attends
    · rw [ended]
      exact .ended (.inr ⟨e, failed, by simp⟩)
  | told | ended => cases hstep

theorem Leaving.step (h : Leaving s.client k as s.phase) (intact : Intact s.client k)
    (alone : meddling s a = []) (hstep : Watch.step u p s a = some (t, es)) :
    Leaving t.client k (as ++ [a]) t.phase ∧ dialing s a = [] := by
  cases a with
  | proceed chance => exact ⟨(Leaving.proceed (u := u) (p := p) h hstep).mono _, rfl⟩
  | hookEnded o => exact ⟨h.hookEnded hstep, rfl⟩
  | client b =>
    obtain ⟨⟨client, fs⟩, hclient, heq⟩ := Option.map_eq_some_iff.mp hstep
    cases heq
    constructor
    · obtain ⟨client', phase⟩ := s
      cases h with
      | attends attends =>
        rcases Attends.step (s := { client := client', phase }) attends intact.toInOrder alone hclient with
          attends | ⟨i, o, rfl, told, reports⟩
        · exact .attends attends
        · obtain rfl := intact.unhurt o reports
          exact .told told
      | told own => exact .told (Streaming.seat?_of_finished own hclient)
      | ended how => exact (Leaving.ended how).mono [_]
    · unfold dialing
      split
      · next i hb =>
        cases hb
        split
        · next own =>
          rw [h.not_dial own] at hclient
          cases hclient
        · rfl
      · rfl

/-! ## Runs -/

/-- As long as nothing but closing befalls the connection, and nobody meddles. -/
theorem Leaving.run (h : Leaving s.client k cs s.phase)
    (before : Watch.run u p { client := .fresh headers } as = some (s, es))
    (after : Watch.run u p s bs = some (t, fs)) (alone : meddlers u p s bs = [])
    (shut : ∀ b ∈ befallen u p { client := .fresh headers } (as ++ bs) k, b = .shut) :
    Leaving t.client k (cs ++ bs) t.phase ∧ ownDials u p s bs = [] := by
  refine Step.reach_induction (R := fun t bs fs => meddlers u p s bs = [] →
    (∀ b ∈ befallen u p { client := .fresh headers } (as ++ bs) k, b = .shut) →
    Leaving t.client k (cs ++ bs) t.phase ∧ ownDials u p s bs = [])
    (fun _ _ => ⟨(List.append_nil cs).symm ▸ h, rfl⟩) ?_ after alone shut
  intro t v a bs fs gs hrun ih hstep alone shut
  rw [meddlers, Step.history_concat meddling hrun, List.append_eq_nil_iff] at alone
  have whole : Watch.run u p { client := .fresh headers } (as ++ bs) = some (t, es ++ fs) :=
    Step.run_append_eq_some_iff.mpr ⟨s, es, fs, before, hrun, rfl⟩
  rw [← List.append_assoc, befallen_append whole] at shut
  have shut' b (hb : b ∈ befallen u p { client := .fresh headers } (as ++ bs) k) : b = .shut :=
    shut b (List.mem_append_left _ hb)
  obtain ⟨leaving, undialed⟩ := ih alone.1 shut'
  obtain ⟨leaving', undialed'⟩ := leaving.step (intact_of_run whole shut') alone.2 hstep
  rw [← List.append_assoc, ownDials, Step.history_concat dialing hrun, List.append_eq_nil_iff]
  exact ⟨leaving', undialed, undialed'⟩

end Switchboard.Watch
