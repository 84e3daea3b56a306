-- SUMMARY: A watch returns once the connection that it has in hand is closed from this side.
import Switchboard.Proofs.Watch.Alone

/-!
# Closing a watched client

To close a client is to shut the connection in its slot. A watch learns of it from the wait for
this connection, and from nothing else. So `watch_ends_with_its_connection`: if the watch has the
connection in hand, it dials no more, and it returns success, or what its hook has failed with;
`Returns` says that the watch, its hook and the halves of the connection can get there by
themselves.

A client that is closed while there is no live connection in its slot is left as it was
(`shut_of_vacant`). A watch that is between two connections at that moment goes on to dial. Where
others neither dial nor wait, there is nothing between these two cases (`shut_of_alone`).
-/

namespace Switchboard.Watch

variable {u : Streaming.Setup} {p : RetryPolicy} {s t v : State} {client : Streaming.State}
  {i k : Nat} {phase : Phase} {a : Action} {as bs cs : List Action} {es fs : List Streaming.Event}
  {headers : Headers}

/-! ## To the end -/

/-- A step of the watch, of its hook, which succeeds, or of the halves of the connection, which read
nothing. -/
def Action.isOwn (k : Nat) : Action → Bool
  | .proceed _ | .hookEnded .done => true
  | .client (.caller _ .claim) | .client (.caller _ .join) => true
  | .client (.link j b) => j = k && b.isCalm
  | _ => false

/-- The watch gets from one state to the other by such steps. -/
def Goes (u : Streaming.Setup) (p : RetryPolicy) (k : Nat) (s t : State) : Prop :=
  ∃ as es, (∀ a ∈ as, a.isOwn k = true) ∧ run u p s as = some (t, es)

theorem Goes.of_step (own : a.isOwn k = true) (h : step u p s a = some (t, es)) : Goes u p k s t :=
  ⟨[a], es ++ [], by simpa using own, Step.run_cons_eq_some_iff.mpr ⟨t, es, [], h, rfl, rfl⟩⟩

theorem Goes.trans (h : Goes u p k s t) (h' : Goes u p k t v) : Goes u p k s v := by
  obtain ⟨as, es, own, hrun⟩ := h
  obtain ⟨bs, fs, own', hrun'⟩ := h'
  refine ⟨as ++ bs, es ++ fs, fun a ha => ?_, Step.run_append_eq_some_iff.mpr ⟨t, es, fs, hrun, hrun', rfl⟩⟩
  exact (List.mem_append.mp ha).elim (own a) (own' a)

theorem run_of_client {bs : List Streaming.Action} (h : Streaming.run u s.client bs = some (client, es)) :
    run u p s (bs.map .client) = some ({ s with client }, es) := by
  induction bs generalizing s es with
  | nil =>
    cases h
    rfl
  | cons b bs ih =>
    obtain ⟨client', fs, gs, hstep, hrun, rfl⟩ := Step.run_cons_eq_some_iff.mp h
    have hfirst : step u p s (.client b) = some ({ s with client := client' }, fs) :=
      Option.map_eq_some_iff.mpr ⟨_, hstep, rfl⟩
    exact Step.run_cons_eq_some_iff.mpr ⟨_, fs, gs, hfirst, ih (s := { s with client := client' }) hrun, rfl⟩

/-- The watch returns success. -/
def Returns (u : Streaming.Setup) (p : RetryPolicy) (k : Nat) (s : State) : Prop :=
  ∃ t, Goes u p k s t ∧ t.phase = .ended .done

theorem Goes.returns (h : Goes u p k s t) (h' : Returns u p k t) : Returns u p k s := by
  obtain ⟨v, goes, returned⟩ := h'
  exact ⟨v, h.trans goes, returned⟩

theorem Returns.step (own : a.isOwn k = true) (h : Watch.step u p s a = some (t, es))
    (h' : Returns u p k t) : Returns u p k s :=
  (Goes.of_step own h).returns h'

theorem returns_of_told (own : client.seat? i = some (.wait, .finished .done)) :
    Returns u p k { client, phase := .listening i } := by
  have hstep : step u p { client, phase := .listening i } (.proceed 0) =
      some ({ client, phase := .ended .done }, []) := proceed_of_told u p 0 own
  exact ⟨_, .of_step rfl hstep, rfl⟩

section
variable (ended : (client.link k).receiver = .ended none)
include ended

theorem getElem?_of_ended : client.links[k]? = some (client.link k) := by
  unfold Streaming.State.link at ended ⊢
  cases hl : client.links[k]? with
  | none =>
    rw [hl] at ended
    cases ended
  | some l => rfl

theorem returns_of_joining (own : client.seat? i = some (.wait, .joining k)) :
    Returns u p k { client, phase := .listening i } := by
  obtain ⟨c, hc, -, hp⟩ := Streaming.exists_caller own
  have hjoin : Streaming.step u client (.caller i .join) = some (client.finish i .done) := by
    simp only [Streaming.step, hc, Option.bind_some, Streaming.stepCaller, hp,
      getElem?_of_ended ended, ended]
    rfl
  have told : (client.finish i .done).1.seat? i = some (.wait, .finished .done) := by
    rw [Streaming.State.finish, Streaming.seat?_of_moved (s := client) rfl, if_pos rfl, own]
    rfl
  exact .step (a := .client (.caller i .join)) rfl (Option.map_eq_some_iff.mpr ⟨_, hjoin, rfl⟩)
    (returns_of_told told)

theorem returns_of_asking (own : client.seat? i = some (.wait, .waiting)) (reserved : Reserved client k) :
    Returns u p k { client, phase := .listening i } := by
  obtain ⟨c, hc, hr, hp⟩ := Streaming.exists_caller own
  have hl := getElem?_of_ended ended
  let client' := (client.updateLink k fun l => { l with claimed := true }).moveTo i (.joining k)
  have hclaim : Streaming.step u client (.caller i .claim) = some (client', []) := by
    have hopen : (client.slot.filter fun k => (client.links[k]?).any fun l => !l.claimed) = some k := by
      rw [reserved.slot, Option.filter_some, hl, Option.any_some, reserved.unclaimed]
      rfl
    simp only [Streaming.step, Streaming.stepCaller, hc, Option.bind_some, hp, hr, reserved.free, hopen]
    rfl
  have joining : client'.seat? i = some (.wait, .joining k) := by
    have moved : client.Moved client' i (.joining k) := rfl
    rw [Streaming.seat?_of_moved moved, if_pos rfl, own]
    rfl
  have ended' : (client'.link k).receiver = .ended none := by
    have hlt : k < client.links.length := (List.getElem?_eq_some_iff.mp hl).1
    have hlink := Streaming.link_updateLink_self (f := fun l => { l with claimed := true }) hlt
    exact (congrArg Streaming.Link.receiver hlink).trans ended
  exact .step (a := .client (.caller i .claim)) rfl (Option.map_eq_some_iff.mpr ⟨_, hclaim, rfl⟩)
    (returns_of_joining ended' joining)

theorem returns_of_waiting (reserved : Reserved client k) :
    Returns u p k { client, phase := .waiting } := by
  have asking : (client.add { request := .wait }).seat? client.callers.length = some (.wait, .waiting) := by
    simp [Streaming.State.seat?, Streaming.State.add]
  have next : Returns u p k
      { client := client.add { request := .wait }, phase := .listening client.callers.length } :=
    returns_of_asking ended asking ⟨reserved.slot, reserved.free, reserved.unclaimed⟩
  exact .step (a := .proceed 0) rfl rfl next

theorem returns_of_announcing (reserved : Reserved client k) :
    Returns u p k { client, phase := .announcing } :=
  .step (a := .hookEnded .done) rfl rfl (returns_of_waiting ended reserved)

theorem returns_of_attends (h : Attends client k phase) : Returns u p k { client, phase } := by
  cases h with
  | @connected n i own reserved =>
    have hstep : step u p { client, phase := .dialing n i } (.proceed 0) =
        some ({ client, phase := .announcing }, []) := proceed_of_dialed u p 0 own n
    exact .step rfl hstep (returns_of_announcing ended reserved)
  | announcing reserved => exact returns_of_announcing ended reserved
  | waiting reserved => exact returns_of_waiting ended reserved
  | asking own reserved => exact returns_of_asking ended own reserved
  | joining own => exact returns_of_joining ended own

end

/-- The halves of the connection do not meddle, and nothing befalls it by what they do calmly. -/
theorem quiet_of_calm {bs : List Streaming.Action}
    (calm : ∀ b ∈ bs, ∃ d : Streaming.LinkAction, b = .link k d ∧ d.isCalm = true) (s : State) :
    meddlers u p s (bs.map .client) = [] ∧ befallen u p s (bs.map .client) k = [] := by
  constructor
  · rw [List.eq_nil_iff_forall_not_mem]
    intro i hi
    obtain ⟨t, a, ha, hi⟩ := Step.mem_history hi
    obtain ⟨b, hb, rfl⟩ := List.mem_map.mp ha
    obtain ⟨d, rfl, -⟩ := calm b hb
    simp [meddling, outside] at hi
  · have none : Step.history (Streaming.happen u) Streaming.befalling s.client
        (happenings u p s (bs.map .client)) = [] := by
      rw [List.eq_nil_iff_forall_not_mem]
      intro incident hincident
      obtain ⟨client, a, ha, hincident⟩ := Step.mem_history hincident
      obtain ⟨b, hb, rfl⟩ := List.mem_map.mp ha
      obtain ⟨t, a, ha, hb⟩ := Step.mem_history hb
      obtain ⟨b', hb', rfl⟩ := List.mem_map.mp ha
      obtain ⟨d, rfl, hd⟩ := calm b' hb'
      obtain rfl := List.mem_singleton.mp hb
      cases d with
      | receive | crash text | writeFault e => cases hd
      | _ => cases hincident
    rw [befallen, Streaming.incidents, none]
    rfl

/-- The halves end the connection by themselves, and the watch learns of it. -/
theorem Leaving.returns (h : Leaving s.client k cs s.phase)
    (hrun : Watch.run u p { client := .fresh headers } as = some (s, es))
    (shut : ∀ b ∈ befallen u p { client := .fresh headers } as k, b = .shut)
    (happened : befallen u p { client := .fresh headers } as k ≠ []) (there : k < s.client.links.length) :
    (∃ o, s.phase = .ended o) ∨ Returns u p k s := by
  obtain ⟨l, hl⟩ : ∃ l, s.client.links[k]? = some l := ⟨_, List.getElem?_eq_getElem there⟩
  have chronicle := Streaming.link_of_getElem? hl ▸ Streaming.chronicle_of_run (client_of_run hrun) k
  obtain ⟨client, l', ⟨bs, fs, calm, winds⟩, hl', ended⟩ :=
    Streaming.ends_of_isEnding (u := u) hl ((intact_of_run hrun shut).sound k l hl)
      (chronicle.ending.mpr happened) (chronicle.hasCrashed fun _ hcrash => nomatch shut _ hcrash)
  -- With the steps of the halves the connection is over, and the watch is still where it was.
  have hwinds := run_of_client (p := p) winds
  obtain ⟨alone, nothing⟩ := quiet_of_calm (u := u) (p := p) calm s
  have shut' : ∀ b ∈ befallen u p { client := .fresh headers } (as ++ bs.map .client) k, b = .shut := by
    rw [befallen_append hrun, nothing, List.append_nil]
    exact shut
  have finished : (client.link k).receiver = .ended none := by
    have intact : Intact client k :=
      intact_of_run (Step.run_append_eq_some_iff.mpr ⟨s, es, fs, hrun, hwinds, rfl⟩) shut'
    cases hr : l'.receiver with
    | ended e =>
      have hended : (client.link k).receiver = .ended e := by rw [Streaming.link_of_getElem? hl', hr]
      have done : Streaming.Outcome.ofEnd e = .done := intact.unhurt _ (by rw [hended]; rfl)
      cases e with
      | none => exact hended
      | some e => cases done
    | _ =>
      rw [hr] at ended
      cases ended
  have goes : Goes u p k s { s with client } := by
    refine ⟨_, fs, fun a ha => ?_, hwinds⟩
    obtain ⟨b, hb, rfl⟩ := List.mem_map.mp ha
    obtain ⟨d, rfl, hd⟩ := calm b hb
    simpa [Action.isOwn] using hd
  obtain ⟨leaving, -⟩ := Leaving.run h hrun hwinds alone shut'
  obtain ⟨client', phase⟩ := s
  cases leaving with
  | attends attends => exact .inr (goes.returns (returns_of_attends finished attends))
  | told own => exact .inr (goes.returns (returns_of_told own))
  | ended => exact .inl ⟨_, rfl⟩

/-! ## Closing -/

/-- Somebody closes a client, and the connection that is shut by that is one that a watch has in hand.
The watch then dials no more, and if it returns, it returns success, or what its hook has failed with
meanwhile; and it can always go on until it has returned, without waiting for anybody but its hook.
All this holds if no read and no write of the connection fails, and if nobody else dials or comes to
wait before the watch does. -/
theorem watch_ends_with_its_connection {c : Nat}
    (before : run u p { client := .fresh headers } as = some (s, es)) (slot : s.client.slot = some k)
    (attends : Attends s.client k s.phase)
    (after : run u p s (.client (.caller c .shut) :: bs) = some (t, fs))
    (alone : meddlers u p s (.client (.caller c .shut) :: bs) = [])
    (shut : ∀ b ∈ befallen u p { client := .fresh headers } (as ++ .client (.caller c .shut) :: bs) k,
      b = .shut) :
    ownDials u p s (.client (.caller c .shut) :: bs) = [] ∧
    (∀ o, t.phase = .ended o → o = .done ∨ ∃ e, o = .failed e ∧ .hookEnded o ∈ bs) ∧
    ((∃ o, t.phase = .ended o) ∨ Returns u p k t) := by
  have leaving : Leaving s.client k [] s.phase := .attends attends
  obtain ⟨leaving, undialed⟩ := leaving.run before after alone shut
  refine ⟨undialed, fun o ended => ?_, ?_⟩
  · rw [ended] at leaving
    cases leaving with
    | attends attends => cases attends
    | ended how => simpa using how
  · have there : k < s.client.links.length := Streaming.slotFilled_of_run (client_of_run before) k slot
    apply leaving.returns (Step.run_append_eq_some_iff.mpr ⟨s, es, fs, before, after, rfl⟩) shut _
      ((Streaming.ages_of_run (client_of_run after)).lt_length there)
    -- The shut is among what has befallen the connection.
    intro nothing
    obtain ⟨s', _, _, hshut, -, -⟩ := Step.run_cons_eq_some_iff.mp after
    have hfirst : run u p s [.client (.caller c .shut)] = some (s', _) :=
      Step.run_cons_eq_some_iff.mpr ⟨s', _, [], hshut, rfl, rfl⟩
    have hmem : .shut ∈ befallen u p s [.client (.caller c .shut)] k := by
      simp [befallen_client, Streaming.befalling, slot, Streaming.onLink]
    rw [befallen_append before, ← List.singleton_append, befallen_append hfirst,
      List.append_eq_nil_iff, List.append_eq_nil_iff] at nothing
    rw [nothing.2.1] at hmem
    cases hmem

/-- Somebody comes to close the client while the watch dials, and closes it as soon as there is a
connection. While the watch waits for the end, somebody else connects again. -/
def closedAmidDial : List Action :=
  [.proceed 0, .client (.caller 0 .dial), .client (.start .close), .client (.caller 0 .established)]

def afterClosedAmidDial : List Action :=
  [.proceed 0, .hookEnded .done, .proceed 0, .client (.link 0 .stop), .client (.caller 2 .claim),
    .client (.start (.connect [])), .client (.caller 3 .dial), .client (.caller 3 .established),
    .client (.link 0 .cancel), .client (.link 0 .clear), .client (.link 0 .quit),
    .client (.link 0 .joinSender), .client (.link 0 .hangUp), .client (.caller 2 .join), .proceed 0]

theorem watch_ends_with_its_connection_closedAmidDial :
    ∃ s es t fs, run Streaming.paddedSetup {} { client := .fresh [] } closedAmidDial = some (s, es) ∧
      s.client.slot = some 0 ∧ Attends s.client 0 s.phase ∧
      run Streaming.paddedSetup {} s (.client (.caller 1 .shut) :: afterClosedAmidDial) = some (t, fs) ∧
      ownDials Streaming.paddedSetup {} s (.client (.caller 1 .shut) :: afterClosedAmidDial) = [] ∧
      t.phase = .ended .done := by
  have hshown : ((run Streaming.paddedSetup {} { client := .fresh [] } closedAmidDial).bind fun (s, _) =>
      (run Streaming.paddedSetup {} s (.client (.caller 1 .shut) :: afterClosedAmidDial)).map fun (t, _) =>
        (s.phase, s.client.slot, s.client.dialing, t.phase)) =
      some (.dialing 0 0, some 0, none, .ended .done) := by
    decide +kernel
  have hothers : (run Streaming.paddedSetup {} { client := .fresh [] } closedAmidDial).map (fun (s, _) =>
      (s.client.seat? 0, (s.client.link 0).claimed,
        meddlers Streaming.paddedSetup {} s (.client (.caller 1 .shut) :: afterClosedAmidDial))) =
      some (some (.connect [], .finished .done), false, []) := by
    decide +kernel
  have hshut : befallen Streaming.paddedSetup {} { client := .fresh [] }
      (closedAmidDial ++ .client (.caller 1 .shut) :: afterClosedAmidDial) 0 = [.shut] := by
    decide +kernel
  obtain ⟨⟨s, es⟩, hrun, hshown⟩ := Option.bind_eq_some_iff.mp hshown
  obtain ⟨⟨t, fs⟩, hafter, hshown⟩ := Option.map_eq_some_iff.mp hshown
  simp only [Prod.mk.injEq] at hshown
  obtain ⟨hphase, hslot, hfree, hended⟩ := hshown
  rw [hrun, Option.map_some, Option.some.injEq, Prod.mk.injEq, Prod.mk.injEq] at hothers
  obtain ⟨hseat, hunclaimed, halone⟩ := hothers
  have attends : Attends s.client 0 s.phase := hphase ▸ .connected hseat ⟨hslot, hfree, hunclaimed⟩
  obtain ⟨undialed, -, -⟩ :=
    watch_ends_with_its_connection hrun hslot attends hafter halone (by simp [hshut])
  exact ⟨s, es, t, fs, hrun, hslot, attends, hafter, undialed, hended⟩

/-! ## Closing in vain -/

/-- A client that is closed while it has no live connection is left as it was, and so is the watch:
only that who closes it is done. -/
theorem shut_of_vacant {c : Nat} (vacant : s.client.usable? = none)
    (h : step u p s (.client (.caller c .shut)) = some (t, es)) :
    t = { s with client := s.client.moveTo c (.finished .done) } := by
  obtain ⟨⟨client, fs⟩, hclient, heq⟩ := Option.map_eq_some_iff.mp h
  cases heq
  obtain ⟨d, -, hclient⟩ := Option.bind_eq_some_iff.mp hclient
  simp only [Streaming.stepCaller] at hclient
  split at hclient
  · cases hclient
    rw [Streaming.cancelSlot_of_vacant vacant]
  · cases hclient

/-- Where others neither dial nor wait, to close the client is to shut the connection that the watch has
in hand, or it changes nothing, unless the watch has returned before or has been told of a panic. -/
theorem shut_of_alone {c : Nat} (before : run u p { client := .fresh headers } as = some (s, es))
    (alone : outsiders u p { client := .fresh headers } as = [])
    (h : step u p s (.client (.caller c .shut)) = some (t, fs)) :
    (∃ o, s.phase = .ended o) ∨
    (∃ i text, s.phase = .listening i ∧
      s.client.seat? i = some (.wait, .finished (.failed (.transport text)))) ∨
    (∃ k, s.client.slot = some k ∧ Attends s.client k s.phase) ∨
    t = { s with client := s.client.moveTo c (.finished .done) } := by
  cases hlive : s.client.usable? with
  | none => exact .inr (.inr (.inr (shut_of_vacant hlive h)))
  | some k =>
    have slot : s.client.slot = some k := (Option.filter_eq_some_iff.mp hlive).1
    rcases attends_of_alone before alone hlive with ended | attends | broken
    · exact .inl ended
    · exact .inr (.inr (.inl ⟨k, slot, attends⟩))
    · exact .inr (.inl broken)

/-- The client is closed three times: as a dial is refused that was under way, in the pause after it,
and as soon as the peer has ended the stream. All dials are those of the watch. -/
def closedInVain : List Action :=
  [.proceed 0, .client (.caller 0 .dial), .client (.start .close),
    .client (.caller 0 (.refused (.connectFailed "busy"))), .client (.caller 1 .shut), .proceed 0,
    .client (.start .close), .client (.caller 2 .shut), .client (.pass 100), .proceed 0, .proceed 0,
    .client (.caller 3 .dial), .client (.caller 3 .established), .proceed 0, .hookEnded .done,
    .proceed 0, .client (.caller 4 .claim), .client (.arrive 0 (.fault .transportClosed)),
    .client (.link 0 .receive), .client (.link 0 .cancel), .client (.link 0 .clear),
    .client (.link 0 .quit), .client (.link 0 .joinSender), .client (.link 0 .hangUp),
    .client (.caller 4 .join), .proceed 0, .client (.start .close), .client (.caller 5 .shut),
    .proceed 0, .client (.caller 6 .dial), .client (.caller 6 .established), .proceed 0]

theorem watch_dials_after_closing :
    let p : RetryPolicy := { maxAttempts := 2, initialDelay := 100, jitter := 0 }
    ∃ s es, run Streaming.paddedSetup p { client := .fresh [] } closedInVain = some (s, es) ∧
      ownDials Streaming.paddedSetup p { client := .fresh [] } closedInVain = [0, 3, 6] ∧
      [1, 2, 5].map s.client.request? = [some .close, some .close, some .close] ∧
      es = [.dialed [], .finished 0 (.failed (.connectFailed "busy")), .finished 1 .done,
        .finished 2 .done, .dialed [], .finished 3 .done, .closed 0,
        .finished 4 (.failed .transportClosed), .finished 5 .done, .dialed [], .finished 6 .done] ∧
      s.phase = .announcing ∧ s.client.isConnected = true := by
  intro p
  have hshown : (run Streaming.paddedSetup p { client := .fresh [] } closedInVain).map (fun (s, es) =>
      (s.phase, s.client.isConnected, es)) = some (.announcing, true,
        [.dialed [], .finished 0 (.failed (.connectFailed "busy")), .finished 1 .done,
        .finished 2 .done, .dialed [], .finished 3 .done, .closed 0,
        .finished 4 (.failed .transportClosed), .finished 5 .done, .dialed [], .finished 6 .done]) := by
    decide +kernel
  have hclosers : (run Streaming.paddedSetup p { client := .fresh [] } closedInVain).map (fun (s, _) =>
      [1, 2, 5].map s.client.request?) = some [some .close, some .close, some .close] := by
    decide +kernel
  have hdials : ownDials Streaming.paddedSetup p { client := .fresh [] } closedInVain = [0, 3, 6] := by
    decide +kernel
  obtain ⟨⟨s, es⟩, hrun, hshown⟩ := Option.map_eq_some_iff.mp hshown
  simp only [Prod.mk.injEq] at hshown
  obtain ⟨hphase, hconnected, hes⟩ := hshown
  rw [hrun, Option.map_some, Option.some.injEq] at hclosers
  exact ⟨s, es, hrun, hdials, hclosers, hes, hphase, hconnected⟩

end Switchboard.Watch
