-- SUMMARY: A watch follows the retry law, and all that the law allows can be heard.
import Switchboard.Proofs.Streaming.Teardown
import Switchboard.Proofs.Watch.Law
import Mathlib.Algebra.Group.Nat.Defs

/-!
# Watches follow the law

`Follows` says what holds of a watch wherever a run has taken it and whoever shares its
client. For the other direction a client is taken through whatever a watch may hear: a
dial can come out in any way, and so can the wait for the end of a connection. Hence
every course is the history of a run; `watch_follows_retry_law` says both.
-/

namespace Switchboard

namespace Streaming

/-! ## What a client can go through -/

variable {u : Setup} {s t v : State} {k : Nat} {a : Action} {es : List Event}

/-- Some run leads from one state to the other. -/
def Reaches (u : Setup) (s t : State) : Prop := ∃ as es, run u s as = some (t, es)

theorem Reaches.of_step (h : step u s a = some (t, es)) : Reaches u s t :=
  ⟨[a], es, Step.run_cons_eq_some_iff.mpr ⟨t, es, [], h, rfl, (List.append_nil es).symm⟩⟩

theorem Reaches.trans (h : Reaches u s t) (h' : Reaches u t v) : Reaches u s v := by
  obtain ⟨as, es, h⟩ := h
  obtain ⟨bs, fs, h'⟩ := h'
  exact ⟨as ++ bs, es ++ fs, Step.run_append_eq_some_iff.mpr ⟨t, es, fs, h, h', rfl⟩⟩

/-- Nobody dials, and there is nothing to use. -/
def State.Ready (s : State) : Prop := s.dialing = none ∧ s.usable? = none

/-- Nobody dials, and a connection is in the slot with which nothing has been done yet. -/
def State.Linked (s : State) : Prop := s.dialing = none ∧ ∃ k, s.slot = some k ∧ s.links[k]? = some {}

theorem usable?_eq (hslot : t.slot = s.slot) (hlinks : t.links = s.links) : t.usable? = s.usable? := by
  have hup : t.isUp = s.isUp := funext fun k => by rw [State.isUp, State.isUp, hlinks]
  rw [State.usable?, State.usable?, hslot, hup]

theorem outcome?_moveTo {i : Nat} {c : Caller} {o : Outcome} (hc : s.callers[i]? = some c) :
    (s.moveTo i (.finished o)).outcome? i = some o := by
  simp [State.outcome?, State.moveTo, hc]

theorem exists_dialed (u : Setup) (h : s.Ready) (e : Option ClientError) :
    ∃ t o, Reaches u (s.start u (.connect [])).1 t ∧
      t.outcome? s.callers.length = some o ∧ o.error? = e ∧ t.now = s.now ∧
      (e = none → t.Linked) ∧ (e ≠ none → t.Ready) := by
  obtain ⟨hfree, hvacant⟩ := h
  let i := s.callers.length
  let c : Caller := { request := .connect [] }
  have hc : (s.add c).callers[i]? = some c := by simp [State.add, i]
  have hmay : (mayConnect (s.add c) c && (s.add c).usable?.isNone) = true := by
    have hfree' : (s.add c).dialing = none := hfree
    have hvacant' : (s.add c).usable? = none := hvacant
    simp [mayConnect, hfree', hvacant', c, Request.needsLink]
  have hdial := Reaches.of_step (u := u) (s := s.add c) (a := .caller i .dial)
    (Option.bind_eq_some_iff.mpr ⟨c, hc, if_pos hmay⟩)
  obtain ⟨v, hdial, hv, hslot, hlinks, hnow⟩ : ∃ v, Reaches u (s.add c) v ∧
      v.callers[i]? = some { c with phase := .dialing (s.now + u.config.timeouts.connect) } ∧
      v.slot = s.slot ∧ v.links = s.links ∧ v.now = s.now :=
    ⟨_, hdial, by simp [State.moveTo, hc]; rfl, rfl, rfl, rfl⟩
  cases e with
  | none =>
    have hend := Reaches.of_step (u := u) (s := v) (a := .caller i .established)
      (Option.bind_eq_some_iff.mpr ⟨_, hv, rfl⟩)
    exact ⟨_, .done, hdial.trans hend, outcome?_moveTo hv, rfl, hnow,
      fun _ => ⟨rfl, v.links.length, rfl, by simp [State.moveTo]⟩, fun h => absurd rfl h⟩
  | some e =>
    have hend := Reaches.of_step (u := u) (s := v) (a := .caller i (.refused e))
      (Option.bind_eq_some_iff.mpr ⟨_, hv, rfl⟩)
    exact ⟨_, .failed e, hdial.trans hend, outcome?_moveTo hv, rfl, hnow,
      fun h => absurd h (Option.some_ne_none e), fun _ => ⟨rfl, (usable?_eq hslot hlinks).trans hvacant⟩⟩

/-- The end of a connection that somebody waits for: the client lets it go, or its transport fails. -/
theorem exists_ended (u : Setup) (hslot : s.slot = some k) (hl : s.links[k]? = some { claimed := true })
    (e : Option ClientError) :
    ∃ as t es, run u s as = some (t, es) ∧ t.callers = s.callers ∧ t.slot = some k ∧
      t.dialing = s.dialing ∧ t.now = s.now ∧ t.links[k]? =
        some { claimed := true, cancelled := true, sender := .ended, receiver := .ended e } := by
  cases e with
  | none =>
    refine ⟨[.discard, .link k .stop, .link k .cancel, .link k .clear, .link k .quit,
      .link k .joinSender, .link k .hangUp], ?_⟩
    simp [run, Step.run, step, stepLink, State.cancelSlot, State.cancelLink, State.updateLink, hl, hslot]
  | some e =>
    refine ⟨[.arrive k (.fault e), .link k .receive, .link k .cancel, .link k .clear, .link k .quit,
      .link k .joinSender, .link k .hangUp], ?_⟩
    simp [run, Step.run, step, stepLink, State.updateLink, hl, hslot]

theorem exists_waited (u : Setup) (h : s.Linked) (e : Option ClientError) :
    ∃ t o, Reaches u (s.start u .wait).1 t ∧ t.outcome? s.callers.length = some o ∧ o.error? = e ∧
      t.now = s.now ∧ t.Ready := by
  obtain ⟨hfree, k, hslot, hl⟩ := h
  let i := s.callers.length
  let c : Caller := { request := .wait }
  have hc : (s.add c).callers[i]? = some c := by simp [State.add, i]
  have hclaim : step u (s.add c) (.caller i .claim) = some
      (((s.add c).updateLink k fun l => { l with claimed := true }).moveTo i (.joining k), []) := by
    have hwaits : (c.phase = .waiting && (s.add c).dialing.isNone && c.request = .wait) = true := by
      simpa [c, State.add] using hfree
    have hopen : ((s.add c).slot.filter fun k => ((s.add c).links[k]?).any fun l => !l.claimed) =
        some k := by
      simp [State.add, hslot, hl]
    rw [step, hc, Option.bind_some, stepCaller, if_pos hwaits, hopen]
  obtain ⟨v, hclaim, hv, hslot, hfree, hnow, hl⟩ : ∃ v, Reaches u (s.add c) v ∧
      v.callers[i]? = some { c with phase := .joining k } ∧ v.slot = some k ∧ v.dialing = none ∧
      v.now = s.now ∧ v.links[k]? = some { claimed := true } :=
    ⟨_, .of_step hclaim, by simp [State.moveTo, State.updateLink, hc], hslot, hfree, rfl,
      by simp [State.moveTo, State.updateLink, State.add, hl]⟩
  obtain ⟨as, w, es, hend, hcallers, hslot, hfree', hnow', hl⟩ := exists_ended u hslot hl e
  rw [← hcallers] at hv
  rw [hfree] at hfree'
  have hvacant : w.usable? = none := by simp [State.usable?, State.isUp, hslot, hl]
  have ho : (Outcome.ofEnd e).error? = e := by cases e <;> rfl
  have hjoin : stepCaller u w i { c with phase := .joining k } .join = some (w.finish i (.ofEnd e)) := by
    simp only [stepCaller, hl]
    rfl
  have hjoin := Reaches.of_step (u := u) (s := w) (a := .caller i .join)
    (Option.bind_eq_some_iff.mpr ⟨_, hv, hjoin⟩)
  exact ⟨_, .ofEnd e, hclaim.trans (.trans ⟨as, es, hend⟩ hjoin), outcome?_moveTo hv, ho,
    hnow'.trans hnow, hfree', (usable?_eq rfl rfl).trans hvacant⟩

end Streaming

namespace Watch

/-! ## What a watch can hear -/

variable {u : Streaming.Setup} {p : RetryPolicy} {s t v : State} {client : Streaming.State}
  {hs hs' : List Heard} {h : Heard} {d : Due} {n : Nat} {a : Action} {es : List Streaming.Event}

/-- Some run leads from one state to the other, and this is what is heard meanwhile. -/
def Leads (u : Streaming.Setup) (p : RetryPolicy) (s : State) (hs : List Heard) (t : State) : Prop :=
  ∃ as es, run u p s as = some (t, es) ∧ heard u p s as = hs

theorem Leads.refl (s : State) : Leads u p s [] s := ⟨[], [], rfl, rfl⟩

theorem Leads.of_step (h : step u p s a = some (t, es)) : Leads u p s (hears s a) t :=
  ⟨[a], es, Step.run_cons_eq_some_iff.mpr ⟨t, es, [], h, rfl, (List.append_nil es).symm⟩,
    Step.history_singleton hears s a⟩

theorem Leads.trans (h : Leads u p s hs t) (h' : Leads u p t hs' v) : Leads u p s (hs ++ hs') v := by
  obtain ⟨as, es, hrun, rfl⟩ := h
  obtain ⟨bs, fs, hrun', rfl⟩ := h'
  exact ⟨as ++ bs, es ++ fs, Step.run_append_eq_some_iff.mpr ⟨t, es, fs, hrun, hrun', rfl⟩,
    Step.history_append hears hrun bs⟩

theorem Leads.of_reaches (h : Streaming.Reaches u s.client client) : Leads u p s [] { s with client } := by
  obtain ⟨as, es, h⟩ := h
  induction as generalizing s es with
  | nil =>
    cases h
    exact .refl s
  | cons a as ih =>
    obtain ⟨c, fs, gs, hstep, hrest, -⟩ := Step.run_cons_eq_some_iff.mp h
    have hfirst : Leads u p s [] { s with client := c } :=
      .of_step (a := .client a) (Option.map_eq_some_iff.mpr ⟨(c, fs), hstep, rfl⟩)
    exact hfirst.trans (ih (s := { s with client := c }) gs hrest)

/-- The watch has yet to begin with what it is time for. -/
def State.Rests (s : State) : Prop :=
  match s.phase with
  | .connecting _ | .pausing .. => s.client.Ready
  | .announcing | .waiting => s.client.Linked
  | .dialing .. | .listening _ => False
  | .ended _ => True

theorem rests_afterDial {o : Streaming.Outcome} (linked : o.error? = none → client.Linked)
    (ready : o.error? ≠ none → client.Ready) (n now chance : Nat) :
    State.Rests { client, phase := afterDial p n now chance o } := by
  cases o with
  | done | answered => exact linked rfl
  | failed e =>
    have hready : client.Ready := ready (by simp [Streaming.Outcome.error?])
    simp only [afterDial]
    split
    · exact hready
    · trivial

theorem rests_afterHook (linked : client.Linked) (o : Streaming.Outcome) :
    State.Rests { client, phase := afterHook o } := by
  cases o with
  | done | answered => exact linked
  | failed => trivial

theorem rests_afterWait (ready : client.Ready) (o : Streaming.Outcome) :
    State.Rests { client, phase := afterWait o } := by
  cases o with
  | done | answered => trivial
  | failed e =>
    cases e with
    | transportClosed => exact ready
    | _ => trivial

theorem Leads.of_quiet (hquiet : s.news? = none) (h : proceed u p 0 s = some (t, es)) :
    Leads u p s [] t :=
  hears_proceed_of_none hquiet ▸ .of_step (a := .proceed 0) h

theorem Leads.of_news {news : News} (hnews : s.news? = some news)
    (h : proceed u p 0 s = some (t, es)) : Leads u p s [⟨news, s.client.now⟩] t :=
  hears_proceed hnews ▸ .of_step (a := .proceed 0) h

/-- The watch asks its client for something, and hears how this comes out. -/
theorem Leads.of_request {client' : Streaming.State} {r : Streaming.Request} {phase phase' : Phase}
    {news : News} (hquiet : State.news? { client, phase } = none)
    (hstart : proceed u p 0 { client, phase } =
      some ({ client := (client.start u r).1, phase := phase' }, []))
    (hreach : Streaming.Reaches u (client.start u r).1 client')
    (hnews : State.news? { client := client', phase := phase' } = some news)
    (hend : proceed u p 0 { client := client', phase := phase' } = some (t, es)) :
    Leads u p { client, phase } [⟨news, client'.now⟩] t := by
  have hasks : Leads u p { client, phase } [] { client := (client.start u r).1, phase := phase' } :=
    .of_quiet hquiet hstart
  have hhears : Leads u p { client := client', phase := phase' } [⟨news, client'.now⟩] t :=
    .of_news hnews hend
  exact hasks.trans (.trans (.of_reaches hreach) hhears)

theorem exists_dialing (hready : client.Ready) (n : Nat) (e : Option ClientError) :
    ∃ t, Leads u p { client, phase := .connecting n } [⟨.dialed e, client.now⟩] t ∧ t.Rests ∧
      t.client.now = client.now := by
  obtain ⟨c, o, hreach, ho, rfl, hnow, linked, ready⟩ := Streaming.exists_dialed u hready e
  refine ⟨{ client := c, phase := afterDial p n c.now 0 o }, ?_,
    rests_afterDial linked ready n c.now 0, hnow⟩
  have hnews : State.news? { client := c, phase := .dialing n client.callers.length } =
      some (.dialed o.error?) :=
    Option.map_eq_some_iff.mpr ⟨o, ho, rfl⟩
  rw [← hnow]
  exact .of_request rfl rfl hreach hnews (Option.map_eq_some_iff.mpr ⟨o, ho, rfl⟩)

theorem exists_waiting (linked : client.Linked) (e : Option ClientError) :
    ∃ t, Leads u p { client, phase := .waiting } [⟨.waited e, client.now⟩] t ∧ t.Rests ∧
      t.client.now = client.now := by
  obtain ⟨c, o, hreach, ho, rfl, hnow, ready⟩ := Streaming.exists_waited u linked e
  refine ⟨{ client := c, phase := afterWait o }, ?_, rests_afterWait ready o, hnow⟩
  have hnews : State.news? { client := c, phase := .listening client.callers.length } =
      some (.waited o.error?) :=
    Option.map_eq_some_iff.mpr ⟨o, ho, rfl⟩
  rw [← hnow]
  exact .of_request rfl rfl hreach hnews (Option.map_eq_some_iff.mpr ⟨o, ho, rfl⟩)

/-- Whatever the law admits next can be heard next. -/
theorem exists_next (stands : Stands s.client n d s.phase) (rests : s.Rests) (admits : d.Admits h)
    (hnow : s.client.now = h.time) :
    ∃ t, Leads u p s [h] t ∧ t.Rests ∧ t.client.now = h.time := by
  obtain ⟨news, time⟩ := h
  obtain rfl : s.client.now = time := hnow
  obtain ⟨client, phase⟩ := s
  cases stands with
  | dialing | listening => exact rests.elim
  | ended => cases admits
  | connecting =>
    cases news with
    | dialed e => exact exists_dialing rests n e
    | announced | waited => exact admits.elim
  | pausing =>
    cases news with
    | dialed e =>
      obtain ⟨t, leads, hrests, hnow⟩ := exists_dialing (u := u) (p := p) rests n e
      have hdue : Leads u p { client, phase := .pausing n _ } [] { client, phase := .connecting n } :=
        .of_step (a := .proceed 0) (if_pos admits)
      exact ⟨t, hdue.trans leads, hrests, hnow⟩
    | announced | waited => exact admits.elim
  | announcing =>
    cases news with
    | announced e =>
      have hhook (o : Streaming.Outcome) : Leads u p { client, phase := .announcing }
          [⟨.announced o.error?, client.now⟩] { client, phase := afterHook o } :=
        .of_step (a := .hookEnded o) rfl
      cases e with
      | none => exact ⟨_, hhook .done, rests_afterHook rests .done, rfl⟩
      | some e => exact ⟨_, hhook (.failed e), rests_afterHook rests (.failed e), rfl⟩
    | dialed | waited => exact admits.elim
  | waiting =>
    cases news with
    | waited e => exact exists_waiting rests e
    | dialed | announced => exact admits.elim

theorem exists_later (s : State) (rests : s.Rests) {time : Nat} (hnow : s.client.now ≤ time) :
    ∃ t, Leads u p s [] t ∧ t.Rests ∧ t.client.now = time := by
  have hpass : Leads u p s [] { s with client := { s.client with now := time } } :=
    .of_reaches (.of_step (a := .pass (time - s.client.now))
      (by simp [Streaming.step, Nat.add_sub_cancel' hnow]; rfl))
  refine ⟨_, hpass, ?_, rfl⟩
  obtain ⟨client, phase⟩ := s
  cases phase <;> exact rests

/-- Every course can be heard. -/
theorem exists_leads (hjitter : p.jitter ≤ 0) (headers : Headers) (course : Course p hs) :
    ∃ s, Leads u p { client := .fresh headers } hs s ∧ s.Rests ∧
      (s.client.now = 0 ∨ ∃ h ∈ hs, s.client.now = h.time) := by
  induction course with
  | nil => exact ⟨_, .refl _, ⟨rfl, rfl⟩, .inl rfl⟩
  | @concat hs h _ admits order ih =>
    obtain ⟨s, leads, rests, hlast⟩ := ih
    have hnow : s.client.now ≤ h.time := by
      rcases hlast with hzero | ⟨h', hmem, hh'⟩
      · exact hzero ▸ Nat.zero_le _
      · exact hh' ▸ order h' hmem
    obtain ⟨v, later, rests, hnow⟩ := exists_later (u := u) (p := p) s rests hnow
    -- The run got so far is one of a watch that stands where the law has it, so what the law admits
    -- next is something that this watch can hear.
    have leads := leads.trans later
    rw [List.append_nil] at leads
    obtain ⟨as, es, hrun, hheard⟩ := leads
    have stands := (accounts_of_run hjitter hrun).stands
    rw [hheard] at stands
    obtain ⟨t, next, rests, hnow⟩ := exists_next (u := u) (p := p) stands rests admits hnow
    exact ⟨t, .trans ⟨as, es, hrun, hheard⟩ next, rests, .inr ⟨h, by simp, hnow⟩⟩

/-! ## The law -/

/-- What holds of a watch wherever it has got to, when this is what it has heard. -/
structure Follows (u : Streaming.Setup) (p : RetryPolicy) (s : State) (hs : List Heard) : Prop where
  /-- All that it has heard was news of what it was time for, in time. -/
  course : Course p hs
  past : ∀ h ∈ hs, h.time ≤ s.client.now
  /-- It stands where the law has it, and has counted the refusals in a row. -/
  stands : Stands s.client (refusals hs) (due p hs) s.phase
  /-- It has returned just when what it has heard last says so, and returns what this says. -/
  returned : ∀ o, s.phase = .ended o ↔ due p hs = .finished o
  /-- Nothing that it has heard before said so. -/
  first : ∀ hs', hs' <+: hs → hs' ≠ hs → ∀ o, due p hs' ≠ .finished o
  /-- The refusals in a row have never become more than it takes to give up, and so the counter of
  32 bits holds them. -/
  counted : refusals hs ≤ max 1 p.maxAttempts ∧ (p.maxAttempts < 2 ^ 32 → refusals hs < 2 ^ 32)
  /-- It can do nothing before a dial is due. From then on it dials, or gets there by steps of its own
  and need not wait for anything. -/
  dials : ∀ notBefore chance, due p hs = .dial notBefore →
    (s.client.now < notBefore ∧ step u p s (.proceed chance) = none) ∨
    (notBefore ≤ s.client.now ∧ ((∃ i, s.phase = .dialing (refusals hs) i) ∨
      ∃ k, run u p s (List.replicate k (.proceed chance)) =
        some ({ client := (s.client.start u (.connect [])).1,
                phase := .dialing (refusals hs) s.client.callers.length }, [])))
  /-- How its dial or its wait has come out it can hear at once. -/
  hears : ∀ news chance, s.news? = some news →
    ∃ t, step u p s (.proceed chance) = some (t, []) ∧
      hears s (.proceed chance) = [⟨news, s.client.now⟩]

theorem Stands.finished_iff {phase : Phase} (h : Stands client n d phase) (o : Streaming.Outcome) :
    phase = .ended o ↔ d = .finished o := by
  cases h <;> simp

theorem Stands.dials {notBefore : Nat} (h : Stands s.client n (.dial notBefore) s.phase) (chance : Nat) :
    (s.client.now < notBefore ∧ step u p s (.proceed chance) = none) ∨
    (notBefore ≤ s.client.now ∧ ((∃ i, s.phase = .dialing n i) ∨
      ∃ k, run u p s (List.replicate k (.proceed chance)) =
        some ({ client := (s.client.start u (.connect [])).1,
                phase := .dialing n s.client.callers.length }, []))) := by
  obtain ⟨client, phase⟩ := s
  cases h with
  | connecting hdue => exact .inr ⟨hdue, .inr ⟨1, rfl⟩⟩
  | @dialing _ i hdue => exact .inr ⟨hdue, .inl ⟨i, rfl⟩⟩
  | pausing =>
    rcases Nat.lt_or_ge client.now notBefore with hearly | hdue
    · exact .inl ⟨hearly, if_neg (Nat.not_le_of_lt hearly)⟩
    · refine .inr ⟨hdue, .inr ⟨2, ?_⟩⟩
      have hpause : step u p { client, phase := .pausing n notBefore } (.proceed chance) =
          some ({ client, phase := .connecting n }, []) := if_pos hdue
      exact Step.run_cons_eq_some_iff.mpr ⟨_, _, _, hpause, rfl, rfl⟩

theorem exists_proceed {news : News} (h : s.news? = some news) (chance : Nat) :
    ∃ t, step u p s (.proceed chance) = some (t, []) := by
  obtain ⟨client, phase⟩ := s
  cases phase with
  | dialing | listening =>
    obtain ⟨o, ho, -⟩ := Option.map_eq_some_iff.mp h
    exact ⟨_, Option.map_eq_some_iff.mpr ⟨o, ho, rfl⟩⟩
  | connecting | announcing | waiting | pausing | ended => cases h

theorem Accounts.follows (h : Accounts p s hs) : Follows u p s hs where
  course := h.course
  past := h.past
  stands := h.stands
  returned := h.stands.finished_iff
  first _ := h.course.first
  counted := ⟨h.course.refusals_le, fun hmax =>
    Nat.lt_of_le_of_lt h.course.refusals_le (Nat.max_lt.mpr ⟨by decide, hmax⟩)⟩
  dials _ chance hdue := (hdue ▸ h.stands).dials chance
  hears _ chance hnews :=
    (exists_proceed hnews chance).imp fun _ hstep => ⟨hstep, hears_proceed hnews⟩

/-- A peer accepts, and ends the stream. -/
def closure (time : Nat) : List Heard :=
  [⟨.dialed none, time⟩, ⟨.announced none, time⟩, ⟨.waited (some .transportClosed), time⟩]

section
variable {time notBefore : Nat} (past : ∀ h ∈ hs, h.time ≤ time)
include past

theorem Course.closure (h : Course p hs) (hdue : due p hs = .dial notBefore) (hnow : notBefore ≤ time) :
    Course p (hs ++ closure time) ∧ due p (hs ++ closure time) = .dial time := by
  have split : hs ++ Watch.closure time = hs ++ [⟨.dialed none, time⟩] ++ [⟨.announced none, time⟩] ++
      [⟨.waited (some .transportClosed), time⟩] := by
    simp [Watch.closure]
  have late {hs : List Heard} (past : ∀ h ∈ hs, h.time ≤ time) (news : News) :
      ∀ h ∈ hs ++ [⟨news, time⟩], h.time ≤ time := by
    simpa [or_imp, forall_and] using past
  rw [split, due_concat]
  refine ⟨.concat (.concat (.concat h ?_ past) ?_ (late past _)) ?_ (late (late past _) _), rfl⟩
  · rw [hdue]
    exact hnow
  · rw [due_concat]
    trivial
  · rw [due_concat]
    trivial

/-- Any number of connections can be accepted and closed, one after the other. -/
theorem Course.closures (h : Course p hs) (hdue : due p hs = .dial notBefore) (hnow : notBefore ≤ time)
    (n : Nat) : Course p (hs ++ (List.replicate n (Watch.closure time)).flatten) := by
  induction n generalizing hs notBefore with
  | zero => simpa using h
  | succ n ih =>
    obtain ⟨h, hdue⟩ := h.closure past hdue hnow
    rw [List.replicate_succ, List.flatten_cons, ← List.append_assoc]
    refine ih (fun h' hmem => ?_) h hdue (Nat.le_refl time)
    rcases List.mem_append.mp hmem with hmem | hmem
    · exact past h' hmem
    · simp only [Watch.closure, List.mem_cons, List.not_mem_nil, or_false] at hmem
      rcases hmem with rfl | rfl | rfl <;> exact Nat.le_refl time

end

/-- Without jitter, and whoever shares the client with it, a watch follows the law: it returns at the
first of what makes it return, and returns exactly this; it dials at once when its stream has been
ended, and after a refusal when the delay for so many refusals in a row has passed. And all that the
law allows can be heard, any number of connections that are accepted and closed included. The delays
are those of the policy, whose times are whole milliseconds, and so is the time that passes; the law
asks nothing else of them. -/
theorem watch_follows_retry_law (u : Streaming.Setup) (hjitter : p.jitter ≤ 0) :
    (∀ client as s es, run u p { client } as = some (s, es) →
      Follows u p s (heard u p { client } as)) ∧
    (∀ headers hs, Course p hs → ∃ as s es, run u p { client := .fresh headers } as = some (s, es) ∧
      heard u p { client := .fresh headers } as = hs) ∧
    ∀ hs notBefore time n, Course p hs → due p hs = .dial notBefore → notBefore ≤ time →
      (∀ h ∈ hs, h.time ≤ time) → Course p (hs ++ (List.replicate n (closure time)).flatten) := by
  refine ⟨fun client as s es hrun => (accounts_of_run hjitter hrun).follows, fun headers hs course => ?_,
    fun hs notBefore time n course hdue hnow past => course.closures past hdue hnow n⟩
  obtain ⟨s, ⟨as, es, hrun, hheard⟩, -⟩ := exists_leads (u := u) hjitter headers course
  exact ⟨as, s, es, hrun, hheard⟩

/-- A dial is refused, the next one is accepted, the peer ends that stream, and two more dials are
refused. -/
def refusedAgain : List Action :=
  [.proceed 0, .client (.caller 0 .dial), .client (.caller 0 (.refused (.connectFailed "busy"))),
    .proceed 7, .client (.pass 100), .proceed 0, .proceed 0, .client (.caller 1 .dial),
    .client (.caller 1 .established), .proceed 0, .hookEnded .done, .proceed 0,
    .client (.caller 2 .claim), .client (.arrive 0 (.fault .transportClosed)), .client (.link 0 .receive),
    .client (.link 0 .cancel), .client (.link 0 .clear), .client (.link 0 .quit),
    .client (.link 0 .joinSender), .client (.link 0 .hangUp), .client (.caller 2 .join), .proceed 0,
    .proceed 0, .client (.caller 3 .dial), .client (.caller 3 (.refused (.connectFailed "busy"))),
    .proceed 9, .client (.pass 100), .proceed 0, .proceed 0, .client (.caller 4 .dial),
    .client (.caller 4 (.refused (.connectFailed "gone"))), .proceed 0]

theorem watch_follows_retry_law_refusedAgain :
    let p : RetryPolicy := { maxAttempts := 2, initialDelay := 100, jitter := 0 }
    ∃ s es, run Streaming.paddedSetup p { client := .fresh [] } refusedAgain = some (s, es) ∧
      heard Streaming.paddedSetup p { client := .fresh [] } refusedAgain =
        [⟨.dialed (some (.connectFailed "busy")), 0⟩, ⟨.dialed none, 100⟩, ⟨.announced none, 100⟩,
          ⟨.waited (some .transportClosed), 100⟩, ⟨.dialed (some (.connectFailed "busy")), 100⟩,
          ⟨.dialed (some (.connectFailed "gone")), 200⟩] ∧
      s.phase = .ended (.failed (.connectFailed "gone")) ∧
      Follows Streaming.paddedSetup p s
        (heard Streaming.paddedSetup p { client := .fresh [] } refusedAgain) := by
  intro p
  have hjitter : p.jitter ≤ 0 := by decide +kernel
  have hshown : (run Streaming.paddedSetup p { client := .fresh [] } refusedAgain).map (fun (s, _) =>
      (s.phase, heard Streaming.paddedSetup p { client := .fresh [] } refusedAgain)) = some
      (.ended (.failed (.connectFailed "gone")),
        [⟨.dialed (some (.connectFailed "busy")), 0⟩, ⟨.dialed none, 100⟩, ⟨.announced none, 100⟩,
          ⟨.waited (some .transportClosed), 100⟩, ⟨.dialed (some (.connectFailed "busy")), 100⟩,
          ⟨.dialed (some (.connectFailed "gone")), 200⟩]) := by
    decide +kernel
  obtain ⟨⟨s, es⟩, hrun, hshown⟩ := Option.map_eq_some_iff.mp hshown
  simp only [Prod.mk.injEq] at hshown
  exact ⟨s, es, hrun, hshown.2, hshown.1,
    (watch_follows_retry_law Streaming.paddedSetup hjitter).1 _ _ s es hrun⟩

end Watch

end Switchboard
