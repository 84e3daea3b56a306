-- SUMMARY: A streaming client has at most one live connection, and it is in the slot.
import Switchboard.Proofs.Streaming.Teardown

/-!
# The slot

That a connection is live is on record in three places: in the slot, in what the client
tells of itself, and on the connection. Callers change it, the halves of every connection
that there was, and callers that are dropped while they dial and hold the slot.
`SlotStep` lists what a step can do to the three, and to who dials: a step leaves the slot
as it is and lets connections only go down, unless it begins a dial or ends one.
`OneLive` is what each such step keeps, and `one_live_connection` what it says of runs.
-/

namespace Switchboard.Streaming

/-! ## Callers that are dropped -/

/-- What goes on at a client: a step of one of its parts, or a caller is dropped by those who wait
for it. -/
inductive Happening where
  | act (a : Action)
  | drop (caller : Nat)
deriving DecidableEq, Repr

/-- The caller is gone, and with it its hold on the slot. -/
def State.dropCaller (i : Nat) (s : State) : State :=
  { s with dialing := s.dialing.filter (· ≠ i) }.moveTo i (.finished (.failed .cancelled))

/-- A caller can be dropped wherever it waits, until it has come out. -/
def happen (u : Setup) (s : State) : Happening → Option (State × List Event)
  | .act a => step u s a
  | .drop i => if (s.outcome? i).isSome then none else some (s.dropCaller i, [])

/-- Runs without dropped callers are among those with them. -/
theorem run_act (u : Setup) (s : State) (as : List Action) :
    Step.run (happen u) s (as.map .act) = run u s as := by
  induction as generalizing s with
  | nil => rfl
  | cons a as ih =>
    simp only [List.map_cons, Step.run, happen]
    cases step u s a with
    | none => rfl
    | some r => simp only [ih]

/-! ## Who dials -/

def Phase.isDialing : Phase → Bool
  | .dialing _ => true
  | _ => false

/-- The caller dials. -/
def State.dials (s : State) (i : Nat) : Bool := (s.callers[i]?).any fun c => c.phase.isDialing

variable {u : Setup} {s t v : State} {i j k : Nat} {c : Caller} {l : Link} {p : Phase}
  {es : List Event}

theorem dials_of_getElem? (hc : s.callers[i]? = some c) : s.dials i = c.phase.isDialing := by
  rw [State.dials, hc, Option.any_some]

theorem dials_of_callers (h : t.callers = s.callers) (j : Nat) : t.dials j = s.dials j := by
  rw [State.dials, State.dials, h]

theorem dials_moveTo (hc : s.callers[i]? = some c) (j : Nat) :
    (s.moveTo i p).dials j = if j = i then p.isDialing else s.dials j := by
  simp only [State.dials, State.moveTo, List.getElem?_modify]
  by_cases hj : i = j
  · subst hj
    simp [hc]
  · simp [hj, Ne.symm hj]

theorem dials_add (r : Request) (j : Nat) : (s.add { request := r }).dials j = s.dials j := by
  have hnone : s.callers.length ≤ j → s.dials j = false := fun h => by
    rw [State.dials, List.getElem?_eq_none h]
    rfl
  simp only [State.dials, State.add, List.getElem?_append, List.getElem?_singleton]
  split
  · rfl
  · next hlt =>
    rw [State.dials] at hnone
    rw [hnone (Nat.le_of_not_lt hlt)]
    split <;> rfl

/-! ## Steps that leave the slot alone -/

/-- The slot is left as it is, no connection comes up, and the same callers dial. -/
structure Keeps (s t : State) : Prop where
  slot : t.slot = s.slot
  live : t.live = s.live
  dialing : t.dialing = s.dialing
  up : ∀ k, t.isUp k = true → s.isUp k = true
  dials : ∀ i, t.dials i = s.dials i

theorem Keeps.trans (h : Keeps s t) (h' : Keeps t v) : Keeps s v where
  slot := h'.slot.trans h.slot
  live := h'.live.trans h.live
  dialing := h'.dialing.trans h.dialing
  up k hk := h.up k (h'.up k hk)
  dials i := (h'.dials i).trans (h.dials i)

theorem isUp_of_links (h : t.links = s.links) (k : Nat) : t.isUp k = s.isUp k := by
  rw [State.isUp, State.isUp, h]

/-- No connection comes up where none is new. -/
theorem isUp_of_ages (ages : s.Ages t) (length : t.links.length = s.links.length) (k : Nat)
    (h : t.isUp k = true) : s.isUp k = true :=
  ages.isUp (length ▸ lt_length_of_isUp h) h

theorem length_cancelSlot (s : State) : s.cancelSlot.links.length = s.links.length := by
  unfold State.cancelSlot
  split
  · exact List.length_modify ..
  · rfl

theorem keeps_cancelSlot (s : State) : Keeps s s.cancelSlot where
  slot := by rw [cancelSlot_eq]
  live := by rw [cancelSlot_eq]
  dialing := by rw [cancelSlot_eq]
  up := isUp_of_ages (ages_cancelSlot s) (length_cancelSlot s)
  dials := dials_of_callers (callers_cancelSlot s)

theorem keeps_moveTo (hc : s.callers[i]? = some c) (hq : c.phase.isDialing = false)
    (hp : p.isDialing = false) : Keeps s (s.moveTo i p) where
  slot := rfl
  live := rfl
  dialing := rfl
  up _ := id
  dials j := by
    rw [dials_moveTo hc]
    split
    · next hj => rw [hp, hj, dials_of_getElem? hc, hq]
    · rfl

/-- A caller that does not dial moves on, after a step that left the slot alone and moved no
caller. -/
theorem Keeps.moveTo (h : Keeps s t) (callers : t.callers = s.callers)
    (hc : s.callers[i]? = some c) (hq : c.phase.isDialing = false) (hp : p.isDialing = false) :
    Keeps s (t.moveTo i p) :=
  h.trans (keeps_moveTo (callers ▸ hc) hq hp)

theorem keeps_deliver (s : State) (m : Message) :
    Keeps s (s.deliver m).1 ∧ ∀ headers, .dialed headers ∉ (s.deliver m).2 := by
  have same {s' : State} (h : s'.slot = s.slot ∧ s'.live = s.live ∧ s'.dialing = s.dialing ∧
      s'.links = s.links ∧ s'.callers = s.callers) : Keeps s s' :=
    ⟨h.1, h.2.1, h.2.2.1, fun k hk => isUp_of_links h.2.2.2.1 k ▸ hk, dials_of_callers h.2.2.2.2⟩
  have quiet (s' : State) (m : Message) : ∀ headers, Event.dialed headers ∉ s'.callBack m := by
    intro headers hmem
    simp only [State.callBack, Option.mem_toList, Option.map_eq_some_iff] at hmem
    obtain ⟨_, -, hmem⟩ := hmem
    cases hmem
  unfold State.deliver
  split
  · exact ⟨same ⟨rfl, rfl, rfl, rfl, rfl⟩, quiet _ _⟩
  · next key i _ =>
    dsimp only
    split
    · exact ⟨same ⟨rfl, rfl, rfl, rfl, rfl⟩, quiet _ _⟩
    · next c hc =>
      have hrest : Keeps s { s with pending := s.pending.erase key } := same ⟨rfl, rfl, rfl, rfl, rfl⟩
      split
      · next x hp => exact ⟨hrest.moveTo rfl hc (by rw [hp]; rfl) rfl, by simp⟩
      · next x hp => exact ⟨hrest.moveTo rfl hc (by rw [hp]; rfl) rfl, by simp⟩
      · exact ⟨hrest, quiet _ _⟩

/-! ## Steps -/

/-- What a step can do to the slot and to who dials. -/
inductive SlotStep (s t : State) (a : Happening) : List Event → Prop
  | keep {fs} (keeps : Keeps s t) (quiet : ∀ headers, .dialed headers ∉ fs) : SlotStep s t a fs
  /-- The slot is free, and there is no live connection in it. -/
  | dial {i headers} (free : s.dialing = none) (vacant : s.usable? = none) (slot : t.slot = s.slot)
      (live : t.live = s.live) (pending : t.pending = s.pending) (dialing : t.dialing = some i)
      (links : t.links = s.links) (dials : ∀ j, t.dials j = if j = i then true else s.dials j)
      (action : a = .act (.caller i .dial)) : SlotStep s t a [.dialed headers]
  /-- The dial has succeeded: there is a new connection, and it is in the slot. -/
  | establish {i fs} (dialer : s.dials i = true) (action : a = .act (.caller i .established))
      (slot : t.slot = some s.links.length) (live : t.live = some s.links.length)
      (dialing : t.dialing = none) (links : t.links = s.links ++ [({} : Link)])
      (dials : ∀ j, t.dials j = if j = i then false else s.dials j)
      (quiet : ∀ headers, .dialed headers ∉ fs) : SlotStep s t a fs
  /-- The dial has failed, or its caller is gone. -/
  | release {i fs} (dialer : s.dials i = true) (slot : t.slot = s.slot) (live : t.live = s.live)
      (dialing : t.dialing = none) (links : t.links = s.links)
      (dials : ∀ j, t.dials j = if j = i then false else s.dials j)
      (quiet : ∀ headers, .dialed headers ∉ fs) : SlotStep s t a fs

theorem dialed_notMem_shown {headers : Headers} : .dialed headers ∉ p.shown i := by
  cases p with
  | finished o => simp [Phase.shown]
  | _ => exact List.not_mem_nil

theorem isDialing_onward (link : Nat) (r : Request) : (r.onward link).isDialing = false := by
  cases r <;> rfl

/-- What ends a dial, short of a connection, changes neither the slot nor anything that is about
connections and calls. -/
theorem release_of_dialing {a : CallerAction} {deadline : Nat} (hp : c.phase = .dialing deadline)
    (ha : a ≠ .established) (h : Taken u s i c a t es) :
    ∃ e, t = { s with dialing := none }.moveTo i (.finished (.failed e)) ∧
      es = [.finished i (.failed e)] := by
  obtain ⟨v, p, fs, h, rfl, rfl⟩ := h
  have other {q : Phase} (phase : c.phase = q) (hq : q.isDialing = false) : False := by
    rw [← phase, hp] at hq
    cases hq
  cases h with
  | refused | lapse => exact ⟨_, rfl, rfl⟩
  | established => exact absurd rfl ha
  | reuse may | dial may | noTransport may => exact (other (mayConnect_cases may).1 rfl).elim
  | fail _ phase => rcases phase with phase | ⟨phase, -⟩ <;> exact (other phase rfl).elim
  | register phase | queue phase | send phase | unsent _ phase | answer phase | withdraw phase
  | claim phase | vacant phase | join phase | shut phase => exact (other phase rfl).elim

theorem slotStep_of_taken {a : CallerAction} (hc : s.callers[i]? = some c)
    (h : Taken u s i c a t es) : SlotStep s t (.act (.caller i a)) es := by
  have ages := ages_of_touches h.touches
  obtain ⟨v, p, fs, h, rfl, rfl⟩ := h
  have callers := h.callers
  have quiet (silent : ∀ headers, .dialed headers ∉ fs) (headers : Headers) :
      .dialed headers ∉ fs ++ p.shown i := fun hmem =>
    (List.mem_append.mp hmem).elim (silent headers) dialed_notMem_shown
  have dials (j : Nat) : (v.moveTo i p).dials j = if j = i then p.isDialing else s.dials j := by
    rw [dials_moveTo (callers ▸ hc), dials_of_callers callers]
  -- Whoever does not dial, and does not begin to, leaves the slot as it is.
  have keep {q : Phase} (phase : c.phase = q) (hq : q.isDialing = false) (hp : p.isDialing = false)
      (length : v.links.length = s.links.length) (silent : ∀ headers, .dialed headers ∉ fs)
      (slot : (v.slot, v.live, v.dialing) = (s.slot, s.live, s.dialing)) :
      SlotStep s (v.moveTo i p) (.act (.caller i a)) (fs ++ p.shown i) := by
    simp only [Prod.mk.injEq] at slot
    have keeps : Keeps s v := ⟨slot.1, slot.2.1, slot.2.2,
      isUp_of_ages (ages.trans (ages_of_links rfl)) length, dials_of_callers callers⟩
    exact .keep (keeps.moveTo callers hc (phase ▸ hq) hp) (quiet silent)
  cases h with
  | dial may vacant =>
    have free : s.dialing = none := by
      simp only [mayConnect, Bool.and_eq_true, Option.isNone_iff_eq_none] at may
      exact may.1.2
    exact .dial (i := i) free vacant rfl rfl rfl rfl rfl dials rfl
  | established phase =>
    have dialer : s.dials i = true := by rw [dials_of_getElem? hc, phase]; rfl
    exact .establish dialer rfl rfl rfl rfl rfl (isDialing_onward _ c.request ▸ dials) (quiet (by simp))
  | refused phase | lapse phase =>
    have dialer : s.dials i = true := by rw [dials_of_getElem? hc, phase]; rfl
    exact .release dialer rfl rfl rfl rfl dials (quiet (by simp))
  | reuse may => exact keep (mayConnect_cases may).1 rfl (isDialing_onward _ _) rfl (by simp) rfl
  | noTransport may => exact keep (mayConnect_cases may).1 rfl rfl rfl (by simp) rfl
  | fail _ phase => rcases phase with phase | ⟨phase, -⟩ <;> exact keep phase rfl rfl rfl (by simp) rfl
  | register phase | unsent _ phase | answer phase | withdraw phase | vacant phase | join phase =>
    exact keep phase rfl rfl rfl (by simp) rfl
  | queue phase | send phase | claim phase =>
    exact keep phase rfl rfl (List.length_modify ..) (by simp) rfl
  | shut phase => exact keep phase rfl rfl (length_cancelSlot s) (by simp) (by rw [cancelSlot_eq])

theorem slotStep_of_linkStep {a : LinkAction} (hl : s.links[k]? = some l) (h : LinkStep s k l a t es) :
    SlotStep s t (.act (.link k a)) es := by
  have up : ∀ j, t.isUp j = true → s.isUp j = true := by
    obtain ⟨f, hlinks, -⟩ := h.links
    exact isUp_of_ages (ages_of_linkStep hl h) (by rw [hlinks]; exact List.length_modify ..)
  cases h with
  | sends _ half => exact .keep ⟨rfl, rfl, rfl, up, fun _ => rfl⟩ (by cases half <;> simp)
  | receives _ half => exact .keep ⟨rfl, rfl, rfl, up, fun _ => rfl⟩ (by cases half <;> simp)
  | clears => exact .keep ⟨rfl, rfl, rfl, up, fun _ => rfl⟩ (by simp)
  | @delivers _ _ _ f _ m _ _ _ delivered =>
    obtain ⟨keeps, quiet⟩ := keeps_deliver (s.updateLink k f) m
    rw [delivered] at keeps quiet
    exact .keep ⟨keeps.slot, keeps.live, keeps.dialing, up, keeps.dials⟩ quiet

theorem slotStep_of_step {a : Action} (h : step u s a = some (t, es)) :
    SlotStep s t (.act a) es := by
  cases a with
  | caller i a =>
    obtain ⟨c, hc, taken⟩ := taken_of_step h
    exact slotStep_of_taken hc taken
  | link k a =>
    obtain ⟨l, hl, h⟩ := linkStep_of_step h
    exact slotStep_of_linkStep hl h
  | start r =>
    have added (r : Request) (d : Nat) : Keeps s ({ s with drawn := d }.add { request := r }) :=
      ⟨rfl, rfl, rfl, fun _ => id, dials_add r⟩
    have hstart : s.start u r = (t, es) := Option.some.inj h
    cases r with
    | call m headers =>
      simp only [State.start] at hstart
      split at hstart
      · cases hstart
        have hc : (s.add { request := .call m headers }).callers[s.callers.length]? =
            some { request := .call m headers } := List.getElem?_concat_length
        exact .keep ((added _ s.drawn).trans (keeps_moveTo hc rfl rfl)) (by simp)
      · split at hstart
        · cases hstart
          exact .keep (added _ _) (by simp)
        · cases hstart
          exact .keep (added _ s.drawn) (by simp)
    | connect _ | send _ | wait | close =>
      cases hstart
      exact .keep (added _ s.drawn) (by simp)
  | cancel i =>
    cases h
    refine .keep ⟨rfl, rfl, rfl, fun _ => id, fun j => ?_⟩ (by simp)
    simp only [State.dials, List.getElem?_modify]
    split <;> cases s.callers[j]? <;> rfl
  | arrive k r =>
    have up := isUp_of_ages (ages_of_step h)
    cases h
    exact .keep ⟨rfl, rfl, rfl, up (List.length_modify ..), fun _ => rfl⟩ (by simp)
  | discard =>
    cases h
    exact .keep (keeps_cancelSlot s) (by simp)
  | setHeaders _ | setCallback _ | pass _ =>
    cases h
    exact .keep ⟨rfl, rfl, rfl, fun _ => id, fun _ => rfl⟩ (by simp)

theorem slotStep_of_drop (holder : ∀ i, s.dials i = true ↔ s.dialing = some i) :
    SlotStep s (s.dropCaller i) (.drop i) [] := by
  have quiet : ∀ headers, Event.dialed headers ∉ ([] : List Event) := by simp
  cases hd : s.dials i with
  | true =>
    have hdialing := (holder i).mp hd
    refine .release hd rfl rfl (by simp [State.dropCaller, State.moveTo, hdialing]) rfl (fun j => ?_) quiet
    cases hc : s.callers[i]? with
    | none => simp [State.dials, hc] at hd
    | some c =>
      have hc' : ({ s with dialing := s.dialing.filter (· ≠ i) } : State).callers[i]? = some c := hc
      exact dials_moveTo hc' j
  | false =>
    have hdialing : s.dialing.filter (· ≠ i) = s.dialing := by
      cases hj : s.dialing with
      | none => rfl
      | some j =>
        rw [Option.filter_some, if_pos]
        rw [decide_eq_true_eq]
        rintro rfl
        rw [(holder j).mpr hj] at hd
        cases hd
    refine .keep ⟨rfl, rfl, hdialing, fun _ => id, fun j => ?_⟩ quiet
    cases hc : s.callers[i]? with
    | none =>
      have hlength := List.getElem?_eq_none_iff.mp hc
      rw [State.dials, State.dials, State.dropCaller, State.moveTo, List.modify_eq_self hlength]
    | some c =>
      have hc' : ({ s with dialing := s.dialing.filter (· ≠ i) } : State).callers[i]? = some c := hc
      exact (keeps_moveTo hc' (by rw [← dials_of_getElem? hc, hd]) rfl).dials j

/-! ## At most one connection -/

/-- A connection that is up is the one in the slot, the client tells of the slot, and while somebody
dials, which is one caller at most, no connection is up. -/
structure OneLive (s : State) : Prop where
  sole : ∀ k, s.isUp k = true → s.slot = some k
  told : s.live = s.slot
  holder : ∀ i, s.dials i = true ↔ s.dialing = some i
  vacant : s.dialing ≠ none → ∀ k, s.isUp k = false

theorem OneLive.fresh (headers : Headers) : OneLive (State.fresh headers) where
  sole k h := by simp [State.fresh, State.isUp] at h
  told := rfl
  holder i := by simp [State.fresh, State.dials]
  vacant h := absurd rfl h

/-- What is up can be used, as it is in the slot. -/
theorem OneLive.usable?_eq (h : OneLive s) (hup : s.isUp k = true) : s.usable? = some k := by
  rw [State.usable?, h.sole k hup, Option.filter_some, if_pos hup]

theorem OneLive.isUp_eq_false (h : OneLive s) (vacant : s.usable? = none) (k : Nat) :
    s.isUp k = false := by
  refine Bool.eq_false_iff.mpr fun hk => ?_
  rw [h.usable?_eq hk] at vacant
  cases vacant

theorem OneLive.dials_eq_false (h : OneLive s) (free : s.dialing = none) (i : Nat) :
    s.dials i = false :=
  Bool.eq_false_iff.mpr fun hi => by cases free.symm.trans ((h.holder i).mp hi)

/-- When the one that dials has come out, nobody dials. -/
theorem OneLive.holder_of_released (h : OneLive s) (dialer : s.dials i = true)
    (dialing : t.dialing = none) (dials : ∀ j, t.dials j = if j = i then false else s.dials j)
    (j : Nat) : t.dials j = true ↔ t.dialing = some j := by
  rw [dials, dialing]
  by_cases hj : j = i
  · simp [hj]
  · rw [if_neg hj, h.holder, (h.holder i).mp dialer]
    simp [Ne.symm hj]

theorem isUp_append {t : State} (h : t.links = s.links ++ [({} : Link)]) (k : Nat) :
    t.isUp k = if k = s.links.length then true else s.isUp k := by
  simp only [State.isUp, h, List.getElem?_append, List.getElem?_singleton]
  by_cases hlt : k < s.links.length
  · simp [hlt, Nat.ne_of_lt hlt]
  · rw [List.getElem?_eq_none (Nat.le_of_not_lt hlt), if_neg hlt]
    by_cases hk : k = s.links.length
    · simp [hk]
    · rw [if_neg hk, if_neg (by omega)]

theorem OneLive.step {a : Happening} (h : OneLive s) (hstep : SlotStep s t a es) : OneLive t := by
  cases hstep with
  | keep keeps =>
    refine ⟨fun k hk => ?_, ?_, fun i => ?_, fun hd k => ?_⟩
    · rw [keeps.slot, h.sole k (keeps.up k hk)]
    · rw [keeps.live, keeps.slot, h.told]
    · rw [keeps.dials, keeps.dialing, h.holder]
    · have hdown := h.vacant (keeps.dialing ▸ hd) k
      exact Bool.eq_false_iff.mpr fun hk => Bool.eq_false_iff.mp hdown (keeps.up k hk)
  | @dial i _ free vacant slot live _ dialing links dials =>
    have hdown := h.isUp_eq_false vacant
    have hnobody := h.dials_eq_false free
    refine ⟨fun k hk => ?_, ?_, fun j => ?_, fun _ k => ?_⟩
    · rw [isUp_of_links links, hdown] at hk
      cases hk
    · rw [live, slot, h.told]
    · rw [dials, dialing, hnobody]
      by_cases hj : j = i
      · simp [hj]
      · simp [hj, Ne.symm hj]
    · rw [isUp_of_links links, hdown]
  | @establish i _ dialer _ slot live dialing links dials =>
    have hholder := (h.holder i).mp dialer
    have hdown := h.vacant (by rw [hholder]; simp)
    refine ⟨fun k hk => ?_, live.trans slot.symm, h.holder_of_released dialer dialing dials,
      fun hd => absurd dialing hd⟩
    rw [isUp_append links, hdown] at hk
    split at hk
    · next hlength => rw [slot, hlength]
    · cases hk
  | @release i _ dialer slot live dialing links dials =>
    refine ⟨fun k hk => ?_, ?_, h.holder_of_released dialer dialing dials,
      fun hd => absurd dialing hd⟩
    · rw [slot, h.sole k (isUp_of_links links k ▸ hk)]
    · rw [live, slot, h.told]

theorem OneLive.slotStep {a : Happening} (h : OneLive s) (hstep : happen u s a = some (t, es)) :
    SlotStep s t a es := by
  cases a with
  | act a => exact slotStep_of_step hstep
  | drop i =>
    simp only [happen] at hstep
    split at hstep
    · cases hstep
    · cases hstep
      exact slotStep_of_drop h.holder

theorem oneLive_of_run {headers : Headers} {as : List Happening}
    (h : Step.run (happen u) (State.fresh headers) as = some (t, es)) : OneLive t :=
  Step.run_keeps (OneLive.fresh headers) (fun h hstep => h.step (h.slotStep hstep)) h

theorem waiting_of_dial (h : step u s (.caller i .dial) = some (t, es)) :
    ∃ r, s.seat? i = some (r, .waiting) ∧ r.needsLink = true := by
  obtain ⟨c, hc, h⟩ := Option.bind_eq_some_iff.mp h
  simp only [stepCaller] at h
  split at h
  · next hmay =>
    rw [Bool.and_eq_true] at hmay
    obtain ⟨hwaiting, hneeds⟩ := mayConnect_cases hmay.1
    exact ⟨c.request, hwaiting ▸ seat?_of_getElem? hc, hneeds⟩
  · cases h

/-- Unless somebody begins to, nobody dials, and the connection in the slot stays there. -/
theorem OneLive.undialed (one : OneLive s) (free : s.dialing = none) {a : Action}
    (h : Streaming.step u s a = some (t, es))
    (ha : ∀ i, a ≠ .caller i .dial) :
    t.slot = s.slot ∧ t.dialing = none ∧ ∀ headers, .dialed headers ∉ es := by
  have nobody (i : Nat) (hi : s.dials i = true) : False := by
    rw [one.dials_eq_false free] at hi
    cases hi
  cases slotStep_of_step h with
  | keep keeps quiet => exact ⟨keeps.slot, keeps.dialing.trans free, quiet⟩
  | dial _ _ _ _ _ _ _ _ action => exact absurd (Happening.act.inj action) (ha _)
  | establish dialer | release dialer => exact (nobody _ dialer).elim

/-- Where there is no live connection in the slot, there is nothing to shut. -/
theorem cancelSlot_of_vacant (vacant : s.usable? = none) : s.cancelSlot = s := by
  unfold State.cancelSlot
  split
  · next k hslot =>
    have hdown : s.isUp k = false := by simpa [State.usable?, hslot] using vacant
    have hlinks : s.links.modify k (fun l => { l with cancelled := true }) = s.links := by
      apply List.ext_getElem?
      intro j
      rw [List.getElem?_modify]
      cases hl : s.links[j]? with
      | none => simp
      | some l =>
        split
        · next hj =>
          subst hj
          have hcancelled : l.cancelled = true := by simpa [State.isUp, hl] using hdown
          exact congrArg some (by rw [← hcancelled])
        · rfl
    rw [State.cancelLink, State.updateLink, hlinks]
  · rfl

/-! ## Runs -/

theorem ages_of_happen {a : Happening} (h : happen u s a = some (t, es)) : s.Ages t := by
  cases a with
  | act a => exact ages_of_step h
  | drop i =>
    simp only [happen] at h
    split at h
    · cases h
    · cases h
      exact ages_of_links rfl

theorem ages_of_run {as : List Happening} (h : Step.run (happen u) s as = some (t, es)) : s.Ages t :=
  Step.run_keeps (I := s.Ages) (ages_of_links rfl)
    (fun ages hstep => ages.trans (ages_of_happen hstep)) h

/-- Every state from the first to the last of the run. -/
def Throughout (u : Setup) (s : State) (as : List Happening) (P : State → Prop) : Prop :=
  ∀ bs t es, bs <+: as → Step.run (happen u) s bs = some (t, es) → P t

/-- The slot and what the client tells are changed by a dial that succeeds, and only then. -/
theorem OneLive.slot_of_dials {a : Happening} (h : OneLive s) (hstep : SlotStep s t a es)
    (hs : s.dials i = true) (ht : t.dials i = true) : t.slot = s.slot ∧ t.live = s.live := by
  cases hstep with
  | keep keeps => exact ⟨keeps.slot, keeps.live⟩
  | dial _ _ slot live | release _ slot live => exact ⟨slot, live⟩
  | @establish j _ dialer _ _ _ _ _ dials =>
    have hij : i = j := Option.some.inj (((h.holder i).mp hs).symm.trans ((h.holder j).mp dialer))
    rw [dials, if_pos hij] at ht
    cases ht

/-- What holds of the connections of a client wherever it has got to. -/
structure SoleConnection (u : Setup) (t : State) : Prop where
  /-- At most one connection is live, and it is the one in the slot. -/
  sole : (∀ j k, t.isUp j = true → t.isUp k = true → j = k) ∧ ∀ k, t.isUp k = true → t.slot = some k
  /-- The client tells that it is connected when the connection in the slot is live. -/
  told : t.isConnected = true ↔ ∃ k, t.slot = some k ∧ t.isUp k = true
  /-- A transport is dialed only where there is no live connection and nobody dials, and to begin
  changes nothing. -/
  begun : ∀ a v fs headers, happen u t a = some (v, fs) → .dialed headers ∈ fs →
    (∀ k, t.isUp k = false) ∧ (∀ i, t.dials i = false) ∧
      v.slot = t.slot ∧ v.live = t.live ∧ v.pending = t.pending
  /-- While a caller dials, the slot and what the client tells stay as they are. -/
  held : ∀ i as v fs, Step.run (happen u) t as = some (v, fs) →
    Throughout u t as (fun w => w.dials i = true) → v.slot = t.slot ∧ v.live = t.live
  /-- What ends a dial, unless it succeeds, leaves everything as it was. -/
  failed : ∀ i a v fs, t.dials i = true → happen u t a = some (v, fs) →
    a = .drop i ∨ (∃ b, a = .act (.caller i b) ∧ b ≠ .established) →
    v.slot = t.slot ∧ v.live = t.live ∧ v.pending = t.pending ∧ v.links = t.links ∧
      ∀ j, v.dials j = false
  /-- A connection that is cancelled never becomes live again. -/
  down : ∀ as v fs k, Step.run (happen u) t as = some (v, fs) → k < t.links.length →
    t.isUp k = false → v.isUp k = false

theorem OneLive.held (h : OneLive s) {as : List Happening}
    (hrun : Step.run (happen u) s as = some (t, es))
    (dials : Throughout u s as fun v => v.dials i = true) : t.slot = s.slot ∧ t.live = s.live := by
  -- The invariant goes along: it tells that whoever ends a dial is the caller that dials throughout.
  refine (Step.reach_induction (R := fun t as _ => (Throughout u s as fun v => v.dials i = true) →
    OneLive t ∧ t.slot = s.slot ∧ t.live = s.live) (fun _ => ⟨h, rfl, rfl⟩) ?_ hrun dials).2
  intro v w a as es fs hrun ih hstep dials
  obtain ⟨hv, slot, live⟩ := ih fun bs t es hbs => dials bs t es (hbs.trans (List.prefix_append as [a]))
  have hslot := hv.slotStep hstep
  obtain ⟨slot', live'⟩ := hv.slot_of_dials hslot (dials as v es (List.prefix_append as [a]) hrun)
    (dials _ w _ (List.prefix_refl _) (Step.run_concat hrun hstep))
  exact ⟨hv.step hslot, slot'.trans slot, live'.trans live⟩

theorem OneLive.failed (h : OneLive s) {a : Happening} (hdials : s.dials i = true)
    (hstep : happen u s a = some (t, es))
    (ha : a = .drop i ∨ ∃ b, a = .act (.caller i b) ∧ b ≠ .established) :
    t.slot = s.slot ∧ t.live = s.live ∧ t.pending = s.pending ∧ t.links = s.links ∧
      ∀ j, t.dials j = false := by
  have hfree (hdialing : t.dialing = none) : ∀ j, t.dials j = false :=
    (h.step (h.slotStep hstep)).dials_eq_false hdialing
  rcases ha with rfl | ⟨b, rfl, hb⟩
  · simp only [happen] at hstep
    split at hstep
    · cases hstep
    · cases hstep
      refine ⟨rfl, rfl, rfl, rfl, hfree ?_⟩
      simp [State.dropCaller, State.moveTo, (h.holder i).mp hdials]
  · obtain ⟨c, hc, taken⟩ := taken_of_step hstep
    rw [dials_of_getElem? hc] at hdials
    cases hp : c.phase with
    | dialing deadline =>
      obtain ⟨e, rfl, rfl⟩ := release_of_dialing hp hb taken
      exact ⟨rfl, rfl, rfl, rfl, hfree rfl⟩
    | _ =>
      rw [hp] at hdials
      cases hdials

/-- Wherever a run has got to, whoever connects, calls, sends, waits, closes or is dropped, and however
dials end: at most one connection is live, and it is in the slot, of which the client tells. A
transport is dialed only if there is none and nobody else dials, a dial that fails leaves all as it
was, and a connection that is cancelled stays so. -/
theorem one_live_connection {headers : Headers} {as : List Happening}
    (h : Step.run (happen u) (State.fresh headers) as = some (t, es)) : SoleConnection u t := by
  have one := oneLive_of_run h
  refine ⟨⟨fun j k hj hk => ?_, one.sole⟩, ?_, ?_, fun _ _ _ _ => one.held,
    fun _ _ _ _ => one.failed, ?_⟩
  · exact Option.some.inj ((one.sole j hj).symm.trans (one.sole k hk))
  · rw [State.isConnected, one.told, Option.any_eq_true]
  · intro a v fs headers hstep hmem
    cases one.slotStep hstep with
    | keep _ quiet | establish _ _ _ _ _ _ _ quiet | release _ _ _ _ _ _ quiet =>
      exact absurd hmem (quiet headers)
    | dial free vacant slot live pending =>
      exact ⟨one.isUp_eq_false vacant, one.dials_eq_false free, slot, live, pending⟩
  · intro as v fs k hrun hk hdown
    exact Bool.eq_false_iff.mpr fun hup => Bool.eq_false_iff.mp hdown ((ages_of_run hrun).isUp hk hup)

/-- The first dial runs out of time, and the caller of the second is dropped. The third succeeds; that
connection is closed, and a call dials the next one. -/
def redialed : List Happening :=
  [.act (.start (.connect [])), .act (.start ping), .act (.caller 0 .dial), .act (.pass 10000),
    .act (.caller 0 .expire), .act (.caller 1 .dial), .drop 1, .act (.start (.connect [])),
    .act (.caller 2 .dial), .act (.caller 2 .established), .act (.start .close), .act (.caller 3 .shut),
    .act (.start ping), .act (.caller 4 .dial), .act (.caller 4 .established)]

theorem one_live_connection_redialed :
    ∃ t es, Step.run (happen paddedSetup) (State.fresh []) redialed = some (t, es) ∧
      t.slot = some 1 ∧ t.isUp 0 = false ∧ t.isUp 1 = true ∧ t.isConnected = true ∧
      SoleConnection paddedSetup t := by
  have hshown : (Step.run (happen paddedSetup) (State.fresh []) redialed).map (fun r =>
      (r.1.slot, r.1.isUp 0, r.1.isUp 1)) = some (some 1, false, true) := by
    decide +kernel
  obtain ⟨⟨t, es⟩, hrun, hshown⟩ := Option.map_eq_some_iff.mp hshown
  simp only [Prod.mk.injEq] at hshown
  obtain ⟨hslot, hdown, hup⟩ := hshown
  have sole := one_live_connection hrun
  exact ⟨t, es, hrun, hslot, hdown, hup, sole.told.mpr ⟨1, hslot, hup⟩, sole⟩

end Switchboard.Streaming
