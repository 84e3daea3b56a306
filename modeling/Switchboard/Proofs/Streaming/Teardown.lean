-- SUMMARY: Why a call of a streaming client fails as closed.
import Switchboard.Proofs.Streaming.Correlation
import Switchboard.Proofs.Streaming.Links

/-!
# Teardowns

A call that has taken its handle from a connection fails as closed if this connection
is cancelled, and also if its pending entry is gone. `Acts` is what a caller's own step
does to it, and `Spares` what the steps of others do: they leave a call its entry, or
hand it the answer, unless they empty the pending table. So while its connection is up,
a call that holds it goes on undisturbed (`held_of_step`), and it fails as closed only
when this connection has been cancelled, if no other is torn down meanwhile
(`closed_with_own_link`). But all connections share the table: the teardown of an
earlier one, which may come late, fails a call whose connection is up
(`closed_by_earlier_teardown`).
-/

namespace Switchboard.Streaming

/-! ## What callers do -/

/-- A caller that has not come out and has taken no connection for a call. -/
def Phase.isLoose : Phase → Bool
  | .waiting | .dialing _ | .sending _ | .joining _ => true
  | _ => false

/-- What a caller's own step does to it and to the pending table. A call fails as closed only if it
has reason to. -/
inductive Acts (u : Setup) (s t : State) (i : Nat) : Phase → Phase → Prop
  | aside {q p} (before : q.isLoose = true) (after : p.isCall = false)
      (pending : t.pending = s.pending) : Acts u s t i q p
  | connect {q link} (before : q.isLoose = true) (there : link < t.links.length)
      (pending : t.pending = s.pending) : Acts u s t i q (.registering link)
  | register {link x} (same : x.link = link) (wire : x.wire = .text (u.freshId s.drawn))
      (pending : t.pending = s.pending.insert x.wire.key i) :
      Acts u s t i (.registering link) (.enqueuing x)
  | enqueue {x} (pending : t.pending = s.pending) : Acts u s t i (.enqueuing x) (.awaiting x)
  | fail {q x e} (before : q.listens = true) (exchange : q.exchange? = some x)
      (cause : e = .transportClosed → s.Forsakes i x) (pending : t.pending = s.pending) :
      Acts u s t i q (.withdrawing x e)
  | answer {x m} (pending : t.pending = s.pending) :
      Acts u s t i (.awaiting x) (.finished (.answered m))
  | withdraw {x e} (pending : t.pending = s.pending.erase x.wire.key) :
      Acts u s t i (.withdrawing x e) (.finished (.failed e))

/-- A caller's step moves this caller and no other. -/
def State.Moved (s t : State) (i : Nat) (p : Phase) : Prop := t.callers = (s.moveTo i p).callers

variable {u : Setup} {s t v : State} {i j k : Nat} {c : Caller} {r : Request} {p q : Phase} {a : Action}
  {es fs : List Event} {ds : List Delivery} {rs : List Request}

theorem lt_length_of_isUp (h : s.isUp k = true) : k < s.links.length := by
  cases hl : s.links[k]? with
  | some l => exact (List.getElem?_eq_some_iff.mp hl).1
  | none => simp [State.isUp, hl] at h

theorem isUp_eq_false_of_ended {l : Link} (h : s.LinksSound) (hl : s.links[k]? = some l)
    (hended : l.sender = .ended) : s.isUp k = false := by
  simp [State.isUp, hl, (h k l hl).sender hended]

/-- A caller that has got a connection. -/
theorem acts_onward {link : Nat} (before : q.isLoose = true) (pending : t.pending = s.pending)
    (there : link < t.links.length) (r : Request) : Acts u s t i q (r.onward link) := by
  cases r with
  | call => exact .connect before there pending
  | send | connect | wait | close => exact .aside before rfl pending

theorem acts_of_taken {b : CallerAction} (h : Taken u s i c b t es) :
    ∃ p, s.Moved t i p ∧ Acts u s t i c.phase p := by
  obtain ⟨v, p, fs, h, rfl, -⟩ := h
  refine ⟨p, by simp only [State.Moved, State.moveTo, h.callers], ?_⟩
  have loose {q : Phase} (phase : c.phase = q) (hq : q.isLoose = true) : c.phase.isLoose = true :=
    phase ▸ hq
  cases h with
  | reuse may usable =>
    have hup : s.isUp _ = true := (Option.filter_eq_some_iff.mp usable).2
    refine acts_onward (loose (mayConnect_cases may).1 rfl) ?_ ?_ _
    · rfl
    · exact lt_length_of_isUp hup
  | established phase =>
    refine acts_onward (loose phase rfl) ?_ ?_ _
    · rfl
    · simp [State.moveTo]
  | dial may | noTransport may => exact .aside (loose (mayConnect_cases may).1 rfl) rfl rfl
  | refused phase | lapse phase | send phase | unsent _ phase | claim phase | vacant phase | join phase =>
    exact .aside (loose phase rfl) rfl rfl
  | shut phase => exact .aside (loose phase rfl) rfl (pending_cancelSlot s)
  | register phase =>
    rw [phase]
    exact .register rfl rfl rfl
  | queue phase =>
    rw [phase]
    exact .enqueue rfl
  | @fail _ x e _ phase cause =>
    have listens : c.phase.listens = true ∧ c.phase.exchange? = some x := by
      rcases phase with phase | ⟨phase, -⟩ <;> rw [phase] <;> exact ⟨rfl, rfl⟩
    refine .fail listens.1 listens.2 ?_ rfl
    rintro rfl
    cases cause with
    | closed forsakes => exact forsakes
  | answer phase =>
    rw [phase]
    exact .answer rfl
  | withdraw phase =>
    rw [phase]
    exact .withdraw rfl

/-! ## What others do to a caller -/

theorem seat?_of_moved (h : s.Moved t i p) (j : Nat) :
    t.seat? j = if i = j then (s.seat? j).map fun e => (e.1, p) else s.seat? j := by
  rw [State.Moved] at h
  simp only [State.seat?, h, State.moveTo, List.getElem?_modify]
  cases s.callers[j]? <;> split <;> rfl

/-- What the steps of others do to a caller. They hand a call its answer, or leave it its entry
unless they empty the pending table. -/
inductive Spares (s t : State) (a : Action) (i : Nat) (q : Phase) : Phase → Prop
  | stay (entry : (∀ k, a ≠ .link k .clear) → q.listens = true → ∀ key,
      s.pending.find? key = some i → t.pending.find? key = some i) : Spares s t a i q q
  | hand {m} (listens : q.listens = true) : Spares s t a i q (q.hand m)

theorem Spares.of_pending (h : t.pending = s.pending) : Spares s t a i q q :=
  .stay fun _ _ _ hkey => h ▸ hkey

theorem Spares.of_erase {key : String} (pending : t.pending = s.pending.erase key)
    (other : q.listens = true → s.pending.find? key ≠ some i) : Spares s t a i q q := by
  refine .stay fun _ listens key' hkey => ?_
  rw [pending, Keyed.find?_erase, if_neg, hkey]
  rintro rfl
  exact other listens hkey

theorem mem_wires_of_entry {key : String} (book : Book s es ds rs) (h : s.pending.find? key = some i) :
    ∃ wire ∈ wires i es, wire.key = key := by
  obtain ⟨r, p, x, hs, hx, -, rfl⟩ := book.pending key i h
  exact ⟨x.wire, by simp [((book.standing i r p hs).of_exchange hx).1], rfl⟩

section
variable (hfresh : Function.Injective u.freshId) (book : Book s es ds rs) (fresh : WiresFresh u s es)
include hfresh book fresh

/-- A caller's step concerns its own entry alone. -/
theorem spares_of_acts {q' : Phase} (hne : j ≠ i) (hj : s.seat? j = some (r, q'))
    (h : Acts u s t j q' p) : Spares s t a i q q := by
  cases h with
  | aside _ _ pending | connect _ _ pending | enqueue pending | fail _ _ _ pending | answer pending =>
    exact .of_pending pending
  | register _ drawn pending =>
    refine .stay fun _ _ key hkey => ?_
    rw [pending, Keyed.find?_insert, if_neg, hkey]
    rintro rfl
    obtain ⟨wire, hwire, hsame⟩ := mem_wires_of_entry book hkey
    obtain rfl := RequestId.key_injective hsame
    obtain ⟨n, hn, heq⟩ := fresh.drawn _ (mem_allWires hwire)
    exact Nat.ne_of_gt hn (hfresh (RequestId.text.inj (drawn.symm.trans heq)))
  | withdraw pending =>
    refine .of_erase pending fun _ hkey => ?_
    obtain ⟨wire, hwire, hsame⟩ := mem_wires_of_entry book hkey
    obtain rfl := RequestId.key_injective hsame
    have hown := ((book.standing j r _ hj).of_exchange rfl).1
    exact hne (fresh.eq_of_mem (hown ▸ List.mem_singleton_self _) hwire)

end

/-- A message that is read concerns the entry of the caller to whom it goes. -/
theorem spares_of_turn {d : Delivery} (hs : s.seat? i = some (r, q)) (h : Turn u s t es [d] []) :
    ∃ p, t.seat? i = some (r, p) ∧ Spares s t a i q p := by
  cases h with
  | @hand r' j q' wire _ moves found listens _ _ pending =>
    by_cases hij : i = j
    · subst hij
      obtain ⟨rfl, rfl⟩ : r' = r ∧ q' = q := by simpa using moves.before.symm.trans hs
      exact ⟨_, by rw [moves.after, if_pos rfl], .hand listens⟩
    · refine ⟨q, by rw [moves.after, if_neg hij, hs], .of_erase pending fun _ hkey => ?_⟩
      exact hij (Option.some.inj (hkey.symm.trans found.pending))
  | @miss _ j q' wire _ seat found deaf seats _ pending =>
    refine ⟨q, (seats i).trans hs, .of_erase pending fun listens hkey => ?_⟩
    obtain rfl := Option.some.inj (hkey.symm.trans found.pending)
    obtain ⟨-, rfl⟩ : _ ∧ q' = q := by simpa using seat.symm.trans hs
    rw [deaf] at listens
    cases listens
  | pass seats _ _ _ _ pending =>
    refine ⟨q, (seats i).trans hs, ?_⟩
    rcases pending with pending | ⟨key', j, hj, vacant, pending⟩
    · exact .of_pending pending
    · refine .of_erase pending fun _ hkey => ?_
      obtain rfl := Option.some.inj (hkey.symm.trans hj)
      rw [vacant] at hs
      cases hs

theorem spares_of_linkStep (u : Setup) {b : LinkAction} {l : Link} (hs : s.seat? i = some (r, q))
    (h : LinkStep s k l b t fs) : ∃ p, t.seat? i = some (r, p) ∧ Spares s t (.link k b) i q p := by
  cases h with
  | sends | receives => exact ⟨q, hs, .of_pending rfl⟩
  | clears => exact ⟨q, hs, .stay fun hclear => absurd rfl (hclear k)⟩
  | delivers _ _ _ delivered => exact spares_of_turn hs (turn_deliver delivered (u := u))

/-- What a step of the client does to a caller that does not move. -/
theorem spares_of_step (hfresh : Function.Injective u.freshId) (book : Book s es ds rs)
    (fresh : WiresFresh u s es) (hs : s.seat? i = some (r, q)) (other : ∀ b, a ≠ .caller i b)
    (h : step u s a = some (t, fs)) : ∃ p, t.seat? i = some (r, p) ∧ Spares s t a i q p := by
  cases a with
  | start r' =>
    have hlength : i ≠ s.callers.length := by
      rintro rfl
      rw [seat?_length] at hs
      cases hs
    cases turn_of_start (Option.some.inj h) with
    | enter after pending | refuse after pending =>
      exact ⟨q, by rw [after, if_neg hlength, hs], .of_pending pending⟩
  | cancel j =>
    cases h
    refine ⟨q, ?_, .of_pending rfl⟩
    rw [← hs]
    simp only [State.seat?, List.getElem?_modify]
    split <;> cases s.callers[i]? <;> rfl
  | setHeaders _ | setCallback _ | arrive _ _ | pass _ =>
    cases h
    exact ⟨q, hs, .of_pending rfl⟩
  | discard =>
    cases h
    have hseat : s.cancelSlot.seat? i = s.seat? i := by
      rw [State.seat?, callers_cancelSlot, State.seat?]
    exact ⟨q, hseat.trans hs, .of_pending (pending_cancelSlot s)⟩
  | caller j b =>
    have hne : j ≠ i := fun hj => other b (hj ▸ rfl)
    obtain ⟨c, hc, taken⟩ := taken_of_step h
    obtain ⟨p, moved, acts⟩ := acts_of_taken taken
    refine ⟨q, ?_, spares_of_acts hfresh book fresh hne (seat?_of_getElem? hc) acts⟩
    rw [seat?_of_moved moved, if_neg hne, hs]
  | link k b =>
    obtain ⟨l, -, h⟩ := linkStep_of_step h
    exact spares_of_linkStep u hs h

/-! ## A call and its connection -/

/-- A call registers on a connection that there is. -/
def State.Seated (s : State) : Prop :=
  ∀ i r k, s.seat? i = some (r, .registering k) → k < s.links.length

theorem Spares.registering (h : Spares s t a i q p) (hp : p = .registering k) :
    q = .registering k := by
  cases h with
  | stay => exact hp
  | hand listens => cases q <;> first | (cases listens; done) | cases hp

theorem Acts.lt_length (h : Acts u s t i q p) (hp : p = .registering k) : k < t.links.length := by
  cases h with
  | connect _ there =>
    cases hp
    exact there
  | aside _ after =>
    cases hp
    cases after
  | register | enqueue | fail | answer | withdraw => cases hp

/-- A caller does not come in with a connection. -/
theorem Turn.newcomer_ne {ds : List Delivery} (h : Turn u s t es ds rs) (hs : s.seat? i = none) :
    t.seat? i ≠ some (r, .registering k) := by
  cases h with
  | enter after | refuse after =>
    rw [after, hs]
    split <;> exact fun h => nomatch h
  | aside seats | clear seats | pass seats | miss _ _ _ seats =>
    rw [seats, hs]
    exact fun h => nomatch h
  | advance moves | conclude moves | register moves | enqueue moves | drop moves | withdraw moves
  | answer moves | hand moves =>
    rw [(moves.vacant hs).2]
    exact fun h => nomatch h

theorem State.Seated.step (hfresh : Function.Injective u.freshId) (book : Book s es ds rs)
    (fresh : WiresFresh u s es) (h : s.Seated) (hs : step u s a = some (t, fs)) : t.Seated := by
  intro i r k hi
  cases hseat : s.seat? i with
  | none => exact absurd hi ((turn_of_step hs).newcomer_ne hseat)
  | some e =>
    obtain ⟨r', q⟩ := e
    by_cases own : ∃ b, a = .caller i b
    · obtain ⟨b, rfl⟩ := own
      obtain ⟨c, -, taken⟩ := taken_of_step hs
      obtain ⟨p, moved, acts⟩ := acts_of_taken taken
      rw [seat?_of_moved moved, if_pos rfl, hseat] at hi
      cases hi
      exact acts.lt_length rfl
    · obtain ⟨p, hp, spares⟩ := spares_of_step hfresh book fresh hseat (fun b hb => own ⟨b, hb⟩) hs
      obtain ⟨-, rfl⟩ : _ ∧ p = .registering k := by simpa using hp.symm.trans hi
      obtain rfl := spares.registering rfl
      exact (ages_of_step hs).lt_length (h i r' k hseat)

/-- The call has taken this connection, and as far as it is concerned, the connection is open. -/
inductive Held (s : State) (link i : Nat) : Phase → Prop
  | registering : Held s link i (.registering link)
  | waiting {p x} (listens : p.listens = true) (exchange : p.exchange? = some x)
      (same : x.link = link)
      (entry : x.handed = none → s.pending.find? x.wire.key = some i) : Held s link i p
  | failing {x e} (cause : e ≠ .transportClosed) : Held s link i (.withdrawing x e)
  | finished {o} (cause : o ≠ .failed .transportClosed) : Held s link i (.finished o)

theorem Held.acts (h : Held s k i q) (links : s.LinksSound) (hup : s.isUp k = true)
    (hacts : Acts u s t i q p) : Held t k i p := by
  cases hacts with
  | aside before | connect before =>
    cases h with
    | waiting listens => cases q <;> first | (cases before; done) | cases listens
    | _ => cases before
  | register same _ pending =>
    cases h with
    | registering =>
      exact .waiting rfl rfl same fun _ => by rw [pending, Keyed.find?_insert, if_pos rfl]
    | waiting listens => cases listens
  | enqueue pending =>
    cases h with
    | waiting _ exchange same entry =>
      cases exchange
      exact .waiting rfl rfl same (pending ▸ entry)
  | @fail _ x e before exchange cause =>
    cases h with
    | waiting _ exchange' same entry =>
      obtain rfl := Option.some.inj (exchange.symm.trans exchange')
      refine .failing fun he => ?_
      rcases cause he with hdown | ⟨l, hl, hended⟩ | ⟨hnone, hgone⟩
      · rw [same, hup] at hdown
        cases hdown
      · have hdown := isUp_eq_false_of_ended links hl hended
        rw [same, hup] at hdown
        cases hdown
      · exact hgone (entry hnone)
    | _ => cases before
  | answer => exact .finished fun h => nomatch h
  | withdraw =>
    cases h with
    | waiting listens => cases listens
    | failing cause => exact .finished fun h => cause (Outcome.failed.inj h)

theorem Held.spares (h : Held s k i q) (keeps : ∀ k, a ≠ .link k .clear)
    (hspares : Spares s t a i q p) : Held t k i p := by
  cases hspares with
  | stay entry =>
    cases h with
    | registering => exact .registering
    | waiting listens exchange same held =>
      exact .waiting listens exchange same fun hnone => entry keeps listens _ (held hnone)
    | failing cause => exact .failing cause
    | finished cause => exact .finished cause
  | hand listens =>
    cases h with
    | waiting _ exchange same =>
      refine .waiting ?_ (exchange?_hand listens exchange) same fun hnone => nomatch hnone
      cases q <;> first | (cases listens; done) | rfl
    | _ => cases listens

/-- A connection that is up is not about to empty the pending table. -/
theorem not_clear_of_isUp (links : s.LinksSound) (hup : s.isUp k = true)
    (h : step u s (.link k .clear) = some (t, fs)) : False := by
  obtain ⟨l, hl, h⟩ := Option.bind_eq_some_iff.mp h
  simp only [stepLink] at h
  split at h
  · next e hreceiver =>
    have hdown := (links k l hl).receiver (by rw [hreceiver]; rfl)
    simp [State.isUp, hl, hdown] at hup
  · cases h

/-! ## Runs -/

section
variable (hfresh : Function.Injective u.freshId) {headers : Headers} {as : List Action}
  (hrun : run u (State.fresh headers) as = some (s, es))
include hfresh hrun

theorem seated_of_run : s.Seated := by
  refine Step.reach_induction (R := fun t _ _ => t.Seated) (fun _ _ _ h => nomatch h) ?_ hrun
  intro t v a as es fs hrun seated hstep
  exact seated.step hfresh (book_of_run hrun) (wiresFresh_of_run hfresh hrun) hstep

/-- In a step that does not tear another connection down, a call whose connection is up after it
goes on undisturbed. -/
theorem held_of_step (hs : s.seat? i = some (r, q)) (held : Held s k i q) (hup : s.isUp k = true)
    (keeps : ∀ j, a = .link j .clear → j = k) (hstep : step u s a = some (t, fs)) :
    ∃ p, t.seat? i = some (r, p) ∧ Held t k i p := by
  have links := linksSound_of_run hrun
  by_cases own : ∃ b, a = .caller i b
  · obtain ⟨b, rfl⟩ := own
    obtain ⟨c, hc, steps⟩ := taken_of_step hstep
    obtain ⟨rfl, rfl⟩ : c.request = r ∧ c.phase = q := by
      simpa using (seat?_of_getElem? hc).symm.trans hs
    obtain ⟨p, moved, acts⟩ := acts_of_taken steps
    exact ⟨p, by rw [seat?_of_moved moved, if_pos rfl, hs]; rfl, held.acts links hup acts⟩
  · obtain ⟨p, hp, spares⟩ := spares_of_step hfresh (book_of_run hrun)
      (wiresFresh_of_run hfresh hrun) hs (fun b hb => own ⟨b, hb⟩) hstep
    refine ⟨p, hp, held.spares (fun j hj => ?_) spares⟩
    obtain rfl := keeps j hj
    exact not_clear_of_isUp links hup (hj ▸ hstep)

end

theorem Standing.of_finished {o : Outcome} {ws : List RequestId} {os : List Outcome}
    (h : Standing p ws ds os) (ho : o ∈ os) : p = .finished o := by
  cases h with
  | early | waiting | handed => cases ho
  | answered | failed =>
    obtain rfl := List.mem_singleton.mp ho
    rfl

/-- A call that has taken its handle from a connection fails as closed only if this connection has
been cancelled, unless another connection is torn down while the call is under way. -/
theorem closed_with_own_link (hfresh : Function.Injective u.freshId) {headers : Headers}
    {as bs : List Action} {link : Nat}
    (before : run u (State.fresh headers) as = some (s, es))
    (taken : s.seat? i = some (r, .registering link))
    (after : run u s bs = some (t, fs))
    (alone : ∀ k, .link k .clear ∈ bs → k = link)
    (closed : .finished i (.failed .transportClosed) ∈ fs) :
    ∃ l, t.links[link]? = some l ∧ l.cancelled = true := by
  have seated := seated_of_run hfresh before
  -- While the connection is up, nobody takes its entry away from the call.
  have go : link < t.links.length ∧ ∃ p, t.seat? i = some (r, p) ∧
      (t.isUp link = true → Held t link i p) := by
    refine Step.reach_induction (R := fun t bs _ => (∀ k, .link k .clear ∈ bs → k = link) →
      link < t.links.length ∧ ∃ p, t.seat? i = some (r, p) ∧ (t.isUp link = true → Held t link i p))
      (fun _ => ⟨seated i r link taken, _, taken, fun _ => .registering⟩) ?_ after alone
    intro v w a bs gs hs hrun ih hstep alone
    obtain ⟨hlt, q, hq, held⟩ := ih fun k hk => alone k (List.mem_append_left _ hk)
    have hreach := Step.run_append_eq_some_iff.mpr ⟨s, es, gs, before, hrun, rfl⟩
    have ages := ages_of_step hstep
    obtain ⟨p, hp, -⟩ := (turn_of_step hstep).progress (book_of_run hreach).pending hq
    refine ⟨ages.lt_length hlt, p, hp, fun hup => ?_⟩
    have hup' := ages.isUp hlt hup
    obtain ⟨p', hp', held'⟩ := held_of_step hfresh hreach hq (held hup') hup'
      (fun k hk => alone k (hk ▸ List.mem_append_right _ (List.mem_singleton_self _))) hstep
    rw [hp] at hp'
    cases hp'
    exact held'
  obtain ⟨hlt, p, hp, held⟩ := go
  have hreach := Step.run_append_eq_some_iff.mpr ⟨s, es, fs, before, after, rfl⟩
  have hmem := mem_outcomes.mpr (List.mem_append_right es closed)
  obtain rfl := ((book_of_run hreach).standing i r p hp).of_finished hmem
  refine ⟨t.links[link], List.getElem?_eq_getElem hlt, ?_⟩
  refine Decidable.byContradiction fun hopen => ?_
  have hup : t.isUp link = true := by simp [State.isUp, hlt, hopen]
  cases held hup with
  | waiting listens => cases listens
  | finished cause => exact cause rfl

def paddedSetup : Setup := { url := { scheme := "ws" }, config := {}, freshId := paddedId }

def ping : Request := .call (Message.request (.number ⟨"1"⟩) "ping" (.list [])) []

/-- What of a run shows that a call was closed: where it stood when it took its handle, how it came
out, and whether a connection is still up. -/
def closing (as bs : List Action) (i link : Nat) :
    Option (Option (Request × Phase) × List Outcome × Bool) :=
  (run paddedSetup (State.fresh []) as).bind fun (s, _) =>
    (run paddedSetup s bs).map fun (t, fs) => (s.seat? i, outcomes i fs, t.isUp link)

/-- The client is closed while a call waits for its answer. -/
theorem closed_with_own_link_shut :
    ∃ s es t fs, run paddedSetup (State.fresh [])
        [.start ping, .caller 0 .dial, .caller 0 .established] = some (s, es) ∧
      run paddedSetup s [.caller 0 .register, .caller 0 .enqueue, .start .close, .caller 1 .shut,
        .link 0 .stop, .link 0 .cancel, .link 0 .clear, .caller 0 .settle, .caller 0 .withdraw] =
        some (t, fs) ∧
      .finished 0 (.failed .transportClosed) ∈ fs ∧
      ∃ l, t.links[0]? = some l ∧ l.cancelled = true := by
  have hshown : closing [.start ping, .caller 0 .dial, .caller 0 .established]
      [.caller 0 .register, .caller 0 .enqueue, .start .close, .caller 1 .shut, .link 0 .stop,
        .link 0 .cancel, .link 0 .clear, .caller 0 .settle, .caller 0 .withdraw] 0 0 =
        some (some (ping, .registering 0), [.failed .transportClosed], false) := by
    decide +kernel
  obtain ⟨⟨s, es⟩, before, hshown⟩ := Option.bind_eq_some_iff.mp hshown
  obtain ⟨⟨t, fs⟩, after, hshown⟩ := Option.map_eq_some_iff.mp hshown
  obtain ⟨taken, houtcomes, -⟩ : s.seat? 0 = some (ping, .registering 0) ∧
      outcomes 0 fs = [.failed .transportClosed] ∧ t.isUp 0 = false := by simpa using hshown
  have closed : .finished 0 (.failed .transportClosed) ∈ fs := mem_outcomes.mp (by simp [houtcomes])
  refine ⟨s, es, t, fs, before, after, closed, ?_⟩
  refine closed_with_own_link paddedId_injective before taken after (fun k hk => ?_) closed
  simpa using hk

/-- A connection is closed, and before its receive half has seen this, a call dials the next one and
is queued there. Then the receive half of the first connection empties the pending table: the call
fails as closed on a connection that is up. -/
theorem closed_by_earlier_teardown :
    ∃ s es t fs, run paddedSetup (State.fresh [])
        [.start (.connect []), .caller 0 .dial, .caller 0 .established, .start ping, .start .close,
          .caller 2 .shut, .caller 1 .dial, .caller 1 .established] = some (s, es) ∧
      s.seat? 1 = some (ping, .registering 1) ∧
      run paddedSetup s [.caller 1 .register, .caller 1 .enqueue, .link 0 .stop, .link 0 .cancel,
        .link 0 .clear, .caller 1 .settle, .caller 1 .withdraw] = some (t, fs) ∧
      .finished 1 (.failed .transportClosed) ∈ fs ∧ t.isUp 1 = true := by
  have hshown : closing [.start (.connect []), .caller 0 .dial, .caller 0 .established, .start ping,
        .start .close, .caller 2 .shut, .caller 1 .dial, .caller 1 .established]
      [.caller 1 .register, .caller 1 .enqueue, .link 0 .stop, .link 0 .cancel, .link 0 .clear,
        .caller 1 .settle, .caller 1 .withdraw] 1 1 =
        some (some (ping, .registering 1), [.failed .transportClosed], true) := by
    decide +kernel
  obtain ⟨⟨s, es⟩, before, hshown⟩ := Option.bind_eq_some_iff.mp hshown
  obtain ⟨⟨t, fs⟩, after, hshown⟩ := Option.map_eq_some_iff.mp hshown
  obtain ⟨taken, houtcomes, hup⟩ : s.seat? 1 = some (ping, .registering 1) ∧
      outcomes 1 fs = [.failed .transportClosed] ∧ t.isUp 1 = true := by simpa using hshown
  exact ⟨s, es, t, fs, before, taken, after, mem_outcomes.mp (by simp [houtcomes]), hup⟩

end Switchboard.Streaming
