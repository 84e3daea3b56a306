-- SUMMARY: What one step of a streaming client can do to calls.
import Switchboard.Proofs.Keyed
import Switchboard.Proofs.Streaming.Deliveries
import Switchboard.Proofs.Streaming.Steps

/-!
# Turns

A step of a client moves at most one call. `Turn` lists what it can do to the calls,
to the pending table and to the ids that were drawn, with the deliveries that it
makes and the events that concern calls; `turn_of_step` says that there is no more.
-/

namespace Switchboard.Streaming

/-- A call that has no id on the wire yet and has not come out. -/
def Phase.isEarly : Phase → Bool
  | .waiting | .dialing _ | .registering _ | .sending _ | .joining _ => true
  | _ => false

/-- Only a call gets here. -/
def Phase.isCall : Phase → Bool
  | .registering _ | .enqueuing _ | .awaiting _ | .withdrawing .. => true
  | _ => false

def Phase.exchange? : Phase → Option Exchange
  | .enqueuing x | .awaiting x | .withdrawing x _ => some x
  | _ => none

/-- The answer is handed over. -/
def Phase.hand (m : Message) : Phase → Phase
  | .enqueuing x => .enqueuing { x with handed := some m }
  | .awaiting x => .awaiting { x with handed := some m }
  | p => p

def Outcome.isAnswer : Outcome → Bool
  | .answered _ => true
  | _ => false

def Request.isCall : Request → Bool
  | .call .. => true
  | _ => false

/-- The event tells nothing about calls. -/
def Event.isAside : Event → Bool
  | .dialed _ | .sent .. | .closed _ => true
  | _ => false

/-- What a caller asks for, and how far it is. -/
def State.seat? (s : State) (i : Nat) : Option (Request × Phase) :=
  (s.callers[i]?).map fun c => (c.request, c.phase)

/-! ## Turns -/

/-- One caller moves from one phase to another, and all others stay. -/
structure Moves (s t : State) (i : Nat) (r : Request) (q p : Phase) : Prop where
  before : s.seat? i = some (r, q)
  after : ∀ j, t.seat? j = if j = i then some (r, p) else s.seat? j

/-- A message answers a call whose entry is pending. -/
structure Matches (s : State) (d : Delivery) (i : Nat) (r : Request) (wire : RequestId) : Prop where
  answer : d.message.isAnswer = true
  id : d.message.id? = some wire
  pending : s.pending.find? wire.key = some i
  waiter : d.waiter = some i
  passed : d.passed = ((r.id?).map fun id => d.message.withId id).getD d.message

/-- What one step can do to the calls, with the events that it shows, the deliveries that it makes
and the requests that it admits. -/
inductive Turn (u : Setup) (s t : State) : List Event → List Delivery → List Request → Prop
  /-- Nothing. -/
  | aside {es} (seats : ∀ j, t.seat? j = s.seat? j) (pending : t.pending = s.pending)
      (drawn : t.drawn = s.drawn) (quiet : ∀ e ∈ es, e.isAside = true)
      (sent : ∀ k m, .sent k m ∈ es → m ∈ s.outbound k) : Turn u s t es [] []
  | clear (seats : ∀ j, t.seat? j = s.seat? j) (pending : t.pending = [])
      (drawn : t.drawn = s.drawn) : Turn u s t [] [] []
  | enter {r : Request}
      (after : ∀ j, t.seat? j = if j = s.callers.length then some (r, .waiting) else s.seat? j)
      (pending : t.pending = s.pending) (drawn : s.drawn ≤ t.drawn)
      (request : ∀ m headers, r = .call m headers → m.isRequest = true) : Turn u s t [] [] [r]
  /-- A caller that asks for the impossible. -/
  | refuse {r : Request} {e : ClientError}
      (after : ∀ j, t.seat? j =
        if j = s.callers.length then some (r, .finished (.failed e)) else s.seat? j)
      (pending : t.pending = s.pending) (drawn : t.drawn = s.drawn) :
      Turn u s t [.finished s.callers.length (.failed e)] [] [r]
  /-- A caller gets on, without an id on the wire yet. -/
  | advance {r i q p es} (moves : Moves s t i r q p) (pending : t.pending = s.pending)
      (drawn : t.drawn = s.drawn) (early : q.isEarly = true) (still : p.isEarly = true)
      (call : p.isCall = true → r.isCall = true)
      (quiet : ∀ e ∈ es, ∃ headers, e = .dialed headers) : Turn u s t es [] []
  /-- A caller comes out without having had an id on the wire. -/
  | conclude {r i q o} (moves : Moves s t i r q (.finished o)) (pending : t.pending = s.pending)
      (drawn : t.drawn = s.drawn) (early : q.isEarly = true) (answer : o.isAnswer = false) :
      Turn u s t [.finished i o] [] []
  | register {r i link x} (moves : Moves s t i r (.registering link) (.enqueuing x))
      (wire : x.wire = .text (u.freshId s.drawn)) (handed : x.handed = none)
      (pending : t.pending = s.pending.insert x.wire.key i) (drawn : t.drawn = s.drawn + 1) :
      Turn u s t [.registered i x.wire] [] []
  | enqueue {r i x} (moves : Moves s t i r (.enqueuing x) (.awaiting x))
      (pending : t.pending = s.pending) (drawn : t.drawn = s.drawn) : Turn u s t [] [] []
  /-- A call fails; an answer that it was handed is lost if its request was not queued yet. -/
  | drop {r i q x e} (moves : Moves s t i r q (.withdrawing x e))
      (origin : q = .enqueuing x ∨ q = .awaiting x ∧ x.handed = none)
      (pending : t.pending = s.pending) (drawn : t.drawn = s.drawn) : Turn u s t [] [] []
  | withdraw {r i x e} (moves : Moves s t i r (.withdrawing x e) (.finished (.failed e)))
      (pending : t.pending = s.pending.erase x.wire.key) (drawn : t.drawn = s.drawn) :
      Turn u s t [.finished i (.failed e)] [] []
  | answer {r i x m} (moves : Moves s t i r (.awaiting x) (.finished (.answered m)))
      (handed : x.handed = some m) (pending : t.pending = s.pending) (drawn : t.drawn = s.drawn) :
      Turn u s t [.finished i (.answered m)] [] []
  | hand {r i q wire d} (moves : Moves s t i r q (q.hand d.passed)) (found : Matches s d i r wire)
      (listens : q.listens = true) (taker : d.taker = some i) (queued : d.queued = q.isAwaiting)
      (pending : t.pending = s.pending.erase wire.key) (drawn : t.drawn = s.drawn) :
      Turn u s t [] [d] []
  /-- The call whose entry a message matches has given up. -/
  | miss {r i q wire d} (seat : s.seat? i = some (r, q)) (found : Matches s d i r wire)
      (deaf : q.listens = false) (seats : ∀ j, t.seat? j = s.seat? j) (taker : d.taker = none)
      (pending : t.pending = s.pending.erase wire.key) (drawn : t.drawn = s.drawn) :
      Turn u s t (d.left.map fun c => .calledBack c.1 c.2) [d] []
  | pass {d} (seats : ∀ j, t.seat? j = s.seat? j) (waiter : d.waiter = none) (taker : d.taker = none)
      (passed : d.passed = d.message) (drawn : t.drawn = s.drawn)
      (pending : t.pending = s.pending ∨ ∃ key i, s.pending.find? key = some i ∧
        s.seat? i = none ∧ t.pending = s.pending.erase key) :
      Turn u s t (d.left.map fun c => .calledBack c.1 c.2) [d] []

/-! ## Small steps -/

variable {u : Setup} {s t : State} {i k : Nat} {c : Caller} {l : Link} {es : List Event}

theorem seat?_of_getElem? (h : s.callers[i]? = some c) : s.seat? i = some (c.request, c.phase) := by
  simp only [State.seat?, h, Option.map_some]

theorem caller_of_seat? {r : Request} {q : Phase} (hc : s.callers[i]? = some c)
    (hs : s.seat? i = some (r, q)) : c.request = r ∧ c.phase = q := by
  simpa using (seat?_of_getElem? hc).symm.trans hs

theorem exists_caller {r : Request} {q : Phase} (hs : s.seat? i = some (r, q)) :
    ∃ c, s.callers[i]? = some c ∧ c.request = r ∧ c.phase = q := by
  obtain ⟨c, hc, -⟩ := Option.map_eq_some_iff.mp hs
  exact ⟨c, hc, caller_of_seat? hc hs⟩

/-- A caller that is moved after a step that left all callers as they were. -/
theorem moves_moveTo {q : Phase} (hc : s.callers[i]? = some c) (hq : c.phase = q)
    (h : t.callers = s.callers) (p : Phase) : Moves s (t.moveTo i p) i c.request q p := by
  refine ⟨hq ▸ seat?_of_getElem? hc, fun j => ?_⟩
  simp only [State.seat?, State.moveTo, h, List.getElem?_modify]
  by_cases hj : i = j
  · subst hj
    simp [hc]
  · simp [hj, Ne.symm hj]

theorem mayConnect_cases (h : mayConnect s c = true) :
    c.phase = .waiting ∧ c.request.needsLink = true := by
  simp only [mayConnect, Bool.and_eq_true, decide_eq_true_eq] at h
  exact ⟨h.1.1, h.2⟩

theorem isAnswer_of_report {r : Receiver} {o : Outcome} (h : r.report? = some o) : o.isAnswer = false := by
  cases r with
  | ended e => cases e <;> cases h <;> rfl
  | crashed => cases h; rfl
  | _ => cases h

/-! ## Callers -/

section
variable {v : State} {o : Outcome} (hc : s.callers[i]? = some c)
include hc

theorem turn_finish (h : v.callers = s.callers) (pending : v.pending = s.pending)
    (drawn : v.drawn = s.drawn) (early : c.phase.isEarly = true) (answer : o.isAnswer = false) :
    Turn u s (v.moveTo i (.finished o)) [.finished i o] [] [] :=
  .conclude (moves_moveTo hc rfl h _) pending drawn early answer

/-- A caller that has got a connection. -/
theorem turn_onward (h : v.callers = s.callers) (pending : v.pending = s.pending)
    (drawn : v.drawn = s.drawn) (early : c.phase.isEarly = true) (link : Nat) :
    Turn u s (v.moveTo i (c.request.onward link)) ((c.request.onward link).shown i) [] [] := by
  have moves := moves_moveTo hc rfl h
  cases hr : c.request with
  | call m headers =>
    exact .advance (moves (.registering link)) pending drawn early rfl (fun _ => hr ▸ rfl)
      (fun _ he => nomatch he)
  | send m =>
    exact .advance (moves (.sending link)) pending drawn early rfl (fun h => nomatch h)
      (fun _ he => nomatch he)
  | connect _ | wait | close => exact turn_finish hc h pending drawn early rfl

theorem turn_of_taken {a : CallerAction} (h : Taken u s i c a t es) : Turn u s t es [] [] := by
  obtain ⟨v, p, fs, h, rfl, rfl⟩ := h
  have early {q : Phase} (phase : c.phase = q) (hq : q.isEarly = true) : c.phase.isEarly = true :=
    phase ▸ hq
  cases h with
  | reuse may => exact turn_onward hc rfl rfl rfl (early (mayConnect_cases may).1 rfl) _
  | established phase => refine turn_onward hc ?_ ?_ ?_ (early phase rfl) _ <;> rfl
  | dial may =>
    exact .advance (moves_moveTo hc (mayConnect_cases may).1 (by rfl) (.dialing _)) rfl rfl rfl rfl
      (fun h => nomatch h) (by simp [Phase.shown])
  | claim phase =>
    exact .advance (moves_moveTo hc phase (by rfl) (.joining _)) rfl rfl rfl rfl (fun h => nomatch h)
      (fun _ he => nomatch he)
  | noTransport may => exact turn_finish hc rfl rfl rfl (early (mayConnect_cases may).1 rfl) rfl
  | refused phase | lapse phase | send phase | unsent _ phase | vacant phase =>
    exact turn_finish hc (by rfl) rfl rfl (early phase rfl) rfl
  | join phase _ reports => exact turn_finish hc rfl rfl rfl (early phase rfl) (isAnswer_of_report reports)
  | shut phase =>
    exact turn_finish hc (callers_cancelSlot s) (pending_cancelSlot s) (drawn_cancelSlot s)
      (early phase rfl) rfl
  | register phase => exact .register (moves_moveTo hc phase (by rfl) _) rfl rfl rfl rfl
  | queue phase => exact .enqueue (moves_moveTo hc phase (by rfl) _) rfl rfl
  | @fail _ x e _ phase =>
    rcases phase with phase | ⟨phase, unanswered⟩
    · exact .drop (moves_moveTo hc phase rfl _) (.inl rfl) rfl rfl
    · exact .drop (moves_moveTo hc phase rfl _) (.inr ⟨rfl, unanswered⟩) rfl rfl
  | answer phase handed => exact .answer (moves_moveTo hc phase rfl _) handed rfl rfl
  | withdraw phase => exact .withdraw (moves_moveTo hc phase (by rfl) _) rfl rfl

end

/-! ## Connections -/

/-- What is left to the callback is what it is given. -/
theorem callBack_of_delivery {m : Message} {d : Delivery} (taker : d.taker = none)
    (callback : d.callback = s.callback) (passed : d.passed = m) :
    s.callBack m = d.left.map fun c => .calledBack c.1 c.2 := by
  unfold State.callBack Delivery.left
  rw [taker, callback, passed]
  cases s.callback <;> rfl

theorem waiter?_cases {m : Message} {key : String} (h : s.waiter? m = some (key, i)) :
    ∃ wire, m.isAnswer = true ∧ m.id? = some wire ∧ key = wire.key ∧
      s.pending.find? key = some i := by
  unfold State.waiter? at h
  split at h
  · next hm =>
    split at h
    · next wire hid =>
      obtain ⟨j, hj, h⟩ := Option.map_eq_some_iff.mp h
      cases h
      exact ⟨wire, hm, hid, rfl, hj⟩
    · cases h
  · cases h

section
variable {m : Message} {key : String} (hw : s.waiter? m = some (key, i))
include hw

theorem delivery_of_waiter (hc : s.callers[i]? = some c) : s.delivery k m =
    { link := k, message := m, waiter := some i
      taker := if c.phase.listens then some i else none
      queued := c.phase.isAwaiting
      passed := ((c.request.id?).map fun id => m.withId id).getD m
      callback := s.callback } := by
  simp only [State.delivery, State.waiting?, hw, Option.bind_some, hc, Option.map_some]

theorem deliver_of_listens (hc : s.callers[i]? = some c) (h : c.phase.listens = true) : s.deliver m =
    ({ s with pending := s.pending.erase key }.moveTo i
      (c.phase.hand (((c.request.id?).map fun id => m.withId id).getD m)), []) := by
  simp only [State.deliver, hw, hc]
  cases hp : c.phase with
  | enqueuing x | awaiting x => cases c.request.id? <;> rfl
  | _ =>
    rw [hp] at h
    cases h

theorem deliver_of_deaf (hc : s.callers[i]? = some c) (h : c.phase.listens = false) : s.deliver m =
    ({ s with pending := s.pending.erase key },
      s.callBack (((c.request.id?).map fun id => m.withId id).getD m)) := by
  simp only [State.deliver, hw, hc]
  cases hp : c.phase with
  | enqueuing x | awaiting x =>
    rw [hp] at h
    cases h
  | _ => cases c.request.id? <;> rfl

end

/-- A client delivers what a connection has just read. -/
theorem turn_deliver {m : Message} {f : Link → Link} (h : (s.updateLink k f).deliver m = (t, es)) :
    Turn u s t es [s.delivery k m] [] := by
  cases hw : s.waiter? m with
  | none =>
    have hd : s.delivery k m = { link := k, message := m, passed := m, callback := s.callback } := by
      simp only [State.delivery, State.waiting?, hw, Option.bind_none]
    rw [State.deliver, show (s.updateLink k f).waiter? m = none from hw] at h
    cases h
    rw [callBack_of_delivery (d := s.delivery k m) (by rw [hd]) (by rw [hd]; rfl) (by rw [hd])]
    exact .pass (fun _ => rfl) (by rw [hd]) (by rw [hd]) (by rw [hd]) rfl (.inl rfl)
  | some w =>
    obtain ⟨key, i⟩ := w
    obtain ⟨wire, answer, id, rfl, pending⟩ := waiter?_cases hw
    have hw' : (s.updateLink k f).waiter? m = some (wire.key, i) := hw
    cases hc : s.callers[i]? with
    | none =>
      have hd : s.delivery k m = { link := k, message := m, passed := m, callback := s.callback } := by
        simp only [State.delivery, State.waiting?, hw, Option.bind_some, hc, Option.map_none]
      have hseat : s.seat? i = none := by rw [State.seat?, hc, Option.map_none]
      simp only [State.deliver, hw', show (s.updateLink k f).callers[i]? = none from hc] at h
      cases h
      rw [callBack_of_delivery (d := s.delivery k m) (by rw [hd]) (by rw [hd]; rfl) (by rw [hd])]
      exact .pass (fun _ => rfl) (by rw [hd]) (by rw [hd]) (by rw [hd]) rfl
        (.inr ⟨wire.key, i, pending, hseat, rfl⟩)
    | some c =>
      have hd := delivery_of_waiter (k := k) hw hc
      have found : Matches s (s.delivery k m) i c.request wire := by
        rw [hd]
        exact ⟨answer, id, pending, rfl, rfl⟩
      cases hl : c.phase.listens with
      | true =>
        rw [deliver_of_listens hw' hc hl] at h
        cases h
        refine .hand (q := c.phase) ?_ found hl (by rw [hd, hl]; rfl) (by rw [hd]) rfl rfl
        rw [hd]
        exact moves_moveTo hc rfl (by rfl) _
      | false =>
        rw [deliver_of_deaf hw' hc hl] at h
        cases h
        have taker : (s.delivery k m).taker = none := by
          rw [hd, hl]
          rfl
        rw [callBack_of_delivery (d := s.delivery k m) taker (by rw [hd]; rfl) (by rw [hd])]
        exact .miss (seat?_of_getElem? hc) found hl (fun _ => rfl) taker rfl rfl

theorem delivering_of_reads (hl : s.links[k]? = some l) (b : LinkAction) :
    delivering s (.link k b) = (l.reads b).filterMap fun r => r.message?.map (s.delivery k) := by
  simp [delivering, reading, State.ofLink, hl, List.filterMap_map, Function.comp_def]

theorem turn_of_linkStep {b : LinkAction} (hl : s.links[k]? = some l) (h : LinkStep s k l b t es) :
    Turn u s t es (delivering s (.link k b)) [] := by
  rw [delivering_of_reads hl]
  cases h with
  | sends _ half =>
    cases half with
    | write writing =>
      refine .aside (fun _ => rfl) rfl rfl (by simp [Event.isAside]) fun k' m' hm => ?_
      cases List.mem_singleton.mp hm
      simp [State.outbound, State.ofLink, hl, Link.outbound, Sender.inHand, writing]
    | take | writeFault | abort | quit => exact .aside (fun _ => rfl) rfl rfl (by simp) (by simp)
  | receives _ half keeps =>
    cases half with
    | clear => exact absurd rfl keeps
    | skip reading next | fault reading next =>
      simp only [Link.reads, reading, next]
      exact .aside (fun _ => rfl) rfl rfl (by simp) (by simp)
    | stop | cancel | joinSender | hangUp =>
      exact .aside (fun _ => rfl) rfl rfl (by simp [Event.isAside]) (by simp)
  | clears => exact .clear (fun _ => rfl) rfl rfl
  | delivers _ half _ delivered =>
    cases half with
    | read reading next | crash reading next =>
      simp only [Link.reads, reading, next]
      exact turn_deliver delivered

/-! ## Steps -/

theorem seat?_add (r : Request) (j : Nat) :
    (s.add { request := r }).seat? j =
      if j = s.callers.length then some (r, .waiting) else s.seat? j := by
  simp only [State.seat?, State.add, List.getElem?_append, List.getElem?_singleton]
  by_cases hlt : j < s.callers.length
  · simp [hlt, Nat.ne_of_lt hlt]
  · by_cases hj : j = s.callers.length
    · simp [hj]
    · have hsub : j - s.callers.length ≠ 0 := by omega
      simp [hlt, hj, hsub]

theorem seat?_length : s.seat? s.callers.length = none := by simp [State.seat?]

theorem turn_of_start {r : Request} (h : s.start u r = (t, es)) :
    Turn u s t es [] [s.admitted u r] := by
  cases r with
  | call m headers =>
    simp only [State.start] at h
    cases hm : m.isRequest with
    | false =>
      rw [hm] at h
      cases h
      have hc : (s.add { request := .call m headers }).callers[s.callers.length]? =
          some { request := .call m headers } := List.getElem?_concat_length
      have moves := moves_moveTo hc rfl rfl (.finished (.failed .notRequest))
      have hr : s.admitted u (.call m headers) = .call m headers := by simp [State.admitted, hm]
      rw [hr]
      refine .refuse (fun j => ?_) rfl rfl
      rw [moves.after j, seat?_add]
      split <;> rfl
    | true =>
      cases hblank : State.isBlankId m.id? with
      | true =>
        rw [hm, hblank] at h
        cases h
        have hr : s.admitted u (.call m headers) =
            .call (m.withId (.text (u.freshId s.drawn))) headers := by
          simp [State.admitted, hm, hblank]
        rw [hr]
        refine .enter (seat?_add _) rfl (Nat.le_succ _) ?_
        rintro _ _ ⟨⟩
        rw [Message.isRequest_withId, hm]
      | false =>
        rw [hm, hblank] at h
        cases h
        have hr : s.admitted u (.call m headers) = .call m headers := by
          simp [State.admitted, hblank]
        rw [hr]
        refine .enter (seat?_add _) rfl (Nat.le_refl _) ?_
        rintro _ _ ⟨⟩
        exact hm
  | connect _ | send _ | wait | close =>
    cases h
    exact .enter (seat?_add _) rfl (Nat.le_refl _) fun _ _ hr => by cases hr

theorem turn_of_step {a : Action} (h : step u s a = some (t, es)) :
    Turn u s t es (delivering s a) (admits u s a) := by
  cases a with
  | start r => exact turn_of_start (Option.some.inj h)
  | cancel i =>
    cases h
    refine .aside (fun j => ?_) rfl rfl (by simp) (by simp)
    simp only [State.seat?, List.getElem?_modify]
    split <;> cases s.callers[j]? <;> rfl
  | setHeaders _ | setCallback _ | arrive _ _ | pass _ =>
    cases h
    exact .aside (fun _ => rfl) rfl rfl (by simp) (by simp)
  | discard =>
    cases h
    unfold State.cancelSlot
    split <;> exact .aside (fun _ => rfl) rfl rfl (by simp) (by simp)
  | caller i a =>
    obtain ⟨c, hc, taken⟩ := taken_of_step h
    exact turn_of_taken hc taken
  | link k a =>
    obtain ⟨l, hl, h⟩ := linkStep_of_step h
    exact turn_of_linkStep hl h

end Switchboard.Streaming
