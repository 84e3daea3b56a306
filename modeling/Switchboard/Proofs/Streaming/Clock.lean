-- SUMMARY: Callers keep to what they asked for, the clock goes forward, and extra headers stay until others are set.
import Switchboard.Proofs.Streaming.Book

/-!
# Earlier and later

Whatever becomes of a caller, its request stays what it was, and time only passes.
`State.Precedes` says so of two states of a client, and `precedes_of_step` that each
step leads from one to the other. Neither callers nor connections touch the clock or
the extra headers (`State.setting`): whoever owns the client sets the headers.
-/

namespace Switchboard.Streaming

/-- What a caller has asked for. -/
def State.request? (s : State) (i : Nat) : Option Request := (s.seat? i).map Prod.fst

structure State.Precedes (s t : State) : Prop where
  request : ∀ i r, s.request? i = some r → t.request? i = some r
  now : s.now ≤ t.now

/-- What callers and connections find and leave as it is. -/
def State.setting (s : State) : Nat × Headers := (s.now, s.extraHeaders)

variable {u : Setup} {s t v : State} {i j k : Nat} {c : Caller} {l : Link} {es : List Event}

/-! ## The setting -/

theorem setting_cancelSlot (s : State) : s.cancelSlot.setting = s.setting := by
  rw [cancelSlot_eq]
  rfl

theorem setting_deliver (s : State) (m : Message) : (s.deliver m).1.setting = s.setting := by
  unfold State.deliver
  split
  · rfl
  · dsimp only
    split
    · rfl
    · split <;> rfl

theorem setting_start (u : Setup) (s : State) (r : Request) : (s.start u r).1.setting = s.setting := by
  unfold State.start
  split
  · split
    · rfl
    · split <;> rfl
  · rfl

theorem setting_of_taken {a : CallerAction} (h : Taken u s i c a t es) : t.setting = s.setting := by
  obtain ⟨v, p, fs, h, rfl, -⟩ := h
  cases h with
  | shut => exact setting_cancelSlot s
  | _ => rfl

theorem setting_of_linkStep {a : LinkAction} (h : LinkStep s i l a t es) : t.setting = s.setting := by
  cases h with
  | sends | receives | clears => rfl
  | @delivers _ _ _ f _ m _ _ _ delivered =>
    have kept := setting_deliver (s.updateLink i f) m
    rw [delivered] at kept
    exact kept

/-- What an action makes of the setting. -/
def Action.resets : Action → Nat × Headers → Nat × Headers
  | .pass ms, (now, headers) => (now + ms, headers)
  | .setHeaders headers, (now, _) => (now, headers)
  | _, setting => setting

theorem setting_of_step {a : Action} (h : step u s a = some (t, es)) : t.setting = a.resets s.setting := by
  cases a with
  | caller i a =>
    obtain ⟨c, -, taken⟩ := taken_of_step h
    exact setting_of_taken taken
  | link i a =>
    obtain ⟨l, -, h⟩ := linkStep_of_step h
    exact setting_of_linkStep h
  | start r =>
    obtain rfl : (s.start u r).1 = t := congrArg Prod.fst (Option.some.inj h)
    exact setting_start u s r
  | discard =>
    cases h
    exact setting_cancelSlot s
  | pass | cancel | setHeaders | setCallback | arrive =>
    cases h
    rfl

/-- Time only passes. -/
theorem now_le_of_step {a : Action} (h : step u s a = some (t, es)) : s.now ≤ t.now := by
  have hnow : t.now = (a.resets s.setting).1 := congrArg Prod.fst (setting_of_step h)
  cases a with
  | pass ms => exact hnow ▸ Nat.le_add_right s.now ms
  | _ => exact Nat.le_of_eq hnow.symm

/-! ## Requests -/

theorem request?_of_step {a : Action} {r : Request} (h : step u s a = some (t, es))
    (hr : s.request? i = some r) : t.request? i = some r := by
  have hlt : i < (s.callers.map Caller.request).length := by
    rw [State.request?, ← getElem?_requests] at hr
    exact (List.getElem?_eq_some_iff.mp hr).1
  rw [State.request?, (turn_of_step h).requests, List.getElem?_append_left hlt, getElem?_requests]
  exact hr

theorem request?_start (u : Setup) (s : State) {r : Request} (hr : r.isCall = false) :
    (s.start u r).1.request? s.callers.length = some r := by
  cases r with
  | call => cases hr
  | connect | send | wait | close =>
    simp [State.start, State.request?, State.seat?, State.add]

theorem precedes_of_step {a : Action} (h : step u s a = some (t, es)) : s.Precedes t :=
  ⟨fun _ _ => request?_of_step h, now_le_of_step h⟩

end Switchboard.Streaming
