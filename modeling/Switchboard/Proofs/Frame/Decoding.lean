-- SUMMARY: Decoding a stream chunk by chunk, against what the whole stream carries.
import Switchboard.Frame.Error

/-!
# Decoding chunk by chunk

A stream may be cut into chunks anywhere. Each chunk is fed to a decoder, which is
then called until it gives nothing more; when the stream has ended it is called so
once more. `Decoding.Reads` says what all these calls give, in order.

This is compared with what the stream carries as a whole. An `Account` says what a
decoder has yet to give if a certain tail is to come. If each call gives the first of
what is owed and leaves the rest (`Decoding.Keeps`), and takes some of a work that is
not without end, then the calls end and give what was owed at the start, so the
chunks do not show (`Decoding.Keeps.reads_iff`).
-/

namespace Switchboard

/-- A way to decode a stream that arrives in chunks. -/
structure Decoding (δ : Type) where
  feed : δ → Octets → δ
  decode : δ → δ × Except FrameError (Option Message)
  /-- Decodes when nothing more will arrive. -/
  decodeEnd : δ → δ × Except FrameError (Option Message)
  /-- After this error nothing more is asked of the decoder. -/
  halts : FrameError → Bool

namespace Decoding

variable {δ : Type}

/-! ## Calls -/

/-- Calls of `next` until it gives nothing more or an error halts the decoder: what they give,
whether they were halted, and the decoder that they leave. -/
inductive Drains (c : Decoding δ) (next : δ → δ × Except FrameError (Option Message)) :
    δ → List (Except FrameError Message) → Bool → δ → Prop
  | nothing {d d'} (call : next d = (d', .ok none)) : Drains c next d [] false d'
  | message {d d₁ d' m rs halted} (call : next d = (d₁, .ok (some m)))
      (later : Drains c next d₁ rs halted d') : Drains c next d (.ok m :: rs) halted d'
  | error {d d₁ d' e rs halted} (call : next d = (d₁, .error e)) (goes : c.halts e = false)
      (later : Drains c next d₁ rs halted d') : Drains c next d (.error e :: rs) halted d'
  | halt {d d' e} (call : next d = (d', .error e)) (halts : c.halts e = true) :
      Drains c next d [.error e] true d'

/-- Each chunk is fed and followed by calls, until the decoder is halted. -/
inductive Feeds (c : Decoding δ) :
    δ → List Octets → List (Except FrameError Message) → Bool → δ → Prop
  | done {d} : Feeds c d [] [] false d
  | chunk {d d₁ d' s chunks rs rs₁ halted} (drains : c.Drains c.decode (c.feed d s) rs false d₁)
      (later : Feeds c d₁ chunks rs₁ halted d') : Feeds c d (s :: chunks) (rs ++ rs₁) halted d'
  | halt {d d' s chunks rs} (drains : c.Drains c.decode (c.feed d s) rs true d') :
      Feeds c d (s :: chunks) rs true d'

/-- What is given for a whole stream: for its chunks and, if the decoder is not halted by then, for
its end. -/
inductive Reads (c : Decoding δ) (d : δ) (chunks : List Octets) :
    List (Except FrameError Message) → Prop
  | halted {rs d'} (feeds : c.Feeds d chunks rs true d') : Reads c d chunks rs
  | ended {rs rs₁ d₁ d' halted} (feeds : c.Feeds d chunks rs false d₁)
      (rest : c.Drains c.decodeEnd d₁ rs₁ halted d') : Reads c d chunks (rs ++ rs₁)

/-- Feeding and calling, in any order, lead from one decoder to another. -/
inductive Leads (c : Decoding δ) (d : δ) : δ → Prop
  | refl : Leads c d d
  | feed {d'} (s : Octets) (h : Leads c d d') : Leads c d (c.feed d' s)
  | decode {d'} (h : Leads c d d') : Leads c d (c.decode d').1
  | decodeEnd {d'} (h : Leads c d d') : Leads c d (c.decodeEnd d').1

section

variable {c : Decoding δ} {next : δ → δ × Except FrameError (Option Message)} {d d₁ d₂ : δ}
  {chunks : List Octets} {halted₁ halted₂ : Bool} {rs₁ rs₂ : List (Except FrameError Message)}

theorem Drains.unique (h : c.Drains next d rs₁ halted₁ d₁) (h' : c.Drains next d rs₂ halted₂ d₂) :
    rs₁ = rs₂ ∧ halted₁ = halted₂ ∧ d₁ = d₂ := by
  induction h generalizing rs₂ with
  | nothing call =>
    cases h' with
    | nothing call' =>
      cases call.symm.trans call'
      exact ⟨rfl, rfl, rfl⟩
    | message call' | error call' | halt call' => cases call.symm.trans call'
  | message call _ ih =>
    cases h' with
    | message call' later' =>
      cases call.symm.trans call'
      obtain ⟨rfl, rfl, rfl⟩ := ih later'
      exact ⟨rfl, rfl, rfl⟩
    | nothing call' | error call' | halt call' => cases call.symm.trans call'
  | error call goes _ ih =>
    cases h' with
    | error call' _ later' =>
      cases call.symm.trans call'
      obtain ⟨rfl, rfl, rfl⟩ := ih later'
      exact ⟨rfl, rfl, rfl⟩
    | halt call' halts =>
      cases call.symm.trans call'
      rw [goes] at halts
      cases halts
    | nothing call' | message call' => cases call.symm.trans call'
  | halt call halts =>
    cases h' with
    | halt call' =>
      cases call.symm.trans call'
      exact ⟨rfl, rfl, rfl⟩
    | error call' goes =>
      cases call.symm.trans call'
      rw [goes] at halts
      cases halts
    | nothing call' | message call' => cases call.symm.trans call'

theorem Feeds.unique (h : c.Feeds d chunks rs₁ halted₁ d₁) (h' : c.Feeds d chunks rs₂ halted₂ d₂) :
    rs₁ = rs₂ ∧ halted₁ = halted₂ ∧ d₁ = d₂ := by
  induction h generalizing rs₂ with
  | done =>
    cases h'
    exact ⟨rfl, rfl, rfl⟩
  | chunk drains _ ih =>
    cases h' with
    | chunk drains' later' =>
      obtain ⟨rfl, -, rfl⟩ := drains.unique drains'
      obtain ⟨rfl, rfl, rfl⟩ := ih later'
      exact ⟨rfl, rfl, rfl⟩
    | halt drains' => cases (drains.unique drains').2.1
  | halt drains =>
    cases h' with
    | chunk drains' => cases (drains.unique drains').2.1
    | halt drains' =>
      obtain ⟨rfl, -, rfl⟩ := drains.unique drains'
      exact ⟨rfl, rfl, rfl⟩

theorem Drains.eq_false_of_goes (hgoes : ∀ e, c.halts e = false)
    (h : c.Drains next d rs₁ halted₁ d₁) : halted₁ = false := by
  induction h with
  | nothing => rfl
  | message _ _ ih | error _ _ _ ih => exact ih
  | halt _ halts => exact halts.symm.trans (hgoes _)

theorem Feeds.eq_false_of_goes (hgoes : ∀ e, c.halts e = false)
    (h : c.Feeds d chunks rs₁ halted₁ d₁) : halted₁ = false := by
  induction h with
  | done => rfl
  | chunk _ _ ih => exact ih
  | halt drains => exact drains.eq_false_of_goes hgoes

theorem Reads.unique (h : c.Reads d chunks rs₁) (h' : c.Reads d chunks rs₂) : rs₁ = rs₂ := by
  cases h with
  | halted feeds =>
    cases h' with
    | halted feeds' => exact (feeds.unique feeds').1
    | ended feeds' => cases (feeds.unique feeds').2.1
  | ended feeds rest =>
    cases h' with
    | halted feeds' => cases (feeds.unique feeds').2.1
    | ended feeds' rest' =>
      obtain ⟨rfl, -, rfl⟩ := feeds.unique feeds'
      rw [(rest.unique rest').1]

end

/-! ## Accounts -/

/-- What a decoder has yet to give, if a certain tail is to come. -/
structure Account (δ : Type) where
  /-- The states that calls lead to. -/
  sound : δ → Prop
  owed : δ → Octets → List (Except FrameError Message)
  /-- A bound on the calls that give something. -/
  work : δ → Nat

/-- One call has given the first of what is owed and left the rest, or has stopped as it may. -/
inductive Call (c : Decoding δ) (a : Account δ) (stop : δ → Prop) (tail : Octets) (d : δ) :
    δ × Except FrameError (Option Message) → Prop
  | nothing {d'} (sound : a.sound d') (owed : a.owed d' tail = a.owed d tail) (stops : stop d') :
      Call c a stop tail d (d', .ok none)
  | message {d' m} (sound : a.sound d') (owed : a.owed d tail = .ok m :: a.owed d' tail)
      (less : a.work d' < a.work d) : Call c a stop tail d (d', .ok (some m))
  | error {d' e} (goes : c.halts e = false) (sound : a.sound d')
      (owed : a.owed d tail = .error e :: a.owed d' tail) (less : a.work d' < a.work d) :
      Call c a stop tail d (d', .error e)
  | halt {d' e} (halts : c.halts e = true) (owed : a.owed d tail = [.error e]) :
      Call c a stop tail d (d', .error e)

variable {c : Decoding δ} {a : Account δ} {rests stop : δ → Prop} {d d' d₁ : δ} {tail : Octets}
  {next : δ → δ × Except FrameError (Option Message)} {r : δ × Except FrameError (Option Message)}
  {chunks : List Octets} {halted : Bool} {rs rs₁ : List (Except FrameError Message)}
  {ms : List Message}

/-- A call is as good for a decoder that owes the same and has no less work. -/
theorem Call.of_owed_eq (h : c.Call a stop tail d₁ r) (owed : a.owed d tail = a.owed d₁ tail)
    (le : a.work d₁ ≤ a.work d) : c.Call a stop tail d r := by
  cases h with
  | nothing sound h stops => exact .nothing sound (h.trans owed.symm) stops
  | message sound h less => exact .message sound (owed.trans h) (Nat.lt_of_lt_of_le less le)
  | error goes sound h less => exact .error goes sound (owed.trans h) (Nat.lt_of_lt_of_le less le)
  | halt halts h => exact .halt halts (owed.trans h)

/-- What calls have given of what was owed, and what they leave: nothing if they were halted. -/
def Account.Leaves (a : Account δ) (stop : δ → Prop) (tail : Octets)
    (owed rs : List (Except FrameError Message)) : (halted : Bool) → δ → Prop
  | true, _ => owed = rs
  | false, d' => a.sound d' ∧ stop d' ∧ owed = rs ++ a.owed d' tail

theorem Account.Leaves.append {owed : List (Except FrameError Message)}
    (rs₁ : List (Except FrameError Message)) (h : a.Leaves stop tail owed rs halted d') :
    a.Leaves stop tail (rs₁ ++ owed) (rs₁ ++ rs) halted d' := by
  cases halted with
  | true => exact congrArg (rs₁ ++ ·) h
  | false =>
    obtain ⟨sound, stops, howed⟩ := h
    exact ⟨sound, stops, by rw [howed, List.append_assoc]⟩

/-- The calls end, as each that gives something takes some of the work. -/
theorem exists_drains (calls : ∀ d, a.sound d → c.Call a stop tail d (next d)) (hd : a.sound d) :
    ∃ rs halted d', c.Drains next d rs halted d' ∧
      a.Leaves stop tail (a.owed d tail) rs halted d' := by
  induction hwork : a.work d using Nat.strongRecOn generalizing d with
  | _ work ih =>
    generalize hr : next d = r
    cases hr ▸ calls d hd with
    | nothing sound owed stops =>
      exact ⟨_, _, _, .nothing hr, sound, stops, by rw [owed, List.nil_append]⟩
    | @message d₁ m sound owed less =>
      obtain ⟨rs, halted, d', later, leaves⟩ := ih _ (hwork ▸ less) sound rfl
      refine ⟨_, _, _, .message hr later, ?_⟩
      rw [owed]
      exact leaves.append [.ok m]
    | @error d₁ e goes sound owed less =>
      obtain ⟨rs, halted, d', later, leaves⟩ := ih _ (hwork ▸ less) sound rfl
      refine ⟨_, _, _, .error hr goes later, ?_⟩
      rw [owed]
      exact leaves.append [.error e]
    | halt halts owed => exact ⟨_, _, _, .halt hr halts, owed⟩

/-! ## Streams -/

/-- An account that feeding and calling keep. A decoder that gives nothing more rests. -/
structure Keeps (c : Decoding δ) (a : Account δ) (rests : δ → Prop) : Prop where
  feed : ∀ d s, a.sound d → a.sound (c.feed d s)
  owed_feed : ∀ d s tail, a.owed (c.feed d s) tail = a.owed d (s ++ tail)
  decode : ∀ tail d, a.sound d → c.Call a rests tail d (c.decode d)

/-- When the stream has ended, calls go on until nothing is owed. -/
def Settles (c : Decoding δ) (a : Account δ) : Prop :=
  ∀ d, a.sound d → c.Call a (fun d' => a.owed d' [] = []) [] d (c.decodeEnd d)

theorem Keeps.exists_feeds_of_tail (h : c.Keeps a rests) (hd : a.sound d) (hrests : rests d)
    (chunks : List Octets) (tail : Octets) :
    ∃ rs halted d', c.Feeds d chunks rs halted d' ∧
      a.Leaves rests tail (a.owed d (chunks.flatten ++ tail)) rs halted d' := by
  induction chunks generalizing d with
  | nil => exact ⟨[], false, d, .done, hd, hrests, rfl⟩
  | cons s chunks ih =>
    obtain ⟨rs, halted, d₁, drains, leaves⟩ :=
      exists_drains (h.decode (chunks.flatten ++ tail)) (h.feed d s hd)
    rw [h.owed_feed] at leaves
    rw [List.flatten_cons, List.append_assoc]
    cases halted with
    | true => exact ⟨rs, true, d₁, .halt drains, leaves⟩
    | false =>
      obtain ⟨sound, rests, howed⟩ := leaves
      obtain ⟨rs₁, halted, d', later, leaves⟩ := ih sound rests
      rw [howed]
      exact ⟨_, halted, d', .chunk drains later, leaves.append rs⟩

/-- What the chunks gave and the decoder they leave are right for any tail that may come. -/
theorem Keeps.exists_feeds (h : c.Keeps a rests) (hd : a.sound d) (hrests : rests d)
    (chunks : List Octets) :
    ∃ rs halted d', c.Feeds d chunks rs halted d' ∧
      ∀ tail, a.Leaves rests tail (a.owed d (chunks.flatten ++ tail)) rs halted d' := by
  obtain ⟨rs, halted, d', feeds, -⟩ := h.exists_feeds_of_tail hd hrests chunks []
  refine ⟨rs, halted, d', feeds, fun tail => ?_⟩
  obtain ⟨_, _, _, feeds', leaves⟩ := h.exists_feeds_of_tail hd hrests chunks tail
  obtain ⟨rfl, rfl, rfl⟩ := feeds.unique feeds'
  exact leaves

/-- However a stream is cut, what is given for it is what was owed for it at the start. -/
theorem Keeps.reads_iff (h : c.Keeps a rests) (hend : c.Settles a) (hd : a.sound d)
    (hrests : rests d) : c.Reads d chunks rs ↔ rs = a.owed d chunks.flatten := by
  have hreads : c.Reads d chunks (a.owed d chunks.flatten) := by
    obtain ⟨rs, halted, d₁, feeds, leaves⟩ := h.exists_feeds hd hrests chunks
    replace leaves := leaves []
    rw [List.append_nil] at leaves
    cases halted with
    | true => exact (show _ = _ from leaves) ▸ .halted feeds
    | false =>
      obtain ⟨sound, -, howed⟩ := leaves
      obtain ⟨rs₁, halted, d', rest, leaves⟩ := exists_drains hend sound
      have hrest : a.owed d₁ [] = rs₁ := by
        cases halted with
        | true => exact leaves
        | false =>
          obtain ⟨-, hnone, howed⟩ := leaves
          rwa [hnone, List.append_nil] at howed
      rw [howed, hrest]
      exact .ended feeds rest
  constructor
  · exact fun h => h.unique hreads
  · rintro rfl
    exact hreads

/-! ## Messages alone -/

/-- The messages are owed, and no error. -/
def Account.Awaits (a : Account δ) (tail : Octets) (ms : List Message) (d : δ) : Prop :=
  a.sound d ∧ a.owed d tail = ms.map .ok

theorem Call.cases_of_awaits (h : c.Call a stop tail d r) (hms : a.Awaits tail ms d) :
    (∃ m ms' d', ms = m :: ms' ∧ r = (d', .ok (some m)) ∧ a.Awaits tail ms' d') ∨
    (∃ d', r = (d', .ok none) ∧ a.Awaits tail ms d' ∧ stop d') := by
  obtain ⟨-, hms⟩ := hms
  cases h with
  | nothing sound owed stops => exact .inr ⟨_, rfl, ⟨sound, owed.trans hms⟩, stops⟩
  | message sound owed =>
    cases ms with
    | nil => cases owed.symm.trans hms
    | cons m' ms =>
      obtain ⟨hm, hrest⟩ := List.cons.inj (owed.symm.trans hms)
      cases hm
      exact .inl ⟨_, ms, _, rfl, rfl, sound, hrest⟩
  | error _ _ owed | halt _ owed => cases ms <;> cases owed.symm.trans hms

theorem Keeps.awaits_feed (h : c.Keeps a rests) {s : Octets} (hms : a.Awaits (s ++ tail) ms d) :
    a.Awaits tail ms (c.feed d s) :=
  ⟨h.feed d s hms.1, (h.owed_feed d s tail).trans hms.2⟩

theorem Keeps.decode_cases (h : c.Keeps a rests) (hms : a.Awaits tail ms d) :
    (∃ m ms' d', ms = m :: ms' ∧ c.decode d = (d', .ok (some m)) ∧ a.Awaits tail ms' d') ∨
    (∃ d', c.decode d = (d', .ok none) ∧ a.Awaits tail ms d') :=
  ((h.decode tail d hms.1).cases_of_awaits hms).imp_right
    fun ⟨d', hd, hawaits, _⟩ => ⟨d', hd, hawaits⟩

theorem Settles.decodeEnd_cases (h : c.Settles a) (hms : a.Awaits [] ms d) :
    (∃ m ms' d', ms = m :: ms' ∧ c.decodeEnd d = (d', .ok (some m)) ∧ a.Awaits [] ms' d') ∨
    (ms = [] ∧ ∃ d', c.decodeEnd d = (d', .ok none) ∧ a.Awaits [] [] d') := by
  rcases (h d hms.1).cases_of_awaits hms with hmessage | ⟨d', hd, hawaits, hnone⟩
  · exact .inl hmessage
  · have hms : ms = [] := List.map_eq_nil_iff.mp (hawaits.2.symm.trans hnone)
    exact .inr ⟨hms, d', hd, hms ▸ hawaits⟩

end Decoding

end Switchboard
