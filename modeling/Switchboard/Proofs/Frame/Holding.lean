-- SUMMARY: What a decoder still holds of its stream, for either framing and for any tail.
import Switchboard.Proofs.Frame.Framing

/-!
# What a decoder holds

A decoder may be asked what it holds of a stream, whatever that is, if a certain tail
is to come: up to the end of the stream, or so far. `FrameDecoder.decode_cases` says
that one call hands out the first of what is held, for every tail at once, or finds
nothing for now; `FrameDecoder.decodeEnd_cases` says the same of the calls at the end.
-/

namespace Switchboard

/-- How much of a stream is asked for: what it carries with its end, or what it has shown so far. -/
inductive Extent where
  | whole
  | soFar
deriving DecidableEq, Repr

namespace Extent

/-- What a stream of lines carries. -/
def lines : Extent → Nat → Octets → List (Except FrameError Message)
  | .whole => Lines.outcomes
  | .soFar => Lines.outcomesSoFar

/-- What a stream of gRPC frames carries. -/
def grpc : Extent → Nat → Octets → List (Except FrameError Message)
  | .whole => Grpc.outcomes
  | .soFar => Grpc.outcomesSoFar

theorem segmental (x : Extent) : Lines.Segmental x.lines := by
  cases x with
  | whole => exact Lines.segmental_outcomes
  | soFar => exact Lines.segmental_outcomesSoFar

theorem framed (x : Extent) : Grpc.Framed x.grpc := by
  cases x with
  | whole => exact Grpc.framed_outcomes
  | soFar => exact Grpc.framed_outcomesSoFar

end Extent

/-- What a stream carries in its framing. -/
def Framing.carries (limit : Nat) (x : Extent) (stream : Octets) : Framing → List (Except FrameError Message)
  | .lines => x.lines limit stream
  | .grpc => x.grpc limit stream

namespace Decoding

variable {δ : Type} {c : Decoding δ} {a : Extent → Account δ} {rests : δ → Prop} {d : δ}

/-- What one call has given of what a decoder holds, for every tail at once. -/
inductive Gives (a : Extent → Account δ) (rests : δ → Prop) (d : δ) :
    δ × Except FrameError (Option Message) → Prop where
  | message {d' : δ} {m : Message} : (∀ x, (a x).sound d') →
      (∀ x tail, (a x).owed d tail = .ok m :: (a x).owed d' tail) → Gives a rests d (d', .ok (some m))
  | error {d' : δ} {e : FrameError} :
      (∀ x tail, ∃ rs, (a x).owed d tail = .error e :: rs) → Gives a rests d (d', .error e)
  | nothing {d' : δ} : (∀ x, (a x).sound d') → (∀ x tail, (a x).owed d' tail = (a x).owed d tail) →
      rests d' → Gives a rests d (d', .ok none)

theorem Call.gives (h : ∀ x tail, c.Call (a x) rests tail d (c.decode d)) : Gives a rests d (c.decode d) := by
  generalize c.decode d = r at h
  obtain ⟨d', e | _ | m⟩ := r
  · refine .error fun x tail => ?_
    cases h x tail with
    | error _ _ howed => exact ⟨_, howed⟩
    | halt _ howed => exact ⟨_, howed⟩
  · have hrests : rests d' := by
      cases h .soFar [] with
      | nothing _ _ hrests => exact hrests
    refine .nothing (fun x => ?_) (fun x tail => ?_) hrests
    · cases h x [] with
      | nothing hsound => exact hsound
    · cases h x tail with
      | nothing _ howed => exact howed
  · refine .message (fun x => ?_) fun x tail => ?_
    · cases h x [] with
      | message hsound => exact hsound
    · cases h x tail with
      | message _ howed => exact howed

/-- What one call at the end of the stream has given of what a decoder holds. -/
inductive GivesLast (a : Account δ) (d : δ) : δ × Except FrameError (Option Message) → Prop where
  | message {d' : δ} {m : Message} : a.sound d' → a.owed d [] = .ok m :: a.owed d' [] →
      GivesLast a d (d', .ok (some m))
  | error {d' : δ} {e : FrameError} {rs : List (Except FrameError Message)} :
      a.owed d [] = .error e :: rs → GivesLast a d (d', .error e)
  | nothing {d' : δ} : a.owed d [] = [] → GivesLast a d (d', .ok none)

theorem Settles.givesLast {a : Account δ} (h : c.Settles a) (hd : a.sound d) :
    GivesLast a d (c.decodeEnd d) := by
  have hcall := h d hd
  generalize c.decodeEnd d = r at hcall
  cases hcall with
  | nothing _ howed hnone => exact .nothing (howed.symm.trans hnone)
  | message hsound howed => exact .message hsound howed
  | error _ _ howed => exact .error howed
  | halt _ howed => exact .error howed

end Decoding

namespace FrameDecoder

/-- What the decoder holds, if a certain tail is to come. -/
def owed (x : Extent) (tail : Octets) : FrameDecoder → List (Except FrameError Message)
  | .lines d => (Lines.Decoder.account x.lines d.limit).owed d tail
  | .grpc d => (Grpc.Decoder.account x.grpc d.limit).owed d tail

def Sound : FrameDecoder → Prop
  | .lines d => d.Sound
  | .grpc _ => True

@[simp]
theorem feed_nil (d : FrameDecoder) : d.feed [] = d := by
  cases d with
  | lines d => simp [feed, Lines.Decoder.feed]
  | grpc d => simp [feed, Grpc.Decoder.feed]

@[simp]
theorem feed_feed (d : FrameDecoder) (s t : Octets) : (d.feed s).feed t = d.feed (s ++ t) := by
  cases d with
  | lines d => simp [feed, Lines.Decoder.feed]
  | grpc d => simp [feed, Grpc.Decoder.feed]

theorem owed_feed (x : Extent) (tail s : Octets) (d : FrameDecoder) :
    (d.feed s).owed x tail = d.owed x (s ++ tail) := by
  cases d with
  | lines d => exact (Lines.Decoder.keeps x.segmental d.limit).owed_feed d s tail
  | grpc d => exact (Grpc.Decoder.keeps x.framed d.limit).owed_feed d s tail

theorem Sound.feed {d : FrameDecoder} (h : d.Sound) (s : Octets) : (d.feed s).Sound := by
  cases d with
  | lines d => exact Lines.Decoder.Sound.feed h s
  | grpc d => trivial

theorem sound_decoder (f : Framing) (limit : Nat) : (f.decoder limit).Sound := by
  cases f with
  | lines => exact Lines.Decoder.sound_of_unscanned rfl
  | grpc => trivial

/-- A new decoder holds what the stream carries. -/
theorem owed_decoder (f : Framing) (limit : Nat) (x : Extent) (stream : Octets) :
    (f.decoder limit).owed x stream = f.carries limit x stream := by
  cases f with
  | lines => rfl
  | grpc => rfl

/-- A call hands out the first of what the decoder holds; if it finds nothing, then nothing has been
shown that was not handed out. -/
theorem decode_cases {d : FrameDecoder} (h : d.Sound) :
    (∃ m d', d.decode = (d', .ok (some m)) ∧ d'.Sound ∧
      ∀ x tail, d.owed x tail = .ok m :: d'.owed x tail) ∨
    (∃ e d', d.decode = (d', .error e) ∧ ∀ x tail, ∃ rs, d.owed x tail = .error e :: rs) ∨
    (∃ d', d.decode = (d', .ok none) ∧ d'.Sound ∧ (∀ x tail, d'.owed x tail = d.owed x tail) ∧
      d'.owed .soFar [] = []) := by
  cases d with
  | lines d =>
    have hgives := Decoding.Call.gives (d := d) fun x tail =>
      (Lines.Decoder.keeps x.segmental d.limit).decode tail d ⟨rfl, h⟩
    generalize hr : Lines.Decoder.decoding.decode d = r at hgives
    have hdecode : (FrameDecoder.lines d).decode = (.lines r.1, r.2) := by rw [← hr]; rfl
    cases hgives with
    | @message d' m hsound howed =>
      have hlimit := (hsound .soFar).1
      refine .inl ⟨m, .lines d', hdecode, (hsound .soFar).2, fun x tail => ?_⟩
      exact (howed x tail).trans (by simp only [owed, hlimit])
    | @error d' e howed => exact .inr (.inl ⟨e, .lines d', hdecode, howed⟩)
    | @nothing d' hsound howed hrests =>
      have hlimit := (hsound .soFar).1
      refine .inr (.inr ⟨.lines d', hdecode, (hsound .soFar).2, fun x tail => ?_, hrests.outcomesSoFar_ahead⟩)
      exact Eq.trans (by simp only [owed, hlimit]) (howed x tail)
  | grpc d =>
    have hgives := Decoding.Call.gives (d := d) fun x tail =>
      (Grpc.Decoder.keeps x.framed d.limit).decode tail d rfl
    generalize hr : Grpc.Decoder.decoding.decode d = r at hgives
    have hdecode : (FrameDecoder.grpc d).decode = (.grpc r.1, r.2) := by rw [← hr]; rfl
    cases hgives with
    | @message d' m hsound howed =>
      have hlimit : d'.limit = d.limit := hsound .soFar
      refine .inl ⟨m, .grpc d', hdecode, trivial, fun x tail => ?_⟩
      exact (howed x tail).trans (by simp only [owed, hlimit])
    | @error d' e howed => exact .inr (.inl ⟨e, .grpc d', hdecode, howed⟩)
    | @nothing d' hsound howed hrests =>
      have hlimit : d'.limit = d.limit := hsound .soFar
      refine .inr (.inr ⟨.grpc d', hdecode, trivial, fun x tail => ?_, ?_⟩)
      · exact Eq.trans (by simp only [owed, hlimit]) (howed x tail)
      · have hempty := Grpc.Incomplete.outcomesSoFar_eq hrests
        rw [← List.append_nil d'.buffer] at hempty
        exact hempty

/-- At the end of the stream a call hands out the first of what the decoder holds, until it holds
nothing. -/
theorem decodeEnd_cases {d : FrameDecoder} (h : d.Sound) :
    (∃ m d', d.decodeEnd = (d', .ok (some m)) ∧ d'.Sound ∧
      d.owed .whole [] = .ok m :: d'.owed .whole []) ∨
    (∃ e d' rs, d.decodeEnd = (d', .error e) ∧ d.owed .whole [] = .error e :: rs) ∨
    (∃ d', d.decodeEnd = (d', .ok none) ∧ d.owed .whole [] = []) := by
  cases d with
  | lines d =>
    have hgives := (Lines.Decoder.settles d.limit).givesLast ⟨rfl, h⟩
    generalize hr : Lines.Decoder.decoding.decodeEnd d = r at hgives
    have hdecode : (FrameDecoder.lines d).decodeEnd = (.lines r.1, r.2) := by rw [← hr]; rfl
    cases hgives with
    | @message d' m hsound howed =>
      refine .inl ⟨m, .lines d', hdecode, hsound.2, howed.trans ?_⟩
      simp only [owed, hsound.1]
      rfl
    | @error d' e rs howed => exact .inr (.inl ⟨e, .lines d', rs, hdecode, howed⟩)
    | @nothing d' howed => exact .inr (.inr ⟨.lines d', hdecode, howed⟩)
  | grpc d =>
    have hgives := (Grpc.Decoder.settles d.limit).givesLast (d := d) rfl
    generalize hr : Grpc.Decoder.decoding.decodeEnd d = r at hgives
    have hdecode : (FrameDecoder.grpc d).decodeEnd = (.grpc r.1, r.2) := by rw [← hr]; rfl
    cases hgives with
    | @message d' m hsound howed =>
      have hlimit : d'.limit = d.limit := hsound
      refine .inl ⟨m, .grpc d', hdecode, trivial, howed.trans ?_⟩
      simp only [owed, hlimit]
      rfl
    | @error d' e rs howed => exact .inr (.inl ⟨e, .grpc d', rs, hdecode, howed⟩)
    | @nothing d' howed => exact .inr (.inr ⟨.grpc d', hdecode, howed⟩)

end FrameDecoder

end Switchboard
