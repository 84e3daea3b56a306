-- SUMMARY: What an envelope holds, field by field.
import Switchboard.Frame.Envelope
import Switchboard.Proofs.Except

/-!
# Envelopes, field by field

`Fields` reads the octets of an envelope as fields, one behind the other, and keeps the
values of those that hold a message. An envelope can be decoded if and only if it is made of
fields, and it holds the last of these values (`decode_eq_ok_iff`). Every field has a key,
which takes an octet at least, so the decoder gets to the end of the octets before its fuel
is spent.
-/

namespace Switchboard.Envelope

/-- The octets are fields, of which those with tag 1 have these values. -/
inductive Fields : Octets → List Octets → Prop where
  | nil : Fields [] []
  | message {s t value rest : Octets} {values : List Octets} :
      key s = .ok ((1, .lengthDelimited), t) → varint t = .ok (value.length, value ++ rest) →
      Fields rest values → Fields s (value :: values)
  | other {s t rest : Octets} {tag : Nat} {type : WireType} {values : List Octets} :
      key s = .ok ((tag, type), t) → tag ≠ 1 →
      skipValue (t.length + 1) maxGroups tag type t = .ok rest →
      Fields rest values → Fields s values

variable {s t rest body found : Octets} {n tag fuel groups : Nat} {type : WireType}

/-! ## What is read is taken -/

theorem length_of_decodeGroups (h : Varint.decodeGroups groups s = some (n, rest)) :
    rest.length < s.length := by
  induction groups generalizing s n with
  | zero => cases h
  | succ groups ih =>
    cases s with
    | nil => cases h
    | cons b s =>
      rw [Varint.decodeGroups] at h
      split at h
      · split at h
        · cases h
        · cases h
          exact Nat.lt_succ_self _
      · split at h
        · next _ _ hrest =>
          cases h
          exact Nat.lt_succ_of_lt (ih hrest)
        · cases h

theorem length_of_varint (h : varint s = .ok (n, rest)) : rest.length < s.length := by
  unfold varint at h
  split at h
  · next r hr =>
    cases h
    exact length_of_decodeGroups hr
  · cases h

theorem length_of_key {k : Nat × WireType} (h : key s = .ok (k, rest)) : rest.length < s.length := by
  obtain ⟨⟨n, t⟩, hvarint, h⟩ := bind_eq_ok.mp h
  have taken := length_of_varint hvarint
  dsimp only at h
  split at h
  · cases h
  · split at h
    · cases h
    · split at h
      · cases h
      · cases h
        exact taken

theorem length_of_advance (h : advance n s = .ok rest) : rest.length ≤ s.length := by
  unfold advance at h
  split at h
  · cases h
  · cases h
    rw [List.length_drop]
    exact Nat.sub_le _ _

theorem length_of_skipValue
    (hgroup : ∀ groups tag s rest, skipGroup fuel groups tag s = .ok rest → rest.length ≤ s.length)
    (h : skipValue fuel groups tag type s = .ok rest) : rest.length ≤ s.length := by
  cases groups with
  | zero =>
    rw [skipValue] at h
    cases h
  | succ groups =>
    cases type with
    | varint =>
      simp only [skipValue] at h
      obtain ⟨⟨n, t⟩, hvarint, h⟩ := bind_eq_ok.mp h
      cases h
      exact Nat.le_of_lt (length_of_varint hvarint)
    | lengthDelimited =>
      simp only [skipValue] at h
      obtain ⟨⟨n, t⟩, hvarint, h⟩ := bind_eq_ok.mp h
      exact Nat.le_trans (length_of_advance h) (Nat.le_of_lt (length_of_varint hvarint))
    | thirtyTwoBit | sixtyFourBit =>
      rw [skipValue] at h
      exact length_of_advance h
    | startGroup =>
      rw [skipValue] at h
      exact hgroup _ _ _ _ h
    | endGroup =>
      rw [skipValue] at h
      cases h

theorem length_of_skipGroup (h : skipGroup fuel groups tag s = .ok rest) : rest.length ≤ s.length := by
  induction fuel generalizing groups tag s rest with
  | zero =>
    rw [skipGroup] at h
    cases h
  | succ fuel ih =>
    rw [skipGroup] at h
    obtain ⟨⟨⟨inner, type⟩, t⟩, hkey, h⟩ := bind_eq_ok.mp h
    have taken := Nat.le_of_lt (length_of_key hkey)
    cases type with
    | endGroup =>
      simp only at h
      split at h
      · cases h
        exact taken
      · cases h
    | _ =>
      obtain ⟨u, hvalue, h⟩ := bind_eq_ok.mp h
      have skipped := length_of_skipValue (fun _ _ _ _ => ih) hvalue
      exact Nat.le_trans (ih h) (Nat.le_trans skipped taken)

theorem body_eq_ok_iff {value : Octets} : Envelope.body type s = .ok (value, rest) ↔
    type = .lengthDelimited ∧ varint s = .ok (value.length, value ++ rest) := by
  unfold Envelope.body
  constructor
  · intro h
    split at h
    · cases h
    next htype =>
    obtain ⟨⟨n, t⟩, hvarint, h⟩ := bind_eq_ok.mp h
    dsimp only at h
    split at h
    · cases h
    next hlength =>
    cases h
    refine ⟨Decidable.not_not.mp htype, ?_⟩
    rw [hvarint, List.take_append_drop, List.length_take_of_le (Nat.le_of_not_lt hlength)]
  · rintro ⟨rfl, hvarint⟩
    simp [hvarint, bind, Except.bind, pure, Except.pure]

/-! ## Envelopes -/

theorem fields_nil : fields fuel found [] = .ok found := by
  cases fuel <;> rfl

theorem exists_fields (h : fields fuel found s = .ok body) (hfuel : s.length < fuel) :
    ∃ values, Fields s values ∧ body = values.getLastD found := by
  induction fuel generalizing found s with
  | zero => cases hfuel
  | succ fuel ih =>
    by_cases hs : s = []
    · subst hs
      rw [fields_nil] at h
      cases h
      exact ⟨[], .nil, rfl⟩
    · rw [fields] at h
      rotate_left
      · exact hs
      split at h
      · cases h
      · next type t hkey =>
        split at h
        · cases h
        · next value rest hbody =>
          obtain ⟨rfl, hvarint⟩ := body_eq_ok_iff.mp hbody
          have shorter := length_of_key hkey
          have taken := length_of_varint hvarint
          rw [List.length_append] at taken
          obtain ⟨values, hvalues, rfl⟩ := ih h (by omega)
          exact ⟨_, .message hkey hvarint hvalues, List.getLastD_cons.symm⟩
      · next tag type t htag hkey =>
        split at h
        · cases h
        · next rest hskip =>
          have shorter := length_of_key hkey
          have taken := length_of_skipValue (fun _ _ _ _ => length_of_skipGroup) hskip
          obtain ⟨values, hvalues, rfl⟩ := ih h (by omega)
          exact ⟨values, .other hkey htag hskip hvalues, rfl⟩

theorem Fields.decoded {values : List Octets} (h : Fields s values) (hfuel : s.length < fuel) :
    fields fuel found s = .ok (values.getLastD found) := by
  induction h generalizing fuel found with
  | nil => exact fields_nil
  | message hkey hvarint _ ih =>
    have shorter := length_of_key hkey
    have taken := length_of_varint hvarint
    rw [List.length_append] at taken
    cases fuel with
    | zero => cases hfuel
    | succ fuel =>
      rw [fields, hkey]
      · simp only [body_eq_ok_iff.mpr ⟨rfl, hvarint⟩, List.getLastD_cons]
        exact ih (by omega)
      · rintro rfl
        cases hkey
  | other hkey htag hskip _ ih =>
    have shorter := length_of_key hkey
    have taken := length_of_skipValue (fun _ _ _ _ => length_of_skipGroup) hskip
    cases fuel with
    | zero => cases hfuel
    | succ fuel =>
      rw [fields, hkey]
      · split
        · next heq =>
          cases heq
        · next heq =>
          cases heq
          exact absurd rfl htag
        · next heq =>
          cases heq
          rw [hskip]
          exact ih (by omega)
      · rintro rfl
        cases hkey

/-- An envelope can be decoded if and only if it is made of fields. It holds the value of the last
field with tag 1, and nothing if there is none. -/
theorem decode_eq_ok_iff :
    decode s = .ok body ↔ ∃ values, Fields s values ∧ body = values.getLastD [] :=
  ⟨fun h => exists_fields h (Nat.lt_succ_self _), fun ⟨_, hfields, heq⟩ => heq ▸ hfields.decoded (Nat.lt_succ_self _)⟩

end Switchboard.Envelope
