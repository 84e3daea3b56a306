-- SUMMARY: The reader takes back every text that the writer has quoted.
import Switchboard.Json.Reader
import Switchboard.Json.Writer
import Switchboard.Proofs.Text.Plain

/-!
# Quoted text

Between its quotes a text stands as the UTF-8 form of its characters, some of
them escaped. The reader goes by octets: those of a character that is not escaped
are all above U+001F and none of them is a quote or a backslash, and an escape
comes back as the one octet that it stands for.
-/

namespace Switchboard.Json

/-- The octets between the quotes of a text. -/
def quotedOctets (cs : List Char) : Octets := (cs.flatMap escape).flatMap String.utf8EncodeChar

theorem quotedOctets_append (cs ds : List Char) :
    quotedOctets (cs ++ ds) = quotedOctets cs ++ quotedOctets ds := by
  simp [quotedOctets]

theorem octets_quote (s : String) :
    Text.octets (quote s) = 0x22 :: (quotedOctets s.toList ++ [0x22]) := by
  have hq : Text.octets "\"" = [0x22] := by decide
  simp [quote, Text.octets_append, hq, Text.octets_ofList, quotedOctets]

namespace Reader

open Text

/-! ## Octets that stand for themselves -/

/-- An octet that a string literal may hold as it is. -/
def IsPlain (b : UInt8) : Prop := ascii b ≠ '"' ∧ ascii b ≠ '\\' ∧ ¬b < 0x20

/-- The octets `text` of a string literal stand for `value`, whatever follows. They take as many
steps as they have octets, or fewer. -/
def StandsFor (text value : Octets) : Prop :=
  ∃ n, n ≤ text.length ∧ ∀ fuel s,
    stringOctets (n + fuel) (text ++ s) = (stringOctets fuel s).map fun r => (value ++ r.1, r.2)

theorem StandsFor.nil : StandsFor [] [] := by
  refine ⟨0, Nat.le_refl 0, ?_⟩
  intro fuel s
  rw [Nat.zero_add, List.nil_append]
  cases stringOctets fuel s <;> rfl

theorem StandsFor.append {t u v w : Octets} (h1 : StandsFor t v) (h2 : StandsFor u w) :
    StandsFor (t ++ u) (v ++ w) := by
  obtain ⟨m, hm, h1⟩ := h1
  obtain ⟨n, hn, h2⟩ := h2
  refine ⟨m + n, ?_, ?_⟩
  · rw [List.length_append]
    omega
  · intro fuel s
    rw [Nat.add_assoc, List.append_assoc, h1, h2]
    cases stringOctets fuel s with
    | error e => rfl
    | ok r => simp [Except.map]

theorem StandsFor.plain {bs : Octets} (h : ∀ b ∈ bs, IsPlain b) : StandsFor bs bs := by
  induction bs with
  | nil => exact .nil
  | cons b bs ih =>
    obtain ⟨hquote, hslash, hlow⟩ := h b List.mem_cons_self
    have hb : StandsFor [b] [b] := by
      refine ⟨1, Nat.le_refl 1, ?_⟩
      intro fuel s
      rw [Nat.add_comm, List.singleton_append, stringOctets]
      simp only [hquote, hslash, hlow, if_false]
      cases stringOctets fuel s <;> rfl
    exact hb.append (ih fun c hc => h c (List.mem_cons_of_mem b hc))

theorem StandsFor.escape {t e : Octets} (h : ∀ s, escaped (t ++ s) = .ok (e, s)) :
    StandsFor (0x5c :: t) e := by
  have hquote : ascii 0x5c ≠ '"' := by decide
  have hslash : ascii 0x5c = '\\' := by decide
  refine ⟨1, by simp, ?_⟩
  intro fuel s
  rw [Nat.add_comm, List.cons_append, stringOctets]
  simp only [hslash, if_true, h, bind, Except.bind]
  cases stringOctets fuel s <;> rfl

/-- An octet of a character beyond ASCII stands for itself. -/
theorem isPlain_of_le {b : UInt8} (h : 0x80 ≤ b.toNat) : IsPlain b := by
  have hne : ∀ c : Char, c.toNat < 0x80 → ascii b ≠ c := by
    rintro c hc rfl
    rw [toNat_ascii] at hc
    omega
  refine ⟨hne _ (by decide), hne _ (by decide), ?_⟩
  rw [UInt8.lt_iff_toNat_lt]
  exact Nat.not_lt.mpr (Nat.le_trans (by decide) h)

theorem isPlain_of_mem_utf8EncodeChar {c : Char} (hquote : c ≠ '"') (hslash : c ≠ '\\')
    (hlow : 0x20 ≤ c.toNat) {b : UInt8} (hb : b ∈ String.utf8EncodeChar c) : IsPlain b := by
  by_cases hc : c.toNat < 0x80
  · rw [utf8EncodeChar_of_plain hc, List.mem_singleton] at hb
    subst hb
    refine ⟨?_, ?_, ?_⟩
    · rwa [ascii_ofNat hc]
    · rwa [ascii_ofNat hc]
    · rw [UInt8.lt_iff_toNat_lt, UInt8.toNat_ofNat', Nat.mod_eq_of_lt (by omega)]
      exact Nat.not_lt.mpr hlow
  · exact isPlain_of_le (le_of_mem_utf8EncodeChar (Nat.le_of_not_lt hc) hb)

/-! ## Escapes -/

theorem hexValue?_hexDigit : ∀ n < 16, hexValue? (UInt8.ofNat (hexDigit n).toNat) = some n := by
  decide

theorem hexDigit_lt : ∀ n < 16, (hexDigit n).toNat < 0x80 := by
  decide

theorem escaped_control {n : Nat} (hn : n < 0x20) (s : Octets) :
    escaped (plainOctets ['u', '0', '0', hexDigit (n / 16), hexDigit (n % 16)] ++ s) =
      .ok (String.utf8EncodeChar (Char.ofNat n), s) := by
  have hu : ascii (UInt8.ofNat 'u'.toNat) = 'u' := by decide
  have hzero : hexValue? (UInt8.ofNat '0'.toNat) = some 0 := by decide
  have hhigh := hexValue?_hexDigit (n / 16) (by omega)
  have hlow := hexValue?_hexDigit (n % 16) (by omega)
  have hvalue : ((0 * 16 + 0) * 16 + n / 16) * 16 + n % 16 = n := by omega
  have hsurrogate : ¬(0xdc00 ≤ n ∧ n ≤ 0xdfff) := by omega
  have hbasic : n < 0xd800 ∨ 0xdbff < n := by omega
  simp only [plainOctets_cons, plainOctets_nil, List.cons_append, List.nil_append, escaped, hu,
    unicodeEscape, hexEscape, hzero, hhigh, hlow, hvalue, hsurrogate, hbasic, bind, Except.bind,
    pure, Except.pure, if_true, if_false]

/-- A character comes back from its quoted form. -/
theorem standsFor_char (c : Char) : StandsFor (quotedOctets [c]) (String.utf8EncodeChar c) := by
  rw [quotedOctets, List.flatMap_singleton]
  unfold Json.escape
  split
  · exact .escape fun s => rfl
  · exact .escape fun s => rfl
  · exact .escape fun s => rfl
  · exact .escape fun s => rfl
  · exact .escape fun s => rfl
  · exact .escape fun s => rfl
  · exact .escape fun s => rfl
  · next hquote hslash _ _ _ _ _ =>
    split
    · next hlow =>
      have hhigh := hexDigit_lt (c.toNat / 16) (by omega)
      have hrest := hexDigit_lt (c.toNat % 16) (by omega)
      have htext : ['\\', 'u', '0', '0', hexDigit (c.toNat / 16), hexDigit (c.toNat % 16)].flatMap
          String.utf8EncodeChar =
          0x5c :: plainOctets ['u', '0', '0', hexDigit (c.toNat / 16), hexDigit (c.toNat % 16)] := by
        simp only [List.flatMap_cons, List.flatMap_nil, utf8EncodeChar_of_plain hhigh,
          utf8EncodeChar_of_plain hrest]
        rfl
      rw [htext]
      have h := StandsFor.escape (escaped_control hlow)
      rwa [Char.ofNat_toNat] at h
    · next hlow =>
      rw [List.flatMap_singleton]
      exact .plain fun b hb => isPlain_of_mem_utf8EncodeChar hquote hslash (Nat.le_of_not_lt hlow) hb

theorem standsFor_quoted (cs : List Char) :
    StandsFor (quotedOctets cs) (cs.flatMap String.utf8EncodeChar) := by
  induction cs with
  | nil => exact .nil
  | cons c cs ih =>
    have hc := (standsFor_char c).append ih
    rwa [← quotedOctets_append, List.singleton_append, ← List.flatMap_cons] at hc

/-- The reader takes a quoted text off a document, after the opening quote. -/
theorem string_append (t : String) (rest : Octets) :
    string (quotedOctets t.toList ++ 0x22 :: rest) = .ok (t, rest) := by
  obtain ⟨n, hn, h⟩ := standsFor_quoted t.toList
  have hquote : ascii 0x22 = '"' := by decide
  obtain ⟨k, hk⟩ : ∃ k, (quotedOctets t.toList ++ 0x22 :: rest).length + 1 = n + (k + 1) := by
    refine ⟨(quotedOctets t.toList).length - n + (rest.length + 1), ?_⟩
    rw [List.length_append, List.length_cons]
    omega
  have hoctets : t.toList.flatMap String.utf8EncodeChar = octets t := by
    rw [← octets_ofList, String.ofList_toList]
  have hend : stringOctets (k + 1) (0x22 :: rest) = .ok ([], rest) := by
    simp only [stringOctets, hquote, if_true]
  simp only [string, hk, h, hend, Except.map, List.append_nil, hoctets, bind, Except.bind,
    ofOctets?_octets]
  rfl

end Reader

end Switchboard.Json
