-- SUMMARY: Every JSON numeral is a decimal, and one that is an integer is the numeral of that integer.
import Switchboard.Decimal.Notation
import Switchboard.Proofs.Json.Number

/-!
# Numerals as decimals

The token of a JSON number can be read as a decimal (`exists_read?_token`). If it can
be read as an integer, it is the numeral of that integer, unless it is `-0`
(`ofInt_of_readInt_token`): a numeral has no leading zeros and no plus sign.
-/

namespace Switchboard

namespace JsonNumber

open Text

variable {w f e : List Char} {n : JsonNumber}

theorem exists_digitChar {c : Char} (h : c.isDigit) : ∃ k < 10, c = k.digitChar := by
  have hrange : 48 ≤ c.toNat ∧ c.toNat ≤ 57 := by simpa [Char.isDigit, UInt32.le_iff_toNat_le] using h
  refine ⟨c.toNat - 48, by omega, Char.toNat_inj.mp ?_⟩
  rw [Nat.toNat_digitChar_of_lt_ten (by omega)]
  omega

/-! ## Integers -/

/-- More digits after those of a positive number. -/
theorem natDigits_append {cs : List Char} (hcs : ∀ c ∈ cs, c.isDigit) {k : Nat} (hk : 0 < k) :
    natDigits k ++ cs = natDigits (Nat.ofDigitChars 10 cs k) := by
  induction cs generalizing k with
  | nil => simp
  | cons c cs ih =>
    obtain ⟨hc, hmore⟩ := List.forall_mem_cons.mp hcs
    obtain ⟨d, hd, rfl⟩ := exists_digitChar hc
    have hstep : natDigits k ++ [d.digitChar] = natDigits (10 * k + d) := by
      rw [natDigits, natDigits, ← Nat.toDigits_append_toDigits (by decide) hk hd, Nat.toDigits_of_lt_base hd]
    rw [Nat.ofDigitChars_cons_digitChar_of_lt_ten hd, ← ih hmore (by omega), ← hstep, List.append_assoc,
      List.singleton_append]

theorem natDigits_ofDigitChars (hw : IsWhole w) : natDigits (Nat.ofDigitChars 10 w 0) = w := by
  obtain rfl | ⟨c, ds, rfl, hc, hzero, hds⟩ := hw
  · rfl
  · obtain ⟨d, hd, rfl⟩ := exists_digitChar hc
    have hpos : 0 < d := Nat.pos_of_ne_zero fun h => hzero (by rw [h]; rfl)
    rw [Nat.ofDigitChars_cons_digitChar_of_lt_ten hd, Nat.mul_zero, Nat.zero_add, ← natDigits_append hds hpos,
      natDigits, Nat.toDigits_of_lt_base hd, List.singleton_append]

/-- A numeral that is all digits has neither a fraction nor an exponent. -/
theorem eq_natDigits_of_readNat (hw : IsWhole w) (hf : IsFraction f) (he : IsExponent e) {k : Nat}
    (h : readNat (w ++ f ++ e) = some k) : w ++ f ++ e = natDigits k := by
  rw [readNat] at h
  split at h
  · next hdigits =>
    have hall : ∀ c ∈ w ++ f ++ e, c.isDigit := List.all_eq_true.mp hdigits.2
    obtain rfl : f = [] := by
      obtain rfl | ⟨ds, rfl, -⟩ := hf
      · rfl
      · exact absurd (hall '.' (by simp)) (by decide)
    obtain rfl : e = [] := by
      obtain rfl | ⟨sign, c, ds, rfl, -⟩ := he
      · rfl
      · exact absurd (hall 'e' (by simp)) (by decide)
    cases h
    simp only [List.append_nil, natDigits_ofDigitChars hw]
  · cases h

/-- A sign, or a digit, is what a numeral starts with. -/
theorem readInt_of_isWhole (hw : IsWhole w) (cs : List Char) :
    readInt (w ++ cs) = (readNat (w ++ cs)).map Int.ofNat := by
  obtain ⟨c, ds, rfl⟩ := List.exists_cons_of_ne_nil hw.ne_nil
  have hc := hw.isDigit c List.mem_cons_self
  rw [List.cons_append]
  unfold readInt
  split
  · next h =>
    obtain ⟨rfl, -⟩ := List.cons.inj h
    exact absurd hc (by decide)
  · next h =>
    obtain ⟨rfl, -⟩ := List.cons.inj h
    exact absurd hc (by decide)
  · rfl

theorem ofInt_of_readInt_token (hn : n.IsNumeral) (hzero : n.token ≠ "-0") {i : Int}
    (h : readInt n.token.toList = some i) : ofInt i = n := by
  obtain ⟨negative, w, f, e, hw, hf, he, htoken⟩ := hn
  obtain ⟨token⟩ := n
  subst htoken
  rw [String.toList_ofList] at h
  rw [ofInt, numeral]
  cases negative with
  | false =>
    change readInt (w ++ f ++ e) = _ at h
    rw [List.append_assoc, readInt_of_isWhole hw, ← List.append_assoc] at h
    obtain ⟨k, hk, rfl⟩ := Option.map_eq_some_iff.mp h
    have hdigits := eq_natDigits_of_readNat hw hf he hk
    change (⟨String.ofList (natDigits k)⟩ : JsonNumber) = ⟨String.ofList (w ++ f ++ e)⟩
    rw [hdigits]
  | true =>
    change readInt ('-' :: (w ++ f ++ e)) = _ at h
    rw [readInt] at h
    cases hk : readNat (w ++ f ++ e) with
    | none =>
      rw [hk] at h
      cases h
    | some k =>
      rw [hk] at h
      obtain rfl : -(k : Int) = i := Option.some.inj h
      have hdigits := eq_natDigits_of_readNat hw hf he hk
      change (⟨String.ofList (intDigits (-k))⟩ : JsonNumber) = ⟨String.ofList ('-' :: (w ++ f ++ e))⟩
      rw [hdigits]
      cases k with
      | zero =>
        refine absurd ?_ hzero
        change String.ofList ('-' :: (w ++ f ++ e)) = _
        rw [hdigits]
        rfl
      | succ k => rfl

/-! ## Decimals -/

theorem spanDigits_append {ds rest : List Char} (hds : ∀ c ∈ ds, c.isDigit)
    (hrest : ∀ c ∈ rest.head?, c.isDigit = false) : Decimal.spanDigits (ds ++ rest) = (ds, rest) := by
  rw [Decimal.spanDigits, List.takeWhile_append_of_pos hds, List.dropWhile_append_of_pos hds]
  cases rest with
  | nil => simp
  | cons c rest => simp [hrest c rfl]

theorem exists_readExponent (he : IsExponent e) : ∃ i, Decimal.readExponent e = some i := by
  obtain rfl | ⟨sign, c, ds, rfl, hsign, hc, hds⟩ := he
  · exact ⟨0, rfl⟩
  · have hdigits : c :: ds ≠ [] ∧ (c :: ds).all Char.isDigit := by
      simpa [hc] using hds
    rcases hsign with rfl | rfl
    · exact ⟨_, by simp only [Decimal.readExponent, true_or, if_true, readInt, readNat, if_pos hdigits]; rfl⟩
    · exact ⟨_, by simp only [Decimal.readExponent, true_or, if_true, readInt, readNat, if_pos hdigits]; rfl⟩

/-- The digits before the point, if there is one, and those after it. -/
theorem exists_readMagnitude (negative : Bool) (hw : IsWhole w) (hf : IsFraction f) (he : IsExponent e) :
    ∃ d, Decimal.readMagnitude negative (w ++ f ++ e) = some d := by
  obtain ⟨i, hi⟩ := exists_readExponent he
  have hhead : ∀ c ∈ e.head?, c.isDigit = false := by
    obtain rfl | ⟨sign, c, ds, rfl, -⟩ := he
    · simp
    · rintro c ⟨⟩
      decide
  obtain rfl | ⟨ds, rfl, -, hds⟩ := hf
  · have hspan := spanDigits_append hw.isDigit hhead
    refine ⟨⟨negative, Nat.ofDigitChars 10 w 0, i⟩, ?_⟩
    obtain rfl | ⟨sign, c, ds, rfl, -⟩ := he
    · rw [List.append_nil] at hspan
      simp [Decimal.readMagnitude, hspan, hw.ne_nil, hi]
    · simp [Decimal.readMagnitude, hspan, hw.ne_nil, hi]
  · have hspan : Decimal.spanDigits (w ++ '.' :: (ds ++ e)) = (w, '.' :: (ds ++ e)) :=
      spanDigits_append hw.isDigit (by rintro c ⟨⟩; decide)
    have hfraction := spanDigits_append hds hhead
    refine ⟨⟨negative, Nat.ofDigitChars 10 (w ++ ds) 0, i - ds.length⟩, ?_⟩
    simp [Decimal.readMagnitude, hspan, hfraction, hw.ne_nil, hi]

theorem exists_read?_token (hn : n.IsNumeral) : ∃ d, Decimal.read? n.token.toList = some d := by
  obtain ⟨negative, w, f, e, hw, hf, he, htoken⟩ := hn
  rw [htoken, String.toList_ofList]
  cases negative with
  | true => exact exists_readMagnitude true hw hf he
  | false =>
    obtain ⟨d, hd⟩ := exists_readMagnitude false hw hf he
    obtain ⟨c, cs, rfl⟩ := List.exists_cons_of_ne_nil hw.ne_nil
    have hc := hw.isDigit c List.mem_cons_self
    refine ⟨d, ?_⟩
    rw [signOf, if_neg Bool.false_ne_true, List.nil_append]
    unfold Decimal.read?
    split
    · next h =>
      obtain ⟨rfl, -⟩ := List.cons.inj h
      exact absurd hc (by decide)
    · next h =>
      obtain ⟨rfl, -⟩ := List.cons.inj h
      exact absurd hc (by decide)
    · exact hd

end JsonNumber

end Switchboard
