-- SUMMARY: The number tokens that the reader produces are the numerals, and it reads each numeral back.
import Switchboard.Json.Reader
import Switchboard.Proofs.Text.Plain

/-!
# Numerals

A numeral is an optional sign, a whole part, and perhaps a fraction and an
exponent. A document may leave the sign of the exponent out and write its letter
in upper case; the reader keeps the numeral with both settled, and
`JsonNumber.IsNumeral` is that form. `Reader.number_append` says that the reader
takes exactly the numeral off a document whose next octet cannot go on with it,
and `Reader.isNumeral_of_number` that it returns nothing else.
-/

namespace Switchboard

namespace Text

theorem toNat_lt_of_isDigit {c : Char} (h : c.isDigit) : c.toNat < 0x80 := by
  simp only [Char.isDigit, Bool.and_eq_true, decide_eq_true_eq, ge_iff_le] at h
  have h2 : c.val.toNat ≤ 57 := UInt32.le_iff_toNat_le.mp h.2
  exact Nat.lt_of_le_of_lt h2 (by decide)

theorem isDigit_octet (b : UInt8) : (ascii b).isDigit = Json.Reader.isDigit b := by
  have ha : (ascii b).val.toNat = b.toNat := toNat_ascii b
  rw [Bool.eq_iff_iff]
  simp only [Char.isDigit, Json.Reader.isDigit, Bool.and_eq_true, decide_eq_true_eq, ge_iff_le,
    UInt32.le_iff_toNat_le, UInt8.le_iff_toNat_le, ha]
  exact Iff.rfl

end Text

namespace JsonNumber

/-! ## Numerals -/

/-- One zero, or digits that start with another one. -/
def IsWhole (cs : List Char) : Prop :=
  cs = ['0'] ∨ ∃ c ds, cs = c :: ds ∧ c.isDigit ∧ c ≠ '0' ∧ ∀ d ∈ ds, d.isDigit

/-- Nothing, or a point and digits. -/
def IsFraction (cs : List Char) : Prop :=
  cs = [] ∨ ∃ ds, cs = '.' :: ds ∧ ds ≠ [] ∧ ∀ d ∈ ds, d.isDigit

/-- Nothing, or an exponent with its sign. -/
def IsExponent (cs : List Char) : Prop :=
  cs = [] ∨ ∃ sign c ds, cs = 'e' :: sign :: c :: ds ∧ (sign = '+' ∨ sign = '-') ∧
    c.isDigit ∧ ∀ d ∈ ds, d.isDigit

/-- The sign of a number. -/
def signOf (negative : Bool) : List Char := if negative then ['-'] else []

/-- The token is a numeral, its exponent written in lower case and with a sign. -/
def IsNumeral (n : JsonNumber) : Prop :=
  ∃ negative w f e, IsWhole w ∧ IsFraction f ∧ IsExponent e ∧
    n.token = String.ofList (signOf negative ++ w ++ f ++ e)

/-- A character of a numeral. -/
def IsMark (c : Char) : Prop := c.isDigit ∨ c = '-' ∨ c = '+' ∨ c = '.' ∨ c = 'e'

theorem IsMark.bounds {c : Char} (h : IsMark c) : 0x20 < c.toNat ∧ c.toNat < 0x80 := by
  rcases h with h | rfl | rfl | rfl | rfl
  · have hrange : 48 ≤ c.toNat ∧ c.toNat ≤ 57 := by simpa [Char.isDigit, UInt32.le_iff_toNat_le] using h
    omega
  all_goals decide

section Marks

variable {w f e : List Char}

theorem IsWhole.isDigit (hw : IsWhole w) : ∀ c ∈ w, c.isDigit := by
  obtain rfl | ⟨c, ds, rfl, hc, -, hds⟩ := hw
  · exact List.forall_mem_singleton.mpr (by decide)
  · exact List.forall_mem_cons.mpr ⟨hc, hds⟩

theorem IsWhole.ne_nil (hw : IsWhole w) : w ≠ [] := by
  obtain rfl | ⟨c, ds, rfl, -⟩ := hw <;> exact List.cons_ne_nil _ _

theorem IsFraction.isMark (hf : IsFraction f) : ∀ c ∈ f, IsMark c := by
  obtain rfl | ⟨ds, rfl, -, hds⟩ := hf
  · simp
  · exact List.forall_mem_cons.mpr ⟨by simp [IsMark], fun c hc => .inl (hds c hc)⟩

theorem IsExponent.isMark (he : IsExponent e) : ∀ c ∈ e, IsMark c := by
  obtain rfl | ⟨sign, d, ds, rfl, hsign, hd, hds⟩ := he
  · simp
  · have hmark : IsMark sign := by
      rcases hsign with rfl | rfl <;> simp [IsMark]
    simp only [List.forall_mem_cons]
    exact ⟨by simp [IsMark], hmark, .inl hd, fun c hc => .inl (hds c hc)⟩

theorem isMark_of_mem_numeral {negative : Bool} (hw : IsWhole w) (hf : IsFraction f) (he : IsExponent e) :
    ∀ c ∈ signOf negative ++ w ++ f ++ e, IsMark c := by
  have hsign : ∀ c ∈ signOf negative, IsMark c := by
    cases negative <;> simp [signOf, IsMark]
  simp only [List.forall_mem_append]
  exact ⟨⟨⟨hsign, fun c hc => .inl (hw.isDigit c hc)⟩, hf.isMark⟩, he.isMark⟩

theorem IsNumeral.isMark {n : JsonNumber} (h : n.IsNumeral) : ∀ c ∈ n.token.toList, IsMark c := by
  obtain ⟨negative, w, f, e, hw, hf, he, htoken⟩ := h
  rw [htoken, String.toList_ofList]
  exact isMark_of_mem_numeral hw hf he

end Marks

end JsonNumber

namespace Json.Reader

open JsonNumber Text

/-! ## Digits -/

/-- No digit comes next. -/
def NoDigit (s : Octets) : Prop := ∀ b t, s = b :: t → isDigit b = false

theorem isDigit_ofNat {c : Char} (h : c.isDigit) : isDigit (UInt8.ofNat c.toNat) = true := by
  rw [← isDigit_octet, ascii_ofNat (toNat_lt_of_isDigit h)]
  exact h

theorem digits_append {ds : List Char} {rest : Octets} (hds : ∀ d ∈ ds, d.isDigit)
    (hrest : NoDigit rest) : digits (plainOctets ds ++ rest) = (ds, rest) := by
  induction ds with
  | nil =>
    cases rest with
    | nil => rfl
    | cons b rest => simp [digits, hrest b rest rfl]
  | cons d ds ih =>
    have hd : d.isDigit := hds d List.mem_cons_self
    have h := ih fun c hc => hds c (List.mem_cons_of_mem d hc)
    simp only [digits, Prod.mk.injEq] at h
    simp only [digits, plainOctets_cons, List.cons_append, List.takeWhile_cons, List.dropWhile_cons,
      isDigit_ofNat hd, if_true, List.map_cons, ascii_ofNat (toNat_lt_of_isDigit hd), h.1, h.2]

theorem isDigit_of_mem_digits {s : Octets} {c : Char} (h : c ∈ (digits s).1) : c.isDigit := by
  simp only [digits, List.mem_map] at h
  obtain ⟨b, hb, rfl⟩ := h
  rw [isDigit_octet]
  exact List.all_eq_true.mp List.all_takeWhile b hb

/-! ## Reading numerals back -/

/-- Nothing that could go on with a number comes next. -/
def EndsNumber (s : Octets) : Prop :=
  ∀ b t, s = b :: t → isDigit b = false ∧ ascii b ≠ '.' ∧ ascii b ≠ 'e' ∧ ascii b ≠ 'E'

theorem EndsNumber.noDigit {s : Octets} (h : EndsNumber s) : NoDigit s :=
  fun b t hs => (h b t hs).1

theorem whole_append {w : List Char} {rest : Octets} (hw : IsWhole w) (hrest : NoDigit rest) :
    whole (plainOctets w ++ rest) = .ok (w, rest) := by
  obtain rfl | ⟨c, ds, rfl, hc, hne, hds⟩ := hw
  · cases rest with
    | nil => rfl
    | cons b rest =>
      have hb := hrest b rest rfl
      simp [whole, hb]
  · have hlt := toNat_lt_of_isDigit hc
    have hzero : UInt8.ofNat c.toNat ≠ 0x30 := by
      intro h
      have h := congrArg ascii h
      rw [ascii_ofNat hlt] at h
      exact hne h
    simp only [plainOctets_cons, List.cons_append, whole, hzero, if_false, isDigit_ofNat hc, if_true,
      digits_append hds hrest, ascii_ofNat hlt]

theorem fraction_append {f : List Char} {rest : Octets} (hf : IsFraction f) (hrest : NoDigit rest)
    (hpoint : ∀ b t, rest = b :: t → ascii b ≠ '.') :
    fraction (plainOctets f ++ rest) = .ok (f, rest) := by
  obtain rfl | ⟨ds, rfl, hne, hds⟩ := hf
  · cases rest with
    | nil => rfl
    | cons b rest => simp [fraction, hpoint b rest rfl]
  · have hascii : ascii (UInt8.ofNat '.'.toNat) = '.' := by decide
    cases ds with
    | nil => exact absurd rfl hne
    | cons d ds =>
      rw [plainOctets_cons, List.cons_append]
      simp only [fraction, hascii, if_true, digits_append hds hrest]

theorem exponent_append {e : List Char} {rest : Octets} (he : IsExponent e) (hrest : EndsNumber rest) :
    exponent (plainOctets e ++ rest) = .ok (e, rest) := by
  obtain rfl | ⟨sign, c, ds, rfl, hsign, hc, hds⟩ := he
  · cases rest with
    | nil => rfl
    | cons b rest =>
      obtain ⟨-, -, h1, h2⟩ := hrest b rest rfl
      simp [exponent, h1, h2]
  · have hletter : ascii (UInt8.ofNat 'e'.toNat) = 'e' := by decide
    have hplus : ascii (UInt8.ofNat '+'.toNat) = '+' := by decide
    have hminus : ascii (UInt8.ofNat '-'.toNat) = '-' := by decide
    have hdigits := digits_append hds hrest.noDigit
    obtain rfl | rfl := hsign
    · simp only [plainOctets_cons, List.cons_append, exponent, hletter, hplus, true_or, if_true,
        isDigit_ofNat hc, hdigits, ascii_ofNat (toNat_lt_of_isDigit hc)]
    · have hne : '-' ≠ '+' := by decide
      simp only [plainOctets_cons, List.cons_append, exponent, hletter, hminus, hne, true_or, if_true,
        if_false, isDigit_ofNat hc, hdigits, ascii_ofNat (toNat_lt_of_isDigit hc)]

/-- A letter of a numeral ends the digits before it. -/
theorem noDigit_of_head {c : Char} {cs : List Char} {rest : Octets} (hlt : c.toNat < 0x80)
    (hc : c.isDigit = false) : NoDigit (plainOctets (c :: cs) ++ rest) := by
  intro b t h
  rw [plainOctets_cons, List.cons_append] at h
  obtain ⟨rfl, -⟩ := List.cons.inj h
  rw [← isDigit_octet, ascii_ofNat hlt]
  exact hc

theorem noDigit_exponent {e : List Char} {rest : Octets} (he : IsExponent e) (hrest : EndsNumber rest) :
    NoDigit (plainOctets e ++ rest) := by
  obtain rfl | ⟨sign, c, ds, rfl, -⟩ := he
  · exact hrest.noDigit
  · exact noDigit_of_head (by decide) (by decide)

theorem noDigit_fraction {f e : List Char} {rest : Octets} (hf : IsFraction f) (he : IsExponent e)
    (hrest : EndsNumber rest) : NoDigit (plainOctets f ++ (plainOctets e ++ rest)) := by
  have hexponent := noDigit_exponent he hrest
  obtain rfl | ⟨ds, rfl, -⟩ := hf
  · exact hexponent
  · exact noDigit_of_head (by decide) (by decide)

theorem noPoint_exponent {e : List Char} {rest : Octets} (he : IsExponent e) (hrest : EndsNumber rest) :
    ∀ b t, plainOctets e ++ rest = b :: t → ascii b ≠ '.' := by
  obtain rfl | ⟨sign, c, ds, rfl, -⟩ := he
  · exact fun b t h => (hrest b t h).2.1
  · intro b t h
    rw [plainOctets_cons, List.cons_append] at h
    obtain ⟨rfl, -⟩ := List.cons.inj h
    decide

/-- The reader takes a numeral off a document that goes on with something else. -/
theorem number_append {negative : Bool} {w f e : List Char} {rest : Octets} (hw : IsWhole w)
    (hf : IsFraction f) (he : IsExponent e) (hrest : EndsNumber rest) :
    number negative (plainOctets (w ++ f ++ e) ++ rest) =
      .ok (⟨String.ofList (signOf negative ++ w ++ f ++ e)⟩, rest) := by
  have hwhole := whole_append hw (noDigit_fraction hf he hrest)
  have hfraction := fraction_append hf (noDigit_exponent he hrest) (noPoint_exponent he hrest)
  have hexponent := exponent_append he hrest
  simp only [number, plainOctets_append, List.append_assoc, hwhole, hfraction, hexponent, bind,
    Except.bind, pure, Except.pure, signOf]

/-! ## Only numerals are read -/

theorem isWhole_of_whole {s rest : Octets} {w : List Char} (h : whole s = .ok (w, rest)) : IsWhole w := by
  cases s with
  | nil => cases h
  | cons b s =>
    simp only [whole] at h
    split at h
    · split at h
      · split at h
        · cases h
        · cases h
          exact .inl rfl
      · cases h
        exact .inl rfl
    · next hzero =>
      split at h
      · next hb =>
        cases h
        refine .inr ⟨ascii b, (digits s).1, rfl, ?_, ?_, fun d hd => isDigit_of_mem_digits hd⟩
        · rw [isDigit_octet]
          exact hb
        · intro h
          have h := congrArg Char.toNat h
          rw [toNat_ascii] at h
          exact hzero (UInt8.toNat_inj.mp h)
      · cases h

theorem isFraction_of_fraction {s rest : Octets} {f : List Char} (h : fraction s = .ok (f, rest)) :
    IsFraction f := by
  cases s with
  | nil =>
    cases h
    exact .inl rfl
  | cons b s =>
    simp only [fraction] at h
    split at h
    · split at h
      · cases h
      · cases h
      · next ds t _ hne hds =>
        cases h
        refine .inr ⟨ds, rfl, ?_, ?_⟩
        · rintro rfl
          exact hne rfl
        · intro d hd
          exact isDigit_of_mem_digits (s := s) (by rw [hds]; exact hd)
    · cases h
      exact .inl rfl

theorem isExponent_of_exponent {s rest : Octets} {e : List Char} (h : exponent s = .ok (e, rest)) :
    IsExponent e := by
  cases s with
  | nil =>
    cases h
    exact .inl rfl
  | cons b s =>
    simp only [exponent] at h
    split at h
    · split at h
      · cases h
      · next c t hs =>
        split at h
        · next hc =>
          cases h
          refine .inr ⟨_, ascii c, (digits t).1, rfl, ?_, ?_, fun d hd => isDigit_of_mem_digits hd⟩
          · split
            · split
              · exact .inl rfl
              · split
                · exact .inr rfl
                · exact .inl rfl
            · exact .inl rfl
          · rw [isDigit_octet]
            exact hc
        · cases h
    · cases h
      exact .inl rfl

theorem isNumeral_of_number {negative : Bool} {s rest : Octets} {n : JsonNumber}
    (h : number negative s = .ok (n, rest)) : n.IsNumeral := by
  simp only [number, bind, Except.bind, pure, Except.pure] at h
  split at h
  · cases h
  next w hw =>
  split at h
  · cases h
  next f hf =>
  split at h
  · cases h
  next e he =>
  cases h
  exact ⟨negative, w.1, f.1, e.1, isWhole_of_whole hw, isFraction_of_fraction hf,
    isExponent_of_exponent he, rfl⟩

end Json.Reader

/-! ## Integers -/

namespace JsonNumber

theorem natDigits_eq_cons {n : Nat} (hn : 0 < n) : ∃ c ds, Text.natDigits n = c :: ds ∧ c ≠ '0' := by
  induction n using Nat.strongRecOn with
  | ind n ih =>
    by_cases hlt : n < 10
    · refine ⟨n.digitChar, [], Nat.toDigits_of_lt_base hlt, ?_⟩
      have hdigit : ∀ m < 10, 0 < m → m.digitChar ≠ '0' := by decide
      exact hdigit n hlt hn
    · obtain ⟨c, ds, hds, hc⟩ := ih (n / 10) (by omega) (by omega)
      refine ⟨c, ds ++ [(n % 10).digitChar], ?_, hc⟩
      rw [Text.natDigits] at hds ⊢
      rw [Nat.toDigits_of_base_le (by decide : 1 < 10) (Nat.le_of_not_lt hlt), hds, List.cons_append]

theorem isWhole_natDigits (n : Nat) : IsWhole (Text.natDigits n) := by
  cases n with
  | zero => exact .inl rfl
  | succ n =>
    obtain ⟨c, ds, hds, hc⟩ := natDigits_eq_cons (Nat.succ_pos n)
    have hdigit : ∀ d ∈ c :: ds, d.isDigit := fun d hd => Text.isDigit_of_mem_natDigits (hds ▸ hd)
    exact .inr ⟨c, ds, hds, hdigit c List.mem_cons_self, hc, fun d hd => hdigit d (List.mem_cons_of_mem c hd)⟩

theorem isNumeral_ofInt (n : Int) : (ofInt n).IsNumeral := by
  cases n with
  | ofNat n =>
    exact ⟨false, Text.natDigits n, [], [], isWhole_natDigits n, .inl rfl, .inl rfl, by
      simp [ofInt, Text.numeral, Text.intDigits, signOf]⟩
  | negSucc n =>
    exact ⟨true, Text.natDigits (n + 1), [], [], isWhole_natDigits _, .inl rfl, .inl rfl, by
      simp [ofInt, Text.numeral, Text.intDigits, signOf]⟩

/-- The numeral of an integer has no sign for zero. -/
theorem token_ofInt_ne (i : Int) : (ofInt i).token ≠ "-0" := by
  intro h
  have hdigits : Text.intDigits i = ['-', '0'] := by
    rw [ofInt, Text.numeral, ← String.toList_inj, String.toList_ofList] at h
    exact h
  cases i with
  | ofNat n =>
    have hmem : '-' ∈ Text.natDigits n := by
      change Text.natDigits n = _ at hdigits
      rw [hdigits]
      exact List.mem_cons_self
    exact absurd (Text.isDigit_of_mem_natDigits hmem) (by decide)
  | negSucc n =>
    obtain ⟨c, ds, hds, hc⟩ := natDigits_eq_cons (Nat.succ_pos n)
    obtain ⟨-, htail⟩ := List.cons.inj hdigits
    rw [hds] at htail
    exact hc (List.cons.inj htail).1

end JsonNumber

end Switchboard
