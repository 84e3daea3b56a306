-- SUMMARY: Guessing takes back every value that is no string from its text, and makes up no string.
import Switchboard.Json.Guess
import Switchboard.Proofs.Decimal.Numeral
import Switchboard.Proofs.Decimal.Range
import Switchboard.Proofs.Json.OneLine
import Switchboard.Proofs.Json.RoundTrip
import Switchboard.Proofs.Json.Written

/-!
# Guessing

The four readings of a guess are tried on one text, and which of them takes it shows
at its first character: a letter for a word, a sign, a digit or a point for a number,
a bracket or a brace for a container. A numeral may be taken as an integer or as a
decimal; both give its token back, save for `-0` (`guess_reads_back`).
-/

namespace Switchboard

/-- The number that a numeral writes. -/
def JsonNumber.value (n : JsonNumber) : ℚ := ((Decimal.read? n.token.toList).map Decimal.value).getD 0

/-! ## How a text starts -/

namespace Decimal

theorem readMagnitude_eq_none {c : Char} (hpoint : c ≠ '.') (hdigit : c.isDigit = false) (negative : Bool)
    (cs : List Char) : readMagnitude negative (c :: cs) = none := by
  have hspan : spanDigits (c :: cs) = ([], c :: cs) := by simp [spanDigits, hdigit]
  simp [readMagnitude, hspan, hpoint]

/-- A decimal starts with a sign, a point or a digit. -/
theorem head_of_read? {cs : List Char} {d : Decimal} (h : read? cs = some d) :
    ∃ c rest, cs = c :: rest ∧ (c = '-' ∨ c = '+' ∨ c = '.' ∨ c.isDigit) := by
  unfold read? at h
  split at h
  · exact ⟨_, _, rfl, .inl rfl⟩
  · exact ⟨_, _, rfl, .inr (.inl rfl)⟩
  · cases cs with
    | nil => cases h
    | cons c rest =>
      refine ⟨c, rest, rfl, .inr (.inr ?_)⟩
      by_contra hnone
      rw [not_or, Bool.not_eq_true] at hnone
      rw [readMagnitude_eq_none hnone.1 hnone.2] at h
      cases h

end Decimal

namespace Json

open Reader Text

theorem object_ne_str {item : Octets → Except Fault (Json × Octets)} {s rest : Octets} (t : String) :
    object item s ≠ .ok (.str t, rest) := by
  intro h
  unfold object at h
  split at h
  · cases h
  · split at h
    · cases h
    · split at h
      · obtain ⟨key, -, h⟩ := bind_eq_ok.mp h
        obtain ⟨u, -, h⟩ := bind_eq_ok.mp h
        split at h
        · obtain ⟨n, -, h⟩ := bind_eq_ok.mp h
          obtain ⟨u, -, h⟩ := bind_eq_ok.mp h
          cases h
        · obtain ⟨x, -, h⟩ := bind_eq_ok.mp h
          obtain ⟨ms, -, h⟩ := bind_eq_ok.mp h
          cases h
      · cases h

/-- A string starts with a quote, after blanks. -/
theorem quote_of_value {levels : Nat} {s rest : Octets} {t : String} (h : value levels s = .ok (.str t, rest)) :
    ∃ b u, skipBlanks s = b :: u ∧ ascii b = '"' := by
  have hnested : ∃ nested, valueWith nested s = .ok (.str t, rest) := by
    cases levels with
    | zero => exact ⟨none, h⟩
    | succ levels => exact ⟨some (value levels), h⟩
  obtain ⟨nested, h⟩ := hnested
  rcases valueWith_cases h with h | ⟨item, b, u, -, -, harray | hobject⟩
  · simp only [valueWith] at h
    split at h
    · cases h
    next b u hs =>
    split at h
    · obtain ⟨_, -, h⟩ := map_eq_ok.mp h
      cases h
    · obtain ⟨_, -, h⟩ := map_eq_ok.mp h
      cases h
    · obtain ⟨_, -, h⟩ := map_eq_ok.mp h
      cases h
    · obtain ⟨_, -, h⟩ := map_eq_ok.mp h
      cases h
    · next hquote => exact ⟨b, u, hs, hquote⟩
    · cases h
    · cases h
    · split at h
      · obtain ⟨_, -, h⟩ := map_eq_ok.mp h
        cases h
      · cases h
  · obtain ⟨-, xs, -, h⟩ := harray
    cases h
  · exact absurd hobject.2 (object_ne_str t)

/-- The first character tells that a text is no document of a string. -/
theorem read?_ne_str {text : String} {c : Char} {cs : List Char} (htext : text.toList = c :: cs)
    (hplain : c.toNat < 0x80) (hblank : Reader.isBlank (UInt8.ofNat c.toNat) = false) (hc : c ≠ '"') (t : String) :
    read? (octets text) ≠ .ok (.str t) := by
  intro h
  obtain ⟨rest, hvalue, -⟩ := exists_value_of_read? h
  obtain ⟨b, u, hskip, hquote⟩ := quote_of_value hvalue
  have hoctets : octets text = UInt8.ofNat c.toNat :: cs.flatMap String.utf8EncodeChar := by
    rw [← String.ofList_toList (s := text), htext, octets_ofList, List.flatMap_cons,
      utf8EncodeChar_of_plain hplain, List.singleton_append]
  rw [hoctets, skipBlanks_cons hblank] at hskip
  obtain ⟨rfl, -⟩ := List.cons.inj hskip
  rw [ascii_ofNat hplain] at hquote
  exact hc hquote

/-! ## The readings of a guess -/

theorem guessDecimal?_ne_str (text t : String) : guessDecimal? text ≠ some (.str t) := by
  intro h
  unfold guessDecimal? at h
  split at h
  · next d hd =>
    obtain ⟨c, cs, htext, hc⟩ := Decimal.head_of_read? hd
    split at h
    · split at h
      · next v hread =>
        cases h
        have hplain : c.toNat < 0x80 ∧ Reader.isBlank (UInt8.ofNat c.toNat) = false ∧ c ≠ '"' := by
          rcases hc with rfl | rfl | rfl | hc
          · decide
          · decide
          · decide
          · obtain ⟨b, u, hbu, hblank, -⟩ := starts_of_isDigit hc []
            obtain ⟨rfl, -⟩ := List.cons.inj hbu
            refine ⟨toNat_lt_of_isDigit hc, hblank, ?_⟩
            rintro rfl
            exact absurd hc (by decide)
        exact read?_ne_str htext hplain.1 hplain.2.1 hplain.2.2 t hread
      · rw [ofFloat] at h
        split at h <;> cases h
    · cases h
  · cases h

theorem guessContainer?_ne_str (text t : String) : guessContainer? text ≠ some (.str t) := by
  intro h
  have hread : read? (octets text) = .ok (.str t) ∧ ∃ c cs, text.toList = c :: cs ∧ (c = '[' ∨ c = '\x7b') := by
    unfold guessContainer? at h
    split at h
    · next cs htext => exact ⟨toOption_eq_some_iff.mp h, _, cs, htext, .inl rfl⟩
    · next cs htext => exact ⟨toOption_eq_some_iff.mp h, _, cs, htext, .inr rfl⟩
    · cases h
  obtain ⟨hread, c, cs, htext, hc⟩ := hread
  have hplain : c.toNat < 0x80 ∧ Reader.isBlank (UInt8.ofNat c.toNat) = false ∧ c ≠ '"' := by
    rcases hc with rfl | rfl <;> decide
  exact read?_ne_str htext hplain.1 hplain.2.1 hplain.2.2 t hread

/-- A string is guessed only where nothing else is, and then it is the input. -/
theorem eq_of_guess_str {input t : String} (h : guess input = .str t) : t = input := by
  simp only [guess] at h
  split at h
  · cases h
  · cases h
  · cases h
  · split at h
    · cases h
    · split at h
      · next v hv =>
        subst h
        exact absurd hv (guessDecimal?_ne_str _ t)
      · cases hcontainer : guessContainer? (Text.trim input) with
        | none =>
          rw [hcontainer] at h
          exact (Json.str.inj h).symm
        | some v =>
          rw [hcontainer] at h
          obtain rfl : v = .str t := h
          exact absurd hcontainer (guessContainer?_ne_str _ t)

section Guess

variable {input text : String}

/-- A text that is no word is read as an integer, as a decimal or as a container, in this order. -/
theorem guess_eq (htrim : trim input = text) (hword : text ≠ "true" ∧ text ≠ "false" ∧ text ≠ "null") :
    guess input = (((((readInt text.toList).filter inInt64).map Json.ofInt).or (guessDecimal? text)).or
      (guessContainer? text)).getD (.str input) := by
  subst htrim
  simp only [guess]
  split
  · next h => exact absurd h hword.1
  · next h => exact absurd h hword.2.1
  · next h => exact absurd h hword.2.2
  · cases (readInt (trim input).toList).filter inInt64 with
    | some i => rfl
    | none => cases guessDecimal? (trim input) <;> rfl

theorem guess_token {n : JsonNumber} (hn : n.IsNumeral) (hzero : n.token ≠ "-0")
    (hfinite : |n.value| < Binary64.overflowBound) (htrim : trim input = n.token) : guess input = .num n := by
  have hletter {w : String} {c : Char} (hc : c ∈ w.toList) (hmark : ¬JsonNumber.IsMark c) : n.token ≠ w := by
    rintro rfl
    exact hmark (hn.isMark c hc)
  have hword : n.token ≠ "true" ∧ n.token ≠ "false" ∧ n.token ≠ "null" :=
    ⟨hletter (c := 't') (by decide) (by simp [JsonNumber.IsMark]),
      hletter (c := 'f') (by decide) (by simp [JsonNumber.IsMark]),
      hletter (c := 'n') (by decide) (by simp [JsonNumber.IsMark])⟩
  rw [guess_eq htrim hword]
  cases hint : (readInt n.token.toList).filter inInt64 with
  | some i =>
    obtain ⟨hread, -⟩ := Option.filter_eq_some_iff.mp hint
    have hsame := JsonNumber.ofInt_of_readInt_token hn hzero hread
    simp [Json.ofInt, hsame]
  | none =>
    obtain ⟨d, hd⟩ := JsonNumber.exists_read?_token hn
    have hrange : d.inRange := by
      rw [JsonNumber.value, hd, Option.map_some, Option.getD_some] at hfinite
      exact (Decimal.inRange_iff d).mpr hfinite
    have hread : read? (octets n.token) = .ok (.num n) :=
      document_of_takes (takes_value_scalar fun nested => takes_token nested hn)
    have hdecimal : guessDecimal? n.token = some (.num n) := by
      simp only [guessDecimal?, hd, hrange, if_true, hread]
    simp [hdecimal]

theorem guess_container {c : Char} {cs : List Char} {v : Json} (htext : text.toList = c :: cs)
    (hc : c = '[' ∨ c = '\x7b') (hread : read? (octets text) = .ok v) (htrim : trim input = text) :
    guess input = v := by
  have hdigit : c.isDigit = false := by
    rcases hc with rfl | rfl <;> decide
  have hword {w : String} (hw : w.toList.head? ≠ some c) : text ≠ w := by
    rintro rfl
    rw [htext] at hw
    exact hw rfl
  have hint : readInt text.toList = none := by
    rw [htext]
    rcases hc with rfl | rfl <;> simp [readInt, readNat]
  have hdecimal : guessDecimal? text = none := by
    have hnone : Decimal.read? text.toList = none := by
      rw [Option.eq_none_iff_forall_ne_some]
      intro d hd
      obtain ⟨c', cs', hcs, hhead⟩ := Decimal.head_of_read? hd
      obtain ⟨rfl, -⟩ := List.cons.inj (htext.symm.trans hcs)
      rcases hc with rfl | rfl <;> simp [hdigit] at hhead
    rw [guessDecimal?, hnone]
  have hcontainer : guessContainer? text = some v := by
    rcases hc with rfl | rfl <;> simp only [guessContainer?, htext, hread, Except.toOption]
  rw [guess_eq htrim, hint, hdecimal, hcontainer]
  · rfl
  · rcases hc with rfl | rfl <;> exact ⟨hword (by decide), hword (by decide), hword (by decide)⟩

/-- The values that are no strings and that a text can hold: an array or object as the reader takes
it, and a number that doubles can hold, other than `-0`. -/
inductive Guessable : Json → Prop
  | null : Guessable .null
  | bool (b : Bool) : Guessable (.bool b)
  | num {n : JsonNumber} (numeral : n.IsNumeral) (negative : n.token ≠ "-0")
      (finite : |n.value| < Binary64.overflowBound) : Guessable (.num n)
  | arr {xs : List Json} (fits : (Json.arr xs).Fits maxNesting) : Guessable (.arr xs)
  | obj {ms : Keyed Json} (fits : (Json.obj ms).Fits maxNesting) : Guessable (.obj ms)

theorem Guessable.canonical {v : Json} (h : v.Guessable) : v.Canonical := by
  cases h with
  | null => exact .null
  | bool b => exact .bool b
  | num numeral => exact .num numeral
  | arr fits => exact fits.canonical
  | obj fits => exact fits.canonical

theorem guess_of_trim_compact {v : Json} (hv : v.Guessable) (htrim : trim input = v.compact) :
    guess input = v := by
  cases hv with
  | null => simp only [guess, htrim, compact]
  | bool b => cases b <;> simp only [guess, htrim, compact, boolText] <;> rfl
  | num numeral negative finite => exact guess_token numeral negative finite htrim
  | @arr xs fits =>
    obtain ⟨inner, hinner⟩ := exists_compact_arr xs
    have htext : (Json.arr xs).compact.toList = '[' :: (inner ++ "]").toList := by
      rw [hinner]
      simp
    exact guess_container htext (.inl rfl) (read?_compact fits.canonical fits.noReserved fits.nesting) htrim
  | @obj ms fits =>
    obtain ⟨inner, hinner⟩ := exists_compact_obj ms
    have htext : (Json.obj ms).compact.toList = '\x7b' :: (inner ++ "\x7d").toList := by
      rw [hinner]
      simp
    exact guess_container htext (.inr rfl) (read?_compact fits.canonical fits.noReserved fits.nesting) htrim

/-- From the compact text of a value that is no string, with any blanks around it, the guess is that
value, its numbers as they are written. A guess that is a string is the input, blanks and all. Several
inputs are guessed one by one. -/
theorem guess_reads_back :
    (∀ v : Json, v.Guessable → ∀ pad pad' : List Char, (∀ c ∈ pad, Text.isBlank c) →
      (∀ c ∈ pad', Text.isBlank c) → guess (String.ofList pad ++ v.compact ++ String.ofList pad') = v) ∧
    (∀ input t : String, guess input = .str t → t = input) ∧
    ∀ inputs : List String, guessAll inputs = inputs.map guess := by
  refine ⟨fun v hv pad pad' hpad hpad' => ?_, fun input t h => eq_of_guess_str h, fun inputs => rfl⟩
  exact guess_of_trim_compact hv (trim_padded (bare_compact hv.canonical) hpad hpad')

/-- A number of forty digits. -/
def fortyDigits : JsonNumber := .ofInt 1234567890123456789012345678901234567890

theorem guess_reads_back_fortyDigits :
    (Json.num fortyDigits).Guessable ∧
      guess "\u00a0 1234567890123456789012345678901234567890\n" = .num fortyDigits := by
  have hread : Decimal.read? fortyDigits.token.toList =
      some ⟨false, 1234567890123456789012345678901234567890, 0⟩ := by
    decide +kernel
  have hguessable : (Json.num fortyDigits).Guessable := by
    refine .num (JsonNumber.isNumeral_ofInt _) (JsonNumber.token_ofInt_ne _) ?_
    rw [JsonNumber.value, hread, Option.map_some, Option.getD_some]
    exact (Decimal.inRange_iff _).mp (by decide +kernel)
  have htext : "\u00a0 1234567890123456789012345678901234567890\n" =
      String.ofList ['\u00a0', ' '] ++ (Json.num fortyDigits).compact ++ String.ofList ['\n'] := by
    decide +kernel
  refine ⟨hguessable, ?_⟩
  rw [htext]
  have hbefore : ∀ c ∈ ['\u00a0', ' '], Text.isBlank c :=
    List.forall_mem_cons.mpr ⟨by decide, List.forall_mem_singleton.mpr (by decide)⟩
  exact guess_reads_back.1 _ hguessable _ _ hbefore (List.forall_mem_singleton.mpr (by decide))

end Guess

end Json

end Switchboard
