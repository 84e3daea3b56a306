-- SUMMARY: A typed record is read back from the text of its members, field by field.
import Switchboard.Json.Document
import Switchboard.Proofs.Json.RoundTrip
import Switchboard.Proofs.Message.RoundTrip

/-!
# Reading records back

A record is read member by member into a draft. `Fills` says what the members of a
text make of a draft, one after the other, each with the reader of its own field;
the record is what the last draft comes to (`takes_record`). The readers of scalars
take what the writer writes for them.
-/

namespace Switchboard

theorem Json.Fits.takes_compact {levels : Nat} {v : Json} (h : v.Fits levels) :
    Json.Reader.Takes (Json.Reader.value levels) (Text.octets v.compact) v := by
  rw [compact_eq_layout 0]
  exact takes_layout Spacing.blank_compact h.canonical h.noReserved h.nesting

namespace Document

open Json Json.Reader Text

/-! ## Scalars -/

section Scalars

variable {levels : Nat}

theorem takes_numeral (wanted : String) {n : JsonNumber} (h : n.IsNumeral) :
    Takes (numeral wanted) (octets n.token) n := by
  intro rest hrest
  obtain ⟨negative, w, f, e, hw, hf, he, hn⟩ := h
  have hnumber := @number_append negative _ _ _ _ hw hf he hrest
  rw [← hn] at hnumber
  rw [octets_token hw hf he hn]
  cases negative with
  | true =>
    have hminus : ascii 0x2d = '-' := by decide
    have hblank : isBlank 0x2d = false := by decide
    change numeral wanted (0x2d :: (plainOctets (w ++ f ++ e) ++ rest)) = _
    simp only [numeral, skipBlanks_cons hblank, hminus, if_true, hnumber]
  | false =>
    obtain ⟨c, cs, rfl, hc⟩ := exists_digit_of_isWhole hw
    obtain ⟨b, t, hbt, hblank, -⟩ := starts_of_isDigit hc (cs ++ f ++ e)
    obtain ⟨rfl, rfl⟩ := List.cons.inj hbt
    have hminus : c ≠ '-' := by
      rintro rfl
      exact absurd hc (by decide)
    change numeral wanted (UInt8.ofNat c.toNat :: (plainOctets (cs ++ f ++ e) ++ rest)) = _
    simp only [numeral, skipBlanks_cons hblank, ascii_ofNat (toNat_lt_of_isDigit hc), hminus, if_false,
      isDigit_ofNat hc, if_true]
    exact hnumber

theorem integer?_ofInt {i : Int} (h : inUInt64 i ∨ inInt64 i) : integer? (.ofInt i) = some i := by
  simp only [integer?, JsonNumber.toInt?_ofInt]
  exact if_pos ⟨JsonNumber.token_ofInt_ne i, h⟩

theorem takes_int (wanted : String) (levels : Nat) {inRange : Int → Bool} {i : Int} (hi : inRange i)
    (hword : inUInt64 i ∨ inInt64 i) :
    Takes (int wanted inRange levels) (octets (JsonNumber.ofInt i).token) i := by
  intro rest hrest
  have hnumeral := takes_numeral wanted (JsonNumber.isNumeral_ofInt i) rest hrest
  simp only [int, hnumeral, bind, Except.bind, integer?_ofInt hword, hi, if_true, pure, Except.pure]

theorem takes_text (s : String) (levels : Nat) : Takes (text levels) (octets (quote s)) s := by
  intro rest _
  have hquote : ascii 0x22 = '"' := by decide
  have hblank : isBlank 0x22 = false := by decide
  rw [octets_quote, List.cons_append, List.append_assoc, List.singleton_append]
  simp only [text, skipBlanks_cons hblank, hquote, if_true, string_append]

/-- Null is taken for nothing. -/
theorem takes_option_json {v : Json} (hv : v.Fits levels) :
    Takes (option json levels) (octets v.compact) (if v = .null then none else some v) := by
  intro rest hrest
  have hread := hv.takes_compact rest hrest
  by_cases hnull : v = .null
  · subst hnull
    have h : octets "null" = [0x6e, 0x75, 0x6c, 0x6c] := by decide
    rw [if_pos rfl, compact, h]
    rfl
  · have hstarts : Starts (octets v.compact) := by
      rw [compact_eq_layout 0]
      exact starts_layout hv.canonical
    obtain ⟨b, t, hbt, hblank, -⟩ := hstarts.append rest
    rw [hbt] at hread ⊢
    have hletter : ascii b ≠ 'n' := by
      intro hletter
      cases levels <;>
      · simp only [value, valueWith, skipBlanks_cons hblank, hletter] at hread
        obtain ⟨u, -, h⟩ := map_eq_ok.mp hread
        cases h
        exact hnull rfl
    simp only [option, skipBlanks_cons hblank, hletter, if_false, json, hread, Except.map, hnull]

end Scalars

/-! ## Members -/

section Members

variable {σ α : Type} {levels fuel : Nat} {fields : List (Field σ)} {d d' : σ}
  {ms : List (String × Json)}

/-- The members, read one after the other, make `d'` of the draft `d`. -/
inductive Fills (levels : Nat) (fields : List (Field σ)) : σ → List (String × Json) → σ → Prop
  | nil (d : σ) : Fills levels fields d [] d
  | cons {d₁ d₂ d₃ : σ} {f : Field σ} {k : String} {v : Json} {ms : List (String × Json)}
      (field : fields.find? (fun f => f.name = k) = some f) (unset : f.isSet d₁ = false)
      (takes : Takes (f.read d₁ levels) (octets v.compact) d₂) (rest : Fills levels fields d₂ ms d₃) :
      Fills levels fields d₁ ((k, v) :: ms) d₃

/-- The octets of a member in a compact text, from its key on. -/
theorem memberOctets_compact (k : String) (v : Json) (rest : Octets) :
    memberOctets .compact 0 k v rest =
      quotedOctets k.toList ++ 0x22 :: 0x3a :: (octets v.compact ++ rest) := by
  rw [memberOctets, ← compact_eq_layout]
  rfl

theorem fieldsByName_cons (fuel : Nat) {f : Field σ} {k : String} {v : Json} (first : Bool) {rest : Octets}
    (hfield : fields.find? (fun f => f.name = k) = some f) (hunset : f.isSet d = false)
    (htakes : Takes (f.read d levels) (octets v.compact) d') (hrest : EndsNumber rest) :
    fieldsByName levels fields (fuel + 1) first d
        ((if first then [] else [0x2c]) ++ 0x22 :: memberOctets .compact 0 k v rest) =
      fieldsByName levels fields fuel false d' rest := by
  have hcomma : ascii 0x2c = ',' := by decide
  have hquote : ascii 0x22 = '"' := by decide
  have hnotEnd : ',' ≠ '\x7d' := by decide
  have hnotEnd' : '"' ≠ '\x7d' := by decide
  have hblank : isBlank 0x2c = false := by decide
  have hkey : isBlank 0x22 = false := by decide
  have hread := htakes rest hrest
  rw [memberOctets_compact]
  cases first with
  | true =>
    rw [if_pos rfl, List.nil_append, fieldsByName]
    simp only [skipBlanks_cons hkey, hquote, hnotEnd', if_false, if_true, string_append, hfield, hunset,
      Bool.false_eq_true, colon_cons, hread, bind, Except.bind]
  | false =>
    rw [if_neg Bool.false_ne_true, List.singleton_append, fieldsByName]
    simp only [skipBlanks_cons hblank, hcomma, hnotEnd, keyAfterComma_cons, if_false, if_true,
      string_append, hfield, hunset, Bool.false_eq_true, colon_cons, hread, bind, Except.bind]

/-- What is left of the text is the brace that ends the object. -/
theorem fieldsByName_compact (h : Fills levels fields d ms d') (hfuel : ms.length < fuel) (rest : Octets) :
    fieldsByName levels fields fuel false d (octets (compactMembers ms) ++ rest) =
      .ok (.ok d', 0x7d :: rest) := by
  induction h generalizing fuel with
  | nil d =>
    cases fuel with
    | zero => cases hfuel
    | succ fuel =>
      have hclose : ascii 0x7d = '\x7d' := by decide
      have hblank : isBlank 0x7d = false := by decide
      have h : octets "\x7d" = [0x7d] := by decide
      rw [compactMembers, h, List.singleton_append, fieldsByName]
      simp only [skipBlanks_cons hblank, hclose, if_true, pure, Except.pure]
  | @cons d₁ d₂ d₃ f k v ms field unset takes _ ih =>
    cases fuel with
    | zero => cases hfuel
    | succ fuel =>
      have hends := endsNumber_layoutMembers Spacing.blank_compact 0 ms rest
      have hmember := fieldsByName_cons fuel false field unset takes hends
      rw [if_neg Bool.false_ne_true, List.singleton_append] at hmember
      rw [compactMembers_eq_layout 0, octets_layoutMembers_cons, List.cons_append, List.append_assoc,
        List.cons_append, memberOctets_append]
      change fieldsByName levels fields (fuel + 1) false d₁ (0x2c :: 0x22 :: _) = _
      rw [hmember, ← compactMembers_eq_layout 0]
      exact ih (Nat.lt_of_succ_lt_succ hfuel)

/-- The record of a draft that is complete when all members have been read. -/
theorem takes_record (name : String) {empty : σ} {finish : σ → Except String α} {a : α}
    {e : String × Json} (h : Fills levels fields empty (e :: ms) d) (hfinish : finish d = .ok a) :
    Takes (record name fields empty finish (levels + 1)) (octets (Json.obj (e :: ms)).compact) a := by
  intro rest _
  have hbrace : ascii 0x7b = '\x7b' := by decide
  have hnotBracket : '\x7b' ≠ '[' := by decide
  have hblank : isBlank 0x7b = false := by decide
  obtain ⟨k, v⟩ := e
  cases h with
  | cons field unset takes more =>
    have hends := endsNumber_layoutMembers Spacing.blank_compact 0 ms rest
    rw [← compactMembers_eq_layout 0] at hends
    have hfuel : ms.length <
        (0x22 :: memberOctets .compact 0 k v (octets (compactMembers ms) ++ rest)).length := by
      have hlength := length_le_layoutMembers .compact 0 ms
      rw [← compactMembers_eq_layout 0] at hlength
      rw [memberOctets_compact]
      simp only [List.length_cons, List.length_append]
      omega
    have hmembers := (fieldsByName_cons _ true field unset takes hends).trans
      (fieldsByName_compact more hfuel rest)
    rw [if_pos rfl, List.nil_append] at hmembers
    rw [compact_eq_layout 0, octets_layout_obj, List.cons_append, List.append_assoc, List.cons_append,
      memberOctets_append, ← compactMembers_eq_layout 0]
    change record name fields empty finish (levels + 1) (0x7b :: 0x22 :: _) = _
    simp only [record, skipBlanks_cons hblank, hbrace, hnotBracket, if_false, if_true, hmembers, bind,
      Except.bind, hfinish, closeObject_cons, Except.map]

end Members

end Document

end Switchboard
