-- SUMMARY: The compact text of a value has no control characters, so it is one line.
import Switchboard.Proofs.Json.Canonical
import Switchboard.Proofs.Text.Plain
import Switchboard.Proofs.Text.Trim

/-!
# Compact texts on one line

The compact layout has no blanks of its own, a numeral has none either, and inside a
string every control character is escaped. So the text of a canonical value has no
control character anywhere, and an object stands between its two braces.
-/

namespace Switchboard

namespace Text

/-- No control character below U+0020 occurs. -/
def Unbroken (s : String) : Prop := ∀ c ∈ s.toList, 0x20 ≤ c.toNat

/-- This is decided along the list. There are finitely many characters, so the statement as it is
may also be decided by trying them all. -/
instance (s : String) : Decidable (Unbroken s) :=
  decidable_of_iff ((s.toList.all fun c => 0x20 ≤ c.toNat) = true) (by simp [Unbroken])

theorem Unbroken.append {s t : String} (hs : Unbroken s) (ht : Unbroken t) : Unbroken (s ++ t) := by
  intro c hc
  rw [String.toList_append, List.mem_append] at hc
  exact hc.elim (hs c) (ht c)

theorem Unbroken.le_of_mem_octets {s : String} (h : Unbroken s) {b : UInt8} (hb : b ∈ octets s) :
    0x20 ≤ b.toNat := by
  rw [← String.ofList_toList (s := s), octets_ofList, List.mem_flatMap] at hb
  obtain ⟨c, hc, hb⟩ := hb
  by_cases hplain : c.toNat < 0x80
  · rw [utf8EncodeChar_of_plain hplain, List.mem_singleton] at hb
    rw [hb, UInt8.toNat_ofNat', Nat.mod_eq_of_lt (by omega)]
    exact h c hc
  · exact Nat.le_trans (by decide) (le_of_mem_utf8EncodeChar (Nat.le_of_not_lt hplain) hb)

end Text

open Text

/-! ## Numerals -/

namespace JsonNumber

theorem IsNumeral.unbroken {n : JsonNumber} (h : n.IsNumeral) : Unbroken n.token :=
  fun c hc => Nat.le_of_lt (h.isMark c hc).bounds.1

theorem IsMark.isBlank {c : Char} (h : IsMark c) : Text.isBlank c = false := by
  have hbounds := h.bounds
  simp [Text.isBlank]
  omega

theorem IsNumeral.bare {n : JsonNumber} (h : n.IsNumeral) : Bare n.token := by
  refine bare_of_forall ?_ fun c hc => (h.isMark c hc).isBlank
  obtain ⟨negative, w, f, e, hw, -, -, htoken⟩ := h
  rw [htoken, String.toList_ofList]
  simp [hw.ne_nil]

end JsonNumber

namespace Json

/-! ## Values -/

theorem le_hexDigit : ∀ n < 16, 0x20 ≤ (hexDigit n).toNat := by
  decide

theorem le_of_mem_escape {c d : Char} (h : d ∈ escape c) : 0x20 ≤ d.toNat := by
  unfold escape at h
  split at h
  all_goals try
    simp only [List.mem_cons, List.not_mem_nil, or_false] at h
    rcases h with rfl | rfl <;> decide
  split at h
  · simp only [List.mem_cons, List.not_mem_nil, or_false] at h
    rcases h with rfl | rfl | rfl | rfl | rfl | rfl
    · decide
    · decide
    · decide
    · decide
    · exact le_hexDigit _ (by omega)
    · exact le_hexDigit _ (by omega)
  · next hlow =>
    rw [List.mem_singleton.mp h]
    exact Nat.le_of_not_lt hlow

theorem unbroken_quote (s : String) : Unbroken (quote s) := by
  have hquote : Unbroken "\"" := by decide
  refine (hquote.append ?_).append hquote
  intro d hd
  rw [String.toList_ofList, List.mem_flatMap] at hd
  obtain ⟨c, -, hd⟩ := hd
  exact le_of_mem_escape hd

mutual

theorem unbroken_compact : (v : Json) → v.Canonical → Unbroken v.compact
  | .null, _ => by decide
  | .bool b, _ => by cases b <;> decide
  | .num n, .num h => h.unbroken
  | .str s, _ => unbroken_quote s
  | .arr [], _ => by decide
  | .arr (x :: xs), .arr h => by
    rw [compact]
    have hopen : Unbroken "[" := by decide
    have hx := unbroken_compact x (h x List.mem_cons_self)
    have hxs := unbroken_compactItems xs fun y hy => h y (List.mem_cons_of_mem x hy)
    exact (hopen.append hx).append hxs
  | .obj [], _ => by decide
  | .obj ((k, v) :: ms), .obj _ h => by
    rw [compact]
    have hopen : Unbroken "\x7b" := by decide
    have hcolon : Unbroken ":" := by decide
    have hv := unbroken_compact v (h (k, v) List.mem_cons_self)
    have hms := unbroken_compactMembers ms fun e he => h e (List.mem_cons_of_mem _ he)
    exact (((hopen.append (unbroken_quote k)).append hcolon).append hv).append hms
termination_by structural v => v

theorem unbroken_compactItems :
    (xs : List Json) → (∀ x ∈ xs, x.Canonical) → Unbroken (compactItems xs)
  | [], _ => by decide
  | x :: xs, h => by
    rw [compactItems]
    have hcomma : Unbroken "," := by decide
    have hx := unbroken_compact x (h x List.mem_cons_self)
    have hxs := unbroken_compactItems xs fun y hy => h y (List.mem_cons_of_mem x hy)
    exact (hcomma.append hx).append hxs
termination_by structural xs => xs

theorem unbroken_compactMembers :
    (ms : List (String × Json)) → (∀ e ∈ ms, e.2.Canonical) → Unbroken (compactMembers ms)
  | [], _ => by decide
  | (k, v) :: ms, h => by
    rw [compactMembers]
    have hcomma : Unbroken "," := by decide
    have hcolon : Unbroken ":" := by decide
    have hv := unbroken_compact v (h (k, v) List.mem_cons_self)
    have hms := unbroken_compactMembers ms fun e he => h e (List.mem_cons_of_mem _ he)
    exact (((hcomma.append (unbroken_quote k)).append hcolon).append hv).append hms
termination_by structural ms => ms

end

/-! ## Containers -/

theorem exists_compactItems (xs : List Json) : ∃ inner, compactItems xs = inner ++ "]" := by
  induction xs with
  | nil => exact ⟨"", rfl⟩
  | cons x xs ih =>
    obtain ⟨inner, hinner⟩ := ih
    refine ⟨"," ++ x.compact ++ inner, ?_⟩
    rw [compactItems, hinner]
    simp only [String.append_assoc]

theorem exists_compact_arr (xs : List Json) : ∃ inner, (Json.arr xs).compact = "[" ++ inner ++ "]" := by
  cases xs with
  | nil => exact ⟨"", rfl⟩
  | cons x xs =>
    obtain ⟨inner, hinner⟩ := exists_compactItems xs
    refine ⟨x.compact ++ inner, ?_⟩
    rw [compact, hinner]
    simp only [String.append_assoc]

theorem exists_compactMembers (ms : List (String × Json)) :
    ∃ inner, compactMembers ms = inner ++ "\x7d" := by
  induction ms with
  | nil => exact ⟨"", rfl⟩
  | cons e ms ih =>
    obtain ⟨k, v⟩ := e
    obtain ⟨inner, hinner⟩ := ih
    refine ⟨"," ++ quote k ++ ":" ++ v.compact ++ inner, ?_⟩
    rw [compactMembers, hinner]
    simp only [String.append_assoc]

theorem exists_compact_obj (ms : Keyed Json) :
    ∃ inner, (Json.obj ms).compact = "\x7b" ++ inner ++ "\x7d" := by
  match ms with
  | [] => exact ⟨"", rfl⟩
  | (k, v) :: ms =>
    obtain ⟨inner, hinner⟩ := exists_compactMembers ms
    refine ⟨quote k ++ ":" ++ v.compact ++ inner, ?_⟩
    rw [compact, hinner]
    simp only [String.append_assoc]

/-- No value has a text that starts or ends with a blank. -/
theorem bare_compact {v : Json} (hv : v.Canonical) : Bare v.compact := by
  have hplain {s : String} (hs : s.toList ≠ []) (h : s.toList.all (fun c => !isBlank c) = true) : Bare s :=
    bare_of_forall hs (by simpa using h)
  cases hv with
  | null => exact hplain (by decide) (by decide)
  | bool b => cases b <;> exact hplain (by decide) (by decide)
  | num h => exact h.bare
  | str s => exact bare_append (hplain (by decide) (by decide)) (hplain (by decide) (by decide))
  | @arr xs _ =>
    obtain ⟨inner, hinner⟩ := exists_compact_arr xs
    rw [hinner]
    exact bare_append (hplain (by decide) (by decide)) (hplain (by decide) (by decide))
  | @obj ms _ _ =>
    obtain ⟨inner, hinner⟩ := exists_compact_obj ms
    rw [hinner]
    exact bare_append (hplain (by decide) (by decide)) (hplain (by decide) (by decide))

end Json

end Switchboard
