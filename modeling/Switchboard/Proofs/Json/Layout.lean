-- SUMMARY: The compact and the indented text of a value as layouts with blanks between the tokens.
import Switchboard.Proofs.Json.Canonical
import Switchboard.Proofs.Json.Quote

/-!
# Layouts

The compact and the indented text of a value differ in the blanks between its
tokens and in nothing else. A `Spacing` says which blanks these are, and
`Json.layout` writes a value with them; `compact_eq_layout` and `prettyAt_eq_layout`
are the two layouts of this library. The reader skips what a `Spacing.Blank` spacing
puts between the tokens.
-/

namespace Switchboard.Json

/-- The blanks of a layout. -/
structure Spacing where
  /-- Before an item, or before the bracket that ends a container, at a depth. -/
  gap : Nat → String
  /-- Between the colon and the value of a member. -/
  afterColon : String

def Spacing.compact : Spacing := { gap := fun _ => "", afterColon := "" }

def Spacing.pretty : Spacing := { gap := newline, afterColon := " " }

/-- The reader skips everything that the spacing puts between tokens. -/
structure Spacing.Blank (σ : Spacing) : Prop where
  gap : ∀ depth, ∀ b ∈ Text.octets (σ.gap depth), Reader.isBlank b
  afterColon : ∀ b ∈ Text.octets σ.afterColon, Reader.isBlank b

mutual

/-- The text of a value that stands at the given depth. -/
def layout (σ : Spacing) (depth : Nat) : Json → String
  | .null => "null"
  | .bool b => boolText b
  | .num n => n.token
  | .str s => quote s
  | .arr [] => "[]"
  | .arr (x :: xs) => "[" ++ σ.gap (depth + 1) ++ x.layout σ (depth + 1) ++ layoutItems σ depth xs
  | .obj [] => "\x7b\x7d"
  | .obj ((k, v) :: ms) =>
    "\x7b" ++ σ.gap (depth + 1) ++ quote k ++ ":" ++ σ.afterColon ++ v.layout σ (depth + 1)
      ++ layoutMembers σ depth ms
termination_by structural v => v

/-- What follows the first item of an array. -/
def layoutItems (σ : Spacing) (depth : Nat) : List Json → String
  | [] => σ.gap depth ++ "]"
  | x :: xs => "," ++ σ.gap (depth + 1) ++ x.layout σ (depth + 1) ++ layoutItems σ depth xs
termination_by structural xs => xs

/-- What follows the first member of an object. -/
def layoutMembers (σ : Spacing) (depth : Nat) : List (String × Json) → String
  | [] => σ.gap depth ++ "\x7d"
  | (k, v) :: ms =>
    "," ++ σ.gap (depth + 1) ++ quote k ++ ":" ++ σ.afterColon ++ v.layout σ (depth + 1)
      ++ layoutMembers σ depth ms
termination_by structural ms => ms

end

/-! ## The two layouts -/

mutual

theorem compact_eq_layout (depth : Nat) : (v : Json) → v.compact = v.layout .compact depth
  | .null | .bool _ | .num _ | .str _ | .arr [] | .obj [] => by simp only [compact, layout]
  | .arr (x :: xs) => by
    simp only [compact, layout, Spacing.compact, String.append_empty]
    rw [compact_eq_layout (depth + 1) x, compactItems_eq_layout depth xs]
    rfl
  | .obj ((k, v) :: ms) => by
    simp only [compact, layout, Spacing.compact, String.append_empty]
    rw [compact_eq_layout (depth + 1) v, compactMembers_eq_layout depth ms]
    rfl
termination_by structural v => v

theorem compactItems_eq_layout (depth : Nat) :
    (xs : List Json) → compactItems xs = layoutItems .compact depth xs
  | [] => by simp only [compactItems, layoutItems, Spacing.compact, String.empty_append]
  | x :: xs => by
    simp only [compactItems, layoutItems, Spacing.compact, String.append_empty]
    rw [compact_eq_layout (depth + 1) x, compactItems_eq_layout depth xs]
    rfl
termination_by structural xs => xs

theorem compactMembers_eq_layout (depth : Nat) :
    (ms : List (String × Json)) → compactMembers ms = layoutMembers .compact depth ms
  | [] => by simp only [compactMembers, layoutMembers, Spacing.compact, String.empty_append]
  | (k, v) :: ms => by
    simp only [compactMembers, layoutMembers, Spacing.compact, String.append_empty]
    rw [compact_eq_layout (depth + 1) v, compactMembers_eq_layout depth ms]
    rfl
termination_by structural ms => ms

end

/-- The colon and the blank behind it. -/
theorem append_colon_blank (s : String) : s ++ ": " = s ++ ":" ++ " " := by
  rw [String.append_assoc]
  rfl

mutual

theorem prettyAt_eq_layout (depth : Nat) : (v : Json) → v.prettyAt depth = v.layout .pretty depth
  | .null | .bool _ | .num _ | .str _ | .arr [] | .obj [] => by simp only [prettyAt, layout]
  | .arr (x :: xs) => by
    simp only [prettyAt, layout]
    rw [prettyAt_eq_layout (depth + 1) x, prettyItems_eq_layout depth xs]
    rfl
  | .obj ((k, v) :: ms) => by
    simp only [prettyAt, layout, append_colon_blank]
    rw [prettyAt_eq_layout (depth + 1) v, prettyMembers_eq_layout depth ms]
    rfl
termination_by structural v => v

theorem prettyItems_eq_layout (depth : Nat) :
    (xs : List Json) → prettyItems depth xs = layoutItems .pretty depth xs
  | [] => by simp only [prettyItems, layoutItems, Spacing.pretty]
  | x :: xs => by
    simp only [prettyItems, layoutItems]
    rw [prettyAt_eq_layout (depth + 1) x, prettyItems_eq_layout depth xs]
    rfl
termination_by structural xs => xs

theorem prettyMembers_eq_layout (depth : Nat) :
    (ms : List (String × Json)) → prettyMembers depth ms = layoutMembers .pretty depth ms
  | [] => by simp only [prettyMembers, layoutMembers, Spacing.pretty]
  | (k, v) :: ms => by
    simp only [prettyMembers, layoutMembers, append_colon_blank]
    rw [prettyAt_eq_layout (depth + 1) v, prettyMembers_eq_layout depth ms]
    rfl
termination_by structural ms => ms

end

theorem Spacing.blank_compact : Spacing.compact.Blank where
  gap _ _ h := by cases h
  afterColon _ h := by cases h

theorem Spacing.blank_pretty : Spacing.pretty.Blank where
  gap depth b h := by
    have hplain : ∀ c ∈ '\n' :: List.replicate (2 * depth) ' ', c = '\n' ∨ c = ' ' := by
      intro c hc
      rcases List.mem_cons.mp hc with rfl | hc
      · exact .inl rfl
      · exact .inr (List.eq_of_mem_replicate hc)
    have hlow : ∀ c ∈ '\n' :: List.replicate (2 * depth) ' ', c.toNat < 0x80 := by
      intro c hc
      rcases hplain c hc with rfl | rfl <;> decide
    have h : b ∈ Text.octets (newline depth) := h
    rw [newline, Text.octets_ofList_of_plain hlow, Text.plainOctets, List.mem_map] at h
    obtain ⟨c, hc, rfl⟩ := h
    rcases hplain c hc with rfl | rfl <;> decide
  afterColon b h := by
    have hspace : Text.octets " " = [0x20] := by decide
    have h : b ∈ Text.octets " " := h
    rw [hspace, List.mem_singleton] at h
    subst h
    decide

end Switchboard.Json
