-- SUMMARY: The values that a document can have, and the keys of a value.
import Switchboard.Json.Writer
import Switchboard.Proofs.Json.Number
import Switchboard.Proofs.Keyed

/-!
# Canonical values

A value is canonical when it is one that the reader could have made: its numbers
are numerals and its objects have their members in key order, each key once. That
is all a writer may count on. It is not enough for the reader: an object that has
the reserved key may be taken for a number, and a value that nests too deep is
refused. `Json.Fits` is what both can do with.
-/

namespace Switchboard

namespace Json

/-- The value could have been read: its numbers are numerals and its objects are in key order. -/
inductive Canonical : Json → Prop where
  | null : Canonical .null
  | bool (b : Bool) : Canonical (.bool b)
  | num {n : JsonNumber} : n.IsNumeral → Canonical (.num n)
  | str (s : String) : Canonical (.str s)
  | arr {xs : List Json} : (∀ x ∈ xs, Canonical x) → Canonical (.arr xs)
  | obj {ms : Keyed Json} : Keyed.Sorted ms → (∀ e ∈ ms, Canonical e.2) → Canonical (.obj ms)

/-- An object in the value has the key. -/
inductive HasKey (key : String) : Json → Prop where
  | here {ms : Keyed Json} {v : Json} : (key, v) ∈ ms → HasKey key (.obj ms)
  | item {xs : List Json} {x : Json} : x ∈ xs → HasKey key x → HasKey key (.arr xs)
  | member {ms : Keyed Json} {e : String × Json} : e ∈ ms → HasKey key e.2 → HasKey key (.obj ms)

theorem Canonical.member {ms : Keyed Json} {key : String} {v : Json} (h : Canonical (.obj ms))
    (hv : Keyed.find? key ms = some v) : Canonical v := by
  cases h with
  | obj _ hms => exact hms (key, v) (Keyed.mem_of_find? hv)

theorem HasKey.of_find? {ms : Keyed Json} {key k : String} {v : Json}
    (hv : Keyed.find? k ms = some v) (h : HasKey key v) : HasKey key (.obj ms) :=
  .member (Keyed.mem_of_find? hv) h

theorem hasKey_arr_iff {xs : List Json} {key : String} :
    HasKey key (.arr xs) ↔ ∃ x ∈ xs, HasKey key x := by
  constructor
  · intro h
    cases h with
    | item hx hkey => exact ⟨_, hx, hkey⟩
  · rintro ⟨x, hx, hkey⟩
    exact .item hx hkey

theorem hasKey_obj_iff {ms : Keyed Json} {key : String} :
    HasKey key (.obj ms) ↔ ∃ e ∈ ms, e.1 = key ∨ HasKey key e.2 := by
  constructor
  · intro h
    cases h with
    | here he => exact ⟨_, he, .inl rfl⟩
    | member he hkey => exact ⟨_, he, .inr hkey⟩
  · rintro ⟨⟨k, v⟩, he, rfl | hkey⟩
    · exact .here he
    · exact .member he hkey

/-! ## Nesting -/

theorem nestingItems_le_iff {xs : List Json} {n : Nat} :
    nestingItems xs ≤ n ↔ ∀ x ∈ xs, x.nesting ≤ n := by
  induction xs with
  | nil => simp [nestingItems]
  | cons x xs ih => simp only [nestingItems, Nat.max_le, ih, List.forall_mem_cons]

theorem nestingMembers_le_iff {ms : Keyed Json} {n : Nat} :
    nestingMembers ms ≤ n ↔ ∀ e ∈ ms, e.2.nesting ≤ n := by
  induction ms with
  | nil => simp [nestingMembers]
  | cons e ms ih =>
    obtain ⟨k, v⟩ := e
    simp only [nestingMembers, Nat.max_le, ih, List.forall_mem_cons]

theorem nesting_arr_le_iff {xs : List Json} {n : Nat} :
    (Json.arr xs).nesting ≤ n + 1 ↔ ∀ x ∈ xs, x.nesting ≤ n := by
  rw [nesting, Nat.add_le_add_iff_right, nestingItems_le_iff]

theorem nesting_obj_le_iff {ms : Keyed Json} {n : Nat} :
    (Json.obj ms).nesting ≤ n + 1 ↔ ∀ e ∈ ms, e.2.nesting ≤ n := by
  rw [nesting, Nat.add_le_add_iff_right, nestingMembers_le_iff]

/-! ## Values that can be written and read -/

/-- The value is canonical, no object in it has the reserved key, and it nests at most so many
levels deep. -/
structure Fits (levels : Nat) (v : Json) : Prop where
  canonical : v.Canonical
  noReserved : ¬v.HasKey JsonNumber.reservedKey
  nesting : v.nesting ≤ levels

namespace Fits

variable {levels : Nat}

theorem null : Fits levels .null where
  canonical := .null
  noReserved := by rintro ⟨⟩
  nesting := Nat.zero_le levels

theorem str (s : String) : Fits levels (.str s) where
  canonical := .str s
  noReserved := by rintro ⟨⟩
  nesting := Nat.zero_le levels

theorem num {n : JsonNumber} (h : n.IsNumeral) : Fits levels (.num n) where
  canonical := .num h
  noReserved := by rintro ⟨⟩
  nesting := Nat.zero_le levels

theorem arr {xs : List Json} (hxs : ∀ x ∈ xs, Fits levels x) : Fits (levels + 1) (.arr xs) where
  canonical := .arr fun x hx => (hxs x hx).canonical
  noReserved := by
    rw [hasKey_arr_iff]
    rintro ⟨x, hx, hkey⟩
    exact (hxs x hx).noReserved hkey
  nesting := nesting_arr_le_iff.mpr fun x hx => (hxs x hx).nesting

theorem arr_nil : Fits (levels + 1) (.arr []) := .arr (by simp)

theorem obj {ms : Keyed Json} (hsorted : Keyed.Sorted ms)
    (hms : ∀ e ∈ ms, e.1 ≠ JsonNumber.reservedKey ∧ Fits levels e.2) : Fits (levels + 1) (.obj ms) where
  canonical := .obj hsorted fun e he => (hms e he).2.canonical
  noReserved := by
    rw [hasKey_obj_iff]
    rintro ⟨e, he, hkey | hkey⟩
    · exact (hms e he).1 hkey
    · exact (hms e he).2.noReserved hkey
  nesting := nesting_obj_le_iff.mpr fun e he => (hms e he).2.nesting

theorem member {ms : Keyed Json} {key : String} {v : Json} (h : Fits (levels + 1) (.obj ms))
    (hv : Keyed.find? key ms = some v) : Fits levels v where
  canonical := h.canonical.member hv
  noReserved hkey := h.noReserved (.of_find? hv hkey)
  nesting := nesting_obj_le_iff.mp h.nesting _ (Keyed.mem_of_find? hv)

/-- An object fits with some of its members as well. -/
theorem sublist {ms ns : Keyed Json} (h : Fits levels (.obj ms)) (hns : ns.Sublist ms) :
    Fits levels (.obj ns) where
  canonical := by
    cases h.canonical with
    | obj hsorted hms => exact .obj (hsorted.sublist hns) fun e he => hms e (hns.subset he)
  noReserved := by
    rw [hasKey_obj_iff]
    rintro ⟨e, he, hkey⟩
    exact h.noReserved (hasKey_obj_iff.mpr ⟨e, hns.subset he, hkey⟩)
  nesting := by
    refine Nat.le_trans (Nat.succ_le_succ ?_) h.nesting
    exact nestingMembers_le_iff.mpr fun e he => nestingMembers_le_iff.mp (Nat.le_refl _) e (hns.subset he)

end Fits

end Json

end Switchboard
