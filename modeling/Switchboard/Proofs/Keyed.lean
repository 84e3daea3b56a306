-- SUMMARY: Laws of keyed lists: in-order tables, look-up and membership.
import Switchboard.Keyed

/-!
# Laws of keyed lists

A table that was made by insertion is in key order, and one that is in key order
already is left as it is by inserting its entries once more.
-/

namespace Switchboard.Keyed

variable {α : Type}

theorem find?_map {β : Type} (f : String → α → β) (key : String) (t : Keyed α) :
    find? key (t.map fun e => (e.1, f e.1 e.2)) = (find? key t).map (f key) := by
  induction t with
  | nil => rfl
  | cons e rest ih =>
    by_cases h : e.1 = key
    · simp [find?, h]
    · simp [find?, h, ih]

theorem sorted_of_keys {t : Keyed α} (h : (keys t).Pairwise (· < ·)) : Sorted t :=
  List.pairwise_map.mp h

theorem insert_of_forall_lt {key : String} {v : α} {t : Keyed α} (h : ∀ e ∈ t, e.1 < key) :
    insert key v t = t ++ [(key, v)] := by
  induction t with
  | nil => rfl
  | cons e rest ih =>
    obtain ⟨k, w⟩ := e
    have hk : k < key := h (k, w) List.mem_cons_self
    have hrest := ih fun e he => h e (List.mem_cons_of_mem _ he)
    have hlt : ¬key < k := fun hlt => String.lt_irrefl k (String.lt_trans hk hlt)
    have hne : key ≠ k := by
      rintro rfl
      exact String.lt_irrefl key hk
    simp only [insert, hlt, hne, if_false, hrest, List.cons_append]

theorem foldl_insert_of_sorted {s t : Keyed α} (h : Sorted (s ++ t)) :
    t.foldl (fun u e => insert e.1 e.2 u) s = s ++ t := by
  induction t generalizing s with
  | nil => simp
  | cons e rest ih =>
    have hlt : ∀ d ∈ s, d.1 < e.1 := fun d hd =>
      (List.pairwise_append.mp h).2.2 d hd e List.mem_cons_self
    have happend : s ++ e :: rest = (s ++ [e]) ++ rest := by simp
    rw [List.foldl_cons, insert_of_forall_lt hlt, ih (happend ▸ h), happend]

/-- A table that is in order already is the table of its entries. -/
theorem ofList_of_sorted {t : Keyed α} (h : Sorted t) : ofList t = t :=
  foldl_insert_of_sorted (s := []) h

theorem sorted_foldl_insert (t : List (String × α)) {s : Keyed α} (h : Sorted s) :
    Sorted (t.foldl (fun u e => insert e.1 e.2 u) s) := by
  induction t generalizing s with
  | nil => exact h
  | cons e rest ih => exact ih (h.insert e.1 e.2)

theorem sorted_ofList (t : List (String × α)) : Sorted (ofList t) :=
  sorted_foldl_insert t List.Pairwise.nil

theorem mem_of_mem_foldl_insert {t : List (String × α)} {s : Keyed α} {e : String × α}
    (h : e ∈ t.foldl (fun u e => insert e.1 e.2 u) s) : e ∈ s ∨ e ∈ t := by
  induction t generalizing s with
  | nil => exact .inl h
  | cons d rest ih =>
    rcases ih h with h | h
    · rcases mem_insert h with rfl | h
      · exact .inr List.mem_cons_self
      · exact .inl h
    · exact .inr (List.mem_cons_of_mem d h)

theorem mem_of_mem_ofList {t : List (String × α)} {e : String × α} (h : e ∈ ofList t) : e ∈ t := by
  rcases mem_of_mem_foldl_insert h with h | h
  · cases h
  · exact h

theorem mem_of_find? {key : String} {v : α} {t : Keyed α} (h : find? key t = some v) : (key, v) ∈ t := by
  induction t with
  | nil => cases h
  | cons e rest ih =>
    simp only [find?] at h
    split at h
    · next hk =>
      cases h
      exact hk ▸ List.mem_cons_self
    · exact List.mem_cons_of_mem e (ih h)

theorem eq_nil_of_find? {t : Keyed α} (h : ∀ key, find? key t = none) : t = [] := by
  cases t with
  | nil => rfl
  | cons e rest =>
    have hhead := h e.1
    simp [find?] at hhead

/-- Dropping entries by their keys. -/
theorem find?_filter (p : String → Prop) [DecidablePred p] (key : String) (t : Keyed α) :
    find? key (t.filter fun e => p e.1) = if p key then find? key t else none := by
  induction t with
  | nil => simp [find?]
  | cons e rest ih =>
    by_cases hp : p e.1
    · by_cases h : e.1 = key
      · subst h
        simp [hp, find?]
      · simp [hp, find?, h, ih]
    · by_cases h : e.1 = key
      · subst h
        simp [hp, ih]
      · simp [hp, find?, h, ih]

theorem find?_erase (key k : String) (t : Keyed α) :
    find? key (erase k t) = if k = key then none else find? key t := by
  induction t with
  | nil => simp [erase, find?]
  | cons e rest ih =>
    obtain ⟨k', v'⟩ := e
    simp only [erase, List.filter_cons] at ih ⊢
    by_cases hk : k' = k
    · subst hk
      by_cases h : k' = key <;> simp_all [find?]
    · by_cases h : k' = key
      · subst h
        simp [find?, hk, Ne.symm hk]
      · simp_all [find?]

theorem find?_eq_none {key : String} {t : Keyed α} (h : ∀ e ∈ t, e.1 ≠ key) : find? key t = none := by
  cases hfind : find? key t with
  | none => rfl
  | some v => exact absurd rfl (h _ (mem_of_find? hfind))

theorem find?_isSome_iff {key : String} {t : Keyed α} : (find? key t).isSome ↔ key ∈ keys t := by
  induction t with
  | nil => simp [find?, keys]
  | cons e rest ih =>
    by_cases h : e.1 = key
    · simp [find?, keys, h]
    · simpa [find?, keys, h, Ne.symm h] using ih

theorem Sorted.find?_of_lt {key k : String} {v : α} {rest : Keyed α} (h : Sorted ((k, v) :: rest))
    (hkey : key ≤ k) : find? key rest = none := by
  refine find?_eq_none fun e he heq => ?_
  have hlt : k < e.1 := (List.pairwise_cons.1 h).1 e he
  rw [heq] at hlt
  exact String.not_le.2 hlt hkey

/-- Two tables in order that agree on every key are the same. -/
theorem Sorted.ext {s t : Keyed α} (hs : Sorted s) (ht : Sorted t)
    (h : ∀ key, find? key s = find? key t) : s = t := by
  induction s generalizing t with
  | nil => exact (eq_nil_of_find? fun key => (h key).symm).symm
  | cons d rest ih =>
    cases t with
    | nil => exact eq_nil_of_find? h
    | cons e rest' =>
      obtain ⟨k, v⟩ := d
      obtain ⟨j, w⟩ := e
      have hk := h k
      have hj := h j
      -- The lesser of the two first keys would be missing from the other table.
      have hkj : k = j := by
        by_cases hkj : k = j
        · exact hkj
        · simp only [find?, if_true, Ne.symm hkj, hkj, if_false] at hk hj
          rcases String.le_total k j with hle | hle
          · rw [ht.find?_of_lt hle] at hk
            cases hk
          · rw [hs.find?_of_lt hle] at hj
            cases hj
      subst hkj
      simp only [find?, if_true, Option.some.injEq] at hk
      subst hk
      congr 1
      refine ih (List.pairwise_cons.1 hs).2 (List.pairwise_cons.1 ht).2 fun key => ?_
      by_cases hkey : k = key
      · subst hkey
        rw [hs.find?_of_lt (String.le_refl k), ht.find?_of_lt (String.le_refl k)]
      · have := h key
        simpa only [find?, hkey, if_false] using this

end Switchboard.Keyed
