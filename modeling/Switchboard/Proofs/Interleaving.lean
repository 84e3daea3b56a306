-- SUMMARY: Interleavings of several lists.

/-!
# Interleavings

A list interleaves several others if each of its entries can be given the number of
one of them, so that the entries of one number are that list, in its order.
-/

namespace Switchboard

variable {α : Type}

/-- `ys` consists of the entries of the lists `xss`, those of one list in its order. -/
def Interleaves (xss : List (List α)) (ys : List α) : Prop :=
  ∃ tagged : List (Nat × α), tagged.map Prod.snd = ys ∧ (∀ e ∈ tagged, e.1 < xss.length) ∧
    ∀ i xs, xss[i]? = some xs → (tagged.filter fun e => e.1 = i).map Prod.snd = xs

namespace Interleaves

theorem nil : Interleaves ([] : List (List α)) [] :=
  ⟨[], rfl, by simp, by simp⟩

/-- One more list, of which nothing has been taken yet. -/
theorem concat_nil {xss : List (List α)} {ys : List α} (h : Interleaves xss ys) :
    Interleaves (xss ++ [[]]) ys := by
  obtain ⟨tagged, hys, hlt, hxs⟩ := h
  refine ⟨tagged, hys, ?_, ?_⟩
  · intro e he
    rw [List.length_append]
    exact Nat.lt_succ_of_lt (hlt e he)
  · intro i xs hi
    rw [List.getElem?_append] at hi
    split at hi
    · exact hxs i xs hi
    · next hlength =>
      rw [List.getElem?_singleton] at hi
      split at hi
      · cases hi
        rw [List.map_eq_nil_iff, List.filter_eq_nil_iff]
        intro e he
        have hlt := hlt e he
        simp only [decide_eq_true_eq]
        omega
      · cases hi

/-- One more entry at the end of one of the lists. -/
theorem concat {xss : List (List α)} {ys xs : List α} {i : Nat} (h : Interleaves xss ys)
    (hi : xss[i]? = some xs) (y : α) : Interleaves (xss.set i (xs ++ [y])) (ys ++ [y]) := by
  obtain ⟨tagged, hys, hlt, hxs⟩ := h
  have hlength : i < xss.length := (List.getElem?_eq_some_iff.mp hi).1
  refine ⟨tagged ++ [(i, y)], ?_, ?_, ?_⟩
  · rw [List.map_append, hys]
    rfl
  · intro e he
    rw [List.length_set]
    rcases List.mem_append.mp he with he | he
    · exact hlt e he
    · rw [List.mem_singleton] at he
      subst he
      exact hlength
  · intro j zs hj
    rw [List.filter_append, List.map_append]
    by_cases hij : i = j
    · subst hij
      rw [List.getElem?_set_self hlength] at hj
      cases hj
      rw [hxs i xs hi]
      simp
    · rw [List.getElem?_set_ne hij] at hj
      rw [hxs j zs hj]
      simp [hij]

theorem mem {xss : List (List α)} {ys : List α} (h : Interleaves xss ys) {y : α} (hy : y ∈ ys) :
    ∃ xs ∈ xss, y ∈ xs := by
  obtain ⟨tagged, rfl, hlt, hxs⟩ := h
  obtain ⟨e, he, rfl⟩ := List.mem_map.mp hy
  obtain ⟨xs, hi⟩ : ∃ xs, xss[e.1]? = some xs := ⟨_, List.getElem?_eq_getElem (hlt e he)⟩
  refine ⟨xs, List.mem_of_getElem? hi, ?_⟩
  rw [← hxs e.1 _ hi]
  exact List.mem_map_of_mem (List.mem_filter.mpr ⟨he, decide_eq_true rfl⟩)

theorem eq_nil {ys : List α} (h : Interleaves [] ys) : ys = [] := by
  obtain ⟨tagged, rfl, hlt, -⟩ := h
  cases tagged with
  | nil => rfl
  | cons e tagged => exact absurd (hlt e List.mem_cons_self) (Nat.not_lt_zero _)

/-- A single list is interleaved with nothing. -/
theorem sole {xs ys : List α} (h : Interleaves [xs] ys) : ys = xs := by
  obtain ⟨tagged, rfl, hlt, hxs⟩ := h
  have hall : tagged.filter (fun e => e.1 = 0) = tagged := by
    refine List.filter_eq_self.mpr fun e he => decide_eq_true ?_
    exact Nat.lt_one_iff.mp (hlt e he)
  rw [← hxs 0 xs rfl, hall]

end Interleaves

end Switchboard
