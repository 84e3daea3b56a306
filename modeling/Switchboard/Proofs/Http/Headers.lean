-- SUMMARY: What a header list holds under a name once another list has been laid over it.
import Switchboard.Http.Headers

/-!
# Headers laid over others

A header list is read name by name, with `Headers.getAll`. Two operations lay one list
over another. `Headers.replaceAll` is the overlay: where the upper list has a name, its
values stand for those of the lower one. `Headers.insertAll` keeps the last of them only,
so it is the overlay under the names that the upper list has once at most.
-/

namespace Switchboard.Headers

variable {h upper lower : Headers} {name : String}

/-- The values under a name where the upper list goes before the lower one. -/
def overlay (upper lower : Headers) (name : String) : List String :=
  if upper.contains name then upper.getAll name else lower.getAll name

theorem getAll_cons (name : String) (e : String × String) (h : Headers) :
    getAll name (e :: h) = if e.1 = name then e.2 :: getAll name h else getAll name h := by
  by_cases he : e.1 = name <;> simp [getAll, he]

theorem getAll_append (name : String) (h h' : Headers) :
    getAll name (h ++ h') = getAll name h ++ getAll name h' := by
  rw [getAll, List.filter_append, List.map_append]
  rfl

theorem getAll_append_line (name key value : String) (h : Headers) :
    getAll name (append key value h) = getAll name h ++ if key = name then [value] else [] := by
  rw [append, getAll_append, getAll_cons]
  rfl

theorem contains_iff : contains name h = true ↔ getAll name h ≠ [] := by
  simp [contains, getAll]

theorem getAll_eq_nil (hname : contains name h = false) : getAll name h = [] := by
  by_cases hnil : getAll name h = []
  · exact hnil
  · rw [contains_iff.mpr hnil] at hname
    cases hname

theorem overlay_eq (upper lower : Headers) (name : String) :
    upper.overlay lower name = if upper.getAll name = [] then lower.getAll name else upper.getAll name := by
  by_cases hname : upper.contains name = true
  · rw [overlay, if_pos hname, if_neg (contains_iff.mp hname)]
  · rw [overlay, if_neg hname, if_pos (getAll_eq_nil (Bool.eq_false_iff.mpr hname))]

/-- Lines are kept or dropped by their names. -/
theorem getAll_filter (p : String → Bool) (name : String) (h : Headers) :
    getAll name (h.filter fun e => p e.1) = if p name then getAll name h else [] := by
  induction h with
  | nil => simp [getAll]
  | cons e rest ih =>
    by_cases he : e.1 = name
    · subst he
      by_cases hp : p e.1 <;> simp [hp, getAll_cons, ih]
    · by_cases hp : p e.1 <;> simp [hp, getAll_cons, he, ih]

theorem getAll_insert (name key value : String) (h : Headers) :
    getAll name (insert key value h) = if key = name then [value] else getAll name h := by
  have hremove : getAll name (remove key h) = if key = name then [] else getAll name h := by
    have hfilter := getAll_filter (fun k => decide (k ≠ key)) name h
    by_cases hkey : key = name
    · simpa [remove, hkey] using hfilter
    · simpa [remove, hkey, Ne.symm hkey] using hfilter
  rw [insert, getAll_append_line, hremove]
  split <;> simp

theorem getAll_replaceAll (name : String) (upper lower : Headers) :
    getAll name (upper.replaceAll lower) = upper.overlay lower name := by
  rw [replaceAll, getAll_append, getAll_filter (fun k => !upper.contains k), overlay]
  by_cases hname : upper.contains name = true
  · simp [hname]
  · simp [hname, getAll_eq_nil (Bool.eq_false_iff.mpr hname)]

/-- Of several values that are inserted under one name the last stays. -/
theorem getAll_insertAll (name : String) (upper lower : Headers) :
    getAll name (upper.insertAll lower) =
      if upper.contains name then (upper.getAll name).getLast?.toList else lower.getAll name := by
  induction upper generalizing lower with
  | nil => rfl
  | cons e rest ih =>
    have hcontains : contains name (e :: rest) = (decide (e.1 = name) || contains name rest) := rfl
    have hstep : insertAll (e :: rest) lower = insertAll rest (insert e.1 e.2 lower) := rfl
    rw [hstep, ih, getAll_insert, hcontains, getAll_cons]
    by_cases hrest : contains name rest = true
    · obtain ⟨v, vs, hvs⟩ := List.exists_cons_of_ne_nil (contains_iff.mp hrest)
      by_cases he : e.1 = name <;> simp [hrest, he, hvs, List.getLast?_cons]
    · have hnil := getAll_eq_nil (Bool.eq_false_iff.mpr hrest)
      by_cases he : e.1 = name <;> simp [hrest, he, hnil]

theorem toList_getLast?_eq_iff {α : Type} (l : List α) : l.getLast?.toList = l ↔ l.length ≤ 1 := by
  match l with
  | [] => simp
  | [a] => simp
  | a :: b :: rest =>
    constructor
    · intro h
      have hlength := congrArg List.length h
      simp [List.getLast?_cons] at hlength
    · intro h
      simp at h

/-- Insertion makes the overlay under the names that the upper list has once at most. -/
theorem getAll_insertAll_eq_overlay_iff :
    getAll name (upper.insertAll lower) = upper.overlay lower name ↔ (upper.getAll name).length ≤ 1 := by
  rw [getAll_insertAll, overlay]
  by_cases hname : upper.contains name = true
  · rw [if_pos hname, if_pos hname, toList_getLast?_eq_iff]
  · simp [hname, getAll_eq_nil (Bool.eq_false_iff.mpr hname)]

end Switchboard.Headers
