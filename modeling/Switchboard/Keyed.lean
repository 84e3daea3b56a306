-- SUMMARY: Association lists in key order: look-up, insertion and removal.

/-!
# Keyed lists

A table from strings is the list of its entries in increasing order of their
keys, each key once. The order of strings is that of their code points, which
is also the order of their UTF-8 octets. `Keyed.insert` keeps the order and
replaces an entry that is there already, so `Keyed.ofList` keeps the last of
several entries with one key.
-/

namespace Switchboard

abbrev Keyed (α : Type) := List (String × α)

namespace Keyed

variable {α : Type}

def find? (key : String) : Keyed α → Option α
  | [] => none
  | (k, v) :: rest => if k = key then some v else find? key rest

def contains (key : String) (t : Keyed α) : Bool := (t.find? key).isSome

def insert (key : String) (value : α) : Keyed α → Keyed α
  | [] => [(key, value)]
  | (k, v) :: rest =>
    if key < k then (key, value) :: (k, v) :: rest
    else if key = k then (key, value) :: rest
    else (k, v) :: insert key value rest

def erase (key : String) (t : Keyed α) : Keyed α := t.filter fun e => e.1 ≠ key

def keys (t : Keyed α) : List String := t.map Prod.fst

/-- The table of the given entries; of several with one key the last counts. -/
def ofList (entries : List (String × α)) : Keyed α :=
  entries.foldl (fun t e => insert e.1 e.2 t) []

/-- Keys increase along the list. -/
def Sorted (t : Keyed α) : Prop := t.Pairwise fun a b => a.1 < b.1

theorem find?_insert (key k : String) (v : α) (t : Keyed α) :
    find? key (insert k v t) = if k = key then some v else find? key t := by
  induction t with
  | nil => simp [insert, find?]
  | cons e rest ih =>
    obtain ⟨k', v'⟩ := e
    simp only [insert]
    split
    · simp [find?]
    · split
      · subst_vars
        by_cases h : k' = key <;> simp [find?, h]
      · by_cases h : k' = key
        · subst h
          simp_all [find?]
        · simp [find?, h, ih]

theorem mem_insert {k : String} {v : α} {t : Keyed α} {e : String × α}
    (h : e ∈ insert k v t) : e = (k, v) ∨ e ∈ t := by
  induction t with
  | nil => simpa [insert] using h
  | cons e' rest ih =>
    simp only [insert] at h
    split at h
    · simpa using h
    · split at h
      · rcases List.mem_cons.1 h with h | h
        · exact .inl h
        · exact .inr (List.mem_cons_of_mem _ h)
      · rcases List.mem_cons.1 h with h | h
        · exact .inr (h ▸ List.mem_cons_self)
        · exact (ih h).imp_right (List.mem_cons_of_mem _)

theorem Sorted.insert {t : Keyed α} (h : Sorted t) (k : String) (v : α) :
    Sorted (Keyed.insert k v t) := by
  induction t with
  | nil => simp [Keyed.insert, Sorted]
  | cons e rest ih =>
    obtain ⟨k', v'⟩ := e
    have hr : Sorted rest := (List.pairwise_cons.1 h).2
    have hk : ∀ e ∈ rest, k' < e.1 := (List.pairwise_cons.1 h).1
    simp only [Keyed.insert]
    split
    · rename_i hlt
      refine List.pairwise_cons.2 ⟨?_, h⟩
      intro e he
      rcases List.mem_cons.1 he with rfl | he
      · exact hlt
      · exact String.lt_trans hlt (hk e he)
    · split
      · rename_i heq
        subst heq
        exact List.pairwise_cons.2 ⟨hk, hr⟩
      · rename_i hlt hne
        refine List.pairwise_cons.2 ⟨?_, ih hr⟩
        intro e he
        rcases mem_insert he with rfl | he
        · exact Std.lt_of_le_of_ne (String.not_lt.1 hlt) (Ne.symm hne)
        · exact hk e he

end Keyed

end Switchboard
