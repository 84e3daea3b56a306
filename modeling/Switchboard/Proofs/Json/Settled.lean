-- SUMMARY: The values that conversion to a value of any kind leaves as they are.
import Switchboard.Json.Any
import Switchboard.Proofs.Json.Written

/-!
# Settled values

Conversion to a value of any kind settles how numbers are written, and takes an
object that starts with the reserved key for a number. A value is settled when
neither happens anywhere in it, and these are the values that come back as they
were (`any_eq_self_iff`).
-/

namespace Switchboard

/-- No number in the value is settled anew, and no object in it is taken for a number. -/
inductive Json.Settled : Json → Prop
  | null : Settled .null
  | bool (b : Bool) : Settled (.bool b)
  | num {n : JsonNumber} : n.settle = n → Settled (.num n)
  | str (s : String) : Settled (.str s)
  | arr {xs : List Json} : (∀ x ∈ xs, Settled x) → Settled (.arr xs)
  | obj {ms : List (String × Json)} : (∀ e ∈ ms.head?, e.1 ≠ JsonNumber.reservedKey) →
      (∀ e ∈ ms, Settled e.2) → Settled (.obj ms)

namespace Reading

open Json Json.Reader

theorem spelled_ne_obj {v : Json} {count : Nat} (ms : List (String × Json)) :
    spelled v count ≠ .ok (.obj ms) := by
  intro h
  cases v with
  | str text =>
    simp only [spelled] at h
    split at h
    · cases h
    · split at h <;> cases h
  | _ => cases h

mutual

theorem any_eq_self_iff : (v : Json) → (any v = .ok v ↔ v.Settled)
  | .null => ⟨fun _ => .null, fun _ => rfl⟩
  | .bool b => ⟨fun _ => .bool b, fun _ => rfl⟩
  | .num n => by
    constructor
    · intro h
      exact .num (Json.num.inj (Except.ok.inj h))
    · intro h
      cases h with
      | num hn => rw [any, hn]
  | .str s => ⟨fun _ => .str s, fun _ => rfl⟩
  | .arr xs => by
    rw [any, map_eq_ok]
    constructor
    · rintro ⟨ys, hys, h⟩
      cases h
      exact .arr ((anyItems_eq_self_iff xs).mp hys)
    · intro h
      cases h with
      | arr hxs => exact ⟨xs, (anyItems_eq_self_iff xs).mpr hxs, rfl⟩
  | .obj [] => ⟨fun _ => .obj (by simp) (by simp), fun _ => rfl⟩
  | .obj ((k, v) :: ms) => by
    rw [any]
    split
    · next hkey =>
      constructor
      · intro h
        exact absurd h (spelled_ne_obj _)
      · intro h
        cases h with
        | obj hhead => exact absurd hkey (hhead (k, v) rfl)
    · next hkey =>
      simp only [bind_eq_ok]
      constructor
      · rintro ⟨x, hx, ys, hys, h⟩
        cases h
        refine .obj (by simpa using hkey) (List.forall_mem_cons.mpr ?_)
        exact ⟨(any_eq_self_iff v).mp hx, (anyMembers_eq_self_iff ms).mp hys⟩
      · intro h
        cases h with
        | obj _ hms =>
          obtain ⟨hv, hms⟩ := List.forall_mem_cons.mp hms
          exact ⟨v, (any_eq_self_iff v).mpr hv, ms, (anyMembers_eq_self_iff ms).mpr hms, rfl⟩

theorem anyItems_eq_self_iff : (xs : List Json) → (anyItems xs = .ok xs ↔ ∀ x ∈ xs, x.Settled)
  | [] => by simp [anyItems]
  | x :: xs => by
    rw [anyItems, List.forall_mem_cons, ← any_eq_self_iff x, ← anyItems_eq_self_iff xs]
    simp only [bind_eq_ok]
    constructor
    · rintro ⟨y, hy, ys, hys, h⟩
      cases h
      exact ⟨hy, hys⟩
    · rintro ⟨hx, hxs⟩
      exact ⟨x, hx, xs, hxs, rfl⟩

theorem anyMembers_eq_self_iff :
    (ms : List (String × Json)) → (anyMembers ms = .ok ms ↔ ∀ e ∈ ms, e.2.Settled)
  | [] => by simp [anyMembers]
  | (k, v) :: ms => by
    rw [anyMembers, List.forall_mem_cons, ← any_eq_self_iff v, ← anyMembers_eq_self_iff ms]
    simp only [bind_eq_ok]
    constructor
    · rintro ⟨x, hx, ys, hys, h⟩
      cases h
      exact ⟨hx, hys⟩
    · rintro ⟨hv, hms⟩
      exact ⟨v, hv, ms, hms, rfl⟩

end

end Reading

end Switchboard
