-- SUMMARY: Base-128 numbers of variable length.
import Switchboard.Text.Octets

/-!
# Varints

A varint writes a number in groups of seven bits, the lowest group first; every
octet but the last has its top bit set. A number of 64 bits takes at most ten
octets, of which the tenth can only be 0 or 1. `decode?_encode_append` says that
reading undoes writing, whatever follows.
-/

namespace Switchboard.Varint

def encode (n : Nat) : Octets :=
  if n < 128 then [UInt8.ofNat n] else UInt8.ofNat (n % 128 + 128) :: encode (n / 128)
termination_by n

/-- The number at the head of the octets, which has at most so many groups, and
what follows it. -/
def decodeGroups : (groups : Nat) → Octets → Option (Nat × Octets)
  | 0, _ => none
  | _, [] => none
  | groups + 1, b :: rest =>
    if b < 0x80 then
      if groups = 0 ∧ 2 ≤ b then none else some (b.toNat, rest)
    else
      match decodeGroups groups rest with
      | some (n, rest) => some (b.toNat - 128 + 128 * n, rest)
      | none => none

/-- The number at the head of the octets and what follows it. -/
def decode? (s : Octets) : Option (Nat × Octets) := decodeGroups 10 s

/-! ## Reading what was written -/

theorem decodeGroups_encode_append (groups n : Nat) (rest : Octets)
    (h : n < 2 * Nat.pow 128 groups) : decodeGroups (groups + 1) (encode n ++ rest) = some (n, rest) := by
  induction groups generalizing n with
  | zero =>
    have h2 : n < 2 := by simpa using h
    have hn : n < 128 := by omega
    have hb : UInt8.ofNat n < 0x80 := by
      simp only [UInt8.lt_iff_toNat_lt, UInt8.toNat_ofNat']; simp; omega
    have h1 : ¬ (2 : UInt8) ≤ UInt8.ofNat n := by
      simp only [UInt8.le_iff_toNat_le, UInt8.toNat_ofNat']; simp; omega
    rw [encode, if_pos hn]
    simp [decodeGroups, hb, h1, Nat.mod_eq_of_lt (by omega : n < 256)]
  | succ groups ih =>
    rw [encode]
    by_cases hn : n < 128
    · have hb : UInt8.ofNat n < 0x80 := by
        simp only [UInt8.lt_iff_toNat_lt, UInt8.toNat_ofNat']; simp; omega
      simp [hn, decodeGroups, hb, Nat.mod_eq_of_lt (by omega : n < 256)]
    · have hb : ¬ UInt8.ofNat (n % 128 + 128) < 0x80 := by
        simp only [UInt8.lt_iff_toNat_lt, UInt8.toNat_ofNat']; simp; omega
      have hq : n / 128 < 2 * Nat.pow 128 groups := by
        have hp : Nat.pow 128 (groups + 1) = Nat.pow 128 groups * 128 := rfl
        exact Nat.div_lt_of_lt_mul (by omega)
      rw [if_neg hn, List.cons_append, decodeGroups, if_neg hb, ih _ hq]
      simp only [UInt8.toNat_ofNat', Option.some.injEq, Prod.mk.injEq, and_true]
      omega

theorem decode?_encode_append (n : Nat) (rest : Octets) (h : n < 0x10000000000000000) :
    decode? (encode n ++ rest) = some (n, rest) :=
  decodeGroups_encode_append 9 n rest (by simpa using h)

end Switchboard.Varint
