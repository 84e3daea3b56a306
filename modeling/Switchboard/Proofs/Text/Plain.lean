-- SUMMARY: The octets of characters below 0x80.
import Switchboard.Text.Octets

/-!
# Plain text

A character below 0x80 is one octet, and that octet read as a code point is the
character again. What the grammars of this library are made of is plain text.
-/

namespace Switchboard.Text

/-- The octets of characters below 0x80. -/
def plainOctets (cs : List Char) : Octets := cs.map fun c => UInt8.ofNat c.toNat

@[simp]
theorem plainOctets_nil : plainOctets [] = [] := rfl

@[simp]
theorem plainOctets_cons (c : Char) (cs : List Char) :
    plainOctets (c :: cs) = UInt8.ofNat c.toNat :: plainOctets cs := rfl

theorem plainOctets_append (cs ds : List Char) :
    plainOctets (cs ++ ds) = plainOctets cs ++ plainOctets ds := List.map_append

theorem ascii_ofNat {c : Char} (h : c.toNat < 0x80) : ascii (UInt8.ofNat c.toNat) = c := by
  have hmod : c.toNat % 2 ^ 8 = c.toNat := Nat.mod_eq_of_lt (by omega)
  rw [ascii, UInt8.toNat_ofNat', hmod]
  exact Char.ofNat_toNat c

theorem utf8EncodeChar_of_plain {c : Char} (h : c.toNat < 0x80) :
    String.utf8EncodeChar c = [UInt8.ofNat c.toNat] := by
  have hc : c.val.toNat ≤ 0x7f := Nat.le_of_lt_succ h
  simp only [String.utf8EncodeChar, hc, if_true]
  rfl

theorem octets_ofList_of_plain {cs : List Char} (h : ∀ c ∈ cs, c.toNat < 0x80) :
    octets (String.ofList cs) = plainOctets cs := by
  rw [octets_ofList]
  induction cs with
  | nil => rfl
  | cons c cs ih =>
    have hcs := ih fun d hd => h d (List.mem_cons_of_mem c hd)
    rw [List.flatMap_cons, hcs, utf8EncodeChar_of_plain (h c List.mem_cons_self)]
    rfl

theorem toNat_ascii (b : UInt8) : (ascii b).toNat = b.toNat := by
  have hb := b.toNat_lt
  have hv : b.toNat.isValidChar := .inl (by omega)
  rw [ascii, Char.ofNat, dif_pos hv]
  rfl

/-- No octet of a character from 0x80 on is below 0x80. -/
theorem le_of_mem_utf8EncodeChar {c : Char} (hc : 0x80 ≤ c.toNat) {b : UInt8}
    (hb : b ∈ String.utf8EncodeChar c) : 0x80 ≤ b.toNat := by
  have hbig : ∀ n, 0x80 ≤ n → n < 0x100 → 0x80 ≤ (UInt8.ofNat n).toNat := by
    intro n h1 h2
    rw [UInt8.toNat_ofNat', Nat.mod_eq_of_lt h2]
    exact h1
  have hn : ¬c.val.toNat ≤ 0x7f := Nat.not_le.mpr hc
  simp only [String.utf8EncodeChar, hn, if_false] at hb
  split at hb
  · simp only [List.mem_cons, List.not_mem_nil, or_false] at hb
    rcases hb with rfl | rfl <;> exact hbig _ (by omega) (by omega)
  · split at hb
    · simp only [List.mem_cons, List.not_mem_nil, or_false] at hb
      rcases hb with rfl | rfl | rfl <;> exact hbig _ (by omega) (by omega)
    · simp only [List.mem_cons, List.not_mem_nil, or_false] at hb
      rcases hb with rfl | rfl | rfl | rfl <;> exact hbig _ (by omega) (by omega)

end Switchboard.Text
