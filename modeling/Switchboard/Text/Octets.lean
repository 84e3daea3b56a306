-- SUMMARY: Octet sequences and their reading as UTF-8 text.

/-!
# Octets

Everything that crosses a connection is a list of octets. `Text.octets` writes
a string down in UTF-8 and `Text.ofOctets?` reads it back; `ofOctets?_octets`
and `octets_of_ofOctets?` say that the two undo each other, so a list of octets
is the UTF-8 form of at most one string.
-/

namespace Switchboard

/-- What a connection carries. -/
abbrev Octets := List UInt8

namespace Text

/-- The character whose code point an octet is; for an octet below 0x80, the
character whose UTF-8 form it is. -/
def ascii (b : UInt8) : Char := Char.ofNat b.toNat

/-- The UTF-8 form of a string. -/
def octets (s : String) : Octets := s.toUTF8.data.toList

/-- The string whose UTF-8 form is given, if there is one. -/
def ofOctets? (bs : Octets) : Option String := String.fromUTF8? ⟨bs.toArray⟩

theorem octets_append (a b : String) : octets (a ++ b) = octets a ++ octets b := by
  simp [octets, String.toUTF8]

@[simp]
theorem octets_empty : octets "" = [] := rfl

theorem octets_ofList (cs : List Char) :
    octets (String.ofList cs) = cs.flatMap String.utf8EncodeChar := by
  simp [octets, String.toUTF8, List.utf8Encode]

theorem ofOctets?_octets (s : String) : ofOctets? (octets s) = some s := by
  have h : (⟨(octets s).toArray⟩ : ByteArray) = s.toByteArray := by
    simp [octets, String.toUTF8]
  simp [ofOctets?, h, String.fromUTF8?, String.isValidUTF8, String.fromUTF8]

theorem octets_of_ofOctets? {bs : Octets} {s : String} (h : ofOctets? bs = some s) :
    octets s = bs := by
  simp only [ofOctets?, String.fromUTF8?] at h
  split at h
  · cases h
    simp [octets, String.toUTF8, String.fromUTF8]
  · cases h

/-! ## Well-formed prefixes -/

def isTail (b : UInt8) : Bool := 0x80 ≤ b && b ≤ 0xbf

/-- The octets of the character that starts here, counted, if one does. -/
def charLength? : Octets → Option Nat
  | [] => none
  | a :: s =>
    if a < 0x80 then some 1
    else if 0xc2 ≤ a && a ≤ 0xdf then
      match s with
      | b :: _ => if isTail b then some 2 else none
      | _ => none
    else if 0xe0 ≤ a && a ≤ 0xef then
      match s with
      | b :: c :: _ =>
        if (if a = 0xe0 then 0xa0 else 0x80) ≤ b && b ≤ (if a = 0xed then 0x9f else 0xbf)
          && isTail c then some 3 else none
      | _ => none
    else if 0xf0 ≤ a && a ≤ 0xf4 then
      match s with
      | b :: c :: d :: _ =>
        if (if a = 0xf0 then 0x90 else 0x80) ≤ b && b ≤ (if a = 0xf4 then 0x8f else 0xbf)
          && isTail c && isTail d then some 4 else none
      | _ => none
    else none

/-- What is left of octets after their longest prefix of whole characters;
`fuel` is at least the number of octets. -/
def afterCharacters : (fuel : Nat) → Octets → Octets
  | 0, s => s
  | fuel + 1, s =>
    match charLength? s with
    | some n => afterCharacters fuel (s.drop n)
    | none => s

end Text

end Switchboard
