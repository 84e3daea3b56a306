-- SUMMARY: Reading octets as text where they need not be UTF-8.
import Switchboard.Text.Octets

/-!
# Lossy reading

Octets that are no UTF-8 are read with a replacement character for every part that
is none: the longest start of a character that is not gone on with, or else a
single octet.
-/

namespace Switchboard.Text

def replacement : Char := '\uFFFD'

/-- How many octets one replacement character stands for, where no character
starts. -/
def brokenLength (s : Octets) : Nat :=
  let opens (n rest : Nat) : Bool :=
    n ≤ s.length && charLength? (s.take n ++ List.replicate rest 0x80) = some (n + rest)
  if opens 3 1 then 3 else if opens 2 1 || opens 2 2 then 2 else 1

/-- `fuel` is at least the number of octets. -/
def lossyChars : (fuel : Nat) → Octets → List Char
  | 0, _ | _, [] => []
  | fuel + 1, s =>
    match charLength? s with
    | some n => ((ofOctets? (s.take n)).getD "").toList ++ lossyChars fuel (s.drop n)
    | none => replacement :: lossyChars fuel (s.drop (brokenLength s))

def lossy (s : Octets) : String := String.ofList (lossyChars s.length s)

end Switchboard.Text
