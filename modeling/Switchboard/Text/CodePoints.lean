-- SUMMARY: Sets of code points, as ranges.

/-!
# Sets of code points

The properties that Unicode gives to characters are sets of code points. A set is
a list of ranges, each with its first and last member.
-/

namespace Switchboard.Text

/-- A set of code points: the members of some ranges, both ends included. -/
structure CodePoints where
  ranges : List (Nat × Nat)

namespace CodePoints

def contains (s : CodePoints) (c : Char) : Bool :=
  s.ranges.any fun r => r.1 ≤ c.toNat && c.toNat ≤ r.2

end CodePoints

end Switchboard.Text
