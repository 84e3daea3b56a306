-- SUMMARY: Doubles as JSON values, and the doubles nearest to JSON numbers.
import Switchboard.Decimal.Notation
import Switchboard.Decimal.Shortest
import Switchboard.Json.Basic

namespace Switchboard

/-- The double nearest to a number; infinite when the number is out of range. -/
def JsonNumber.toFloat (n : JsonNumber) : Float :=
  ((Decimal.read? n.token.toList).map Decimal.toFloat).getD 0.0

/-- A double as a value: the shortest number that reads back, and null for what
no number can say. -/
def Json.ofFloat (x : Float) : Json :=
  if x.isFinite then .num ⟨Decimal.textOf .json x⟩ else .null

end Switchboard
