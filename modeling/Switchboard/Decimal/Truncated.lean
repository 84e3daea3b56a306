-- SUMMARY: Doubles from decimals by way of a significand of 64 bits.
import Switchboard.Decimal.Notation

/-!
# Truncated reading

Settings are read into doubles by a short route that is exact for everyday
decimals: the leading digits that fit into 64 bits are the significand, and one
multiplication or division by a power of ten does the rest. For long digit
strings the result may differ from the nearest double in its last bits.
-/

namespace Switchboard.Decimal

/-- A significand of 64 bits and an exponent of ten. -/
structure Truncated where
  significand : Nat
  exponent : Int
deriving DecidableEq, Repr

namespace Truncated

def fits (significand : Nat) (c : Char) : Bool :=
  significand * 10 + (c.toNat - '0'.toNat) < Nat.pow 2 64

def extend (significand : Nat) (c : Char) : Nat := significand * 10 + (c.toNat - '0'.toNat)

/-- Takes the digits before the point; once one does not fit it and those after
it only raise the exponent. -/
def whole (t : Truncated) : List Char → Truncated
  | [] => t
  | c :: cs =>
    if fits t.significand c then whole { t with significand := extend t.significand c } cs
    else { t with exponent := t.exponent + (cs.length + 1 : Nat) }

/-- Takes the digits after the point, up to the first that does not fit. -/
def fraction (t : Truncated) : List Char → Truncated
  | [] => t
  | c :: cs =>
    if fits t.significand c then
      fraction { significand := extend t.significand c, exponent := t.exponent - 1 } cs
    else t

/-- `x` times a power of ten, in steps that a double can represent; none when the
result is out of range. -/
def scale (x : Float) (exponent : Int) : Option Float :=
  if 0 ≤ exponent then
    if 308 < exponent then (if x == 0.0 then some x else none)
    else
      let y := x * Float.ofScientific 1 false exponent.toNat
      if y.isInf then none else some y
  else
    let steps := (exponent.natAbs - 1) / 308
    let x := (List.range (min steps 4)).foldl (fun x _ => x / 1e308) x
    if 4 < steps then some 0.0
    else some (x / Float.ofScientific 1 false (exponent.natAbs - 308 * steps))

end Truncated

/-- The double that the token of a number is read as; none if it is out of range. -/
def truncatedFloat? (token : List Char) : Option Float := do
  let (negative, cs) := match token with
    | '-' :: cs => (true, cs)
    | cs => (false, cs)
  let (whole, rest) := spanDigits cs
  let (fraction, rest) := match rest with
    | '.' :: rest => spanDigits rest
    | rest => ([], rest)
  let t := (({ significand := 0, exponent := 0 } : Truncated).whole whole).fraction fraction
  let exponent ← readExponent rest
  let x ← Truncated.scale (Float.ofNat t.significand) (t.exponent + exponent)
  return if negative then -x else x

end Switchboard.Decimal
