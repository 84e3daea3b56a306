-- SUMMARY: Doubles as exact dyadic numbers, and their reading from decimals.

/-!
# Binary64

A finite double is `m · 2 ^ q` with a sign, where `m < 2 ^ 53`. `Binary64.split`
reads the parts off the bits. A decimal is read as the nearest double; it is in
range when that double is finite, which `inRange` decides in exact arithmetic.
-/

namespace Switchboard

/-- A decimal as it is written: `digits · 10 ^ exponent`, negated or not. -/
structure Decimal where
  negative : Bool
  digits : Nat
  exponent : Int
deriving DecidableEq, Repr

namespace Binary64

/-- The sign, the significand and the exponent of two of a finite double. -/
def split (x : Float) : Bool × Nat × Int :=
  let bits := x.toBits.toNat
  let negative : Bool := bits / Nat.pow 2 63 == 1
  let biased : Nat := bits / Nat.pow 2 52 % Nat.pow 2 11
  let fraction : Nat := bits % Nat.pow 2 52
  if biased = 0 then (negative, fraction, -1074)
  else (negative, fraction + Nat.pow 2 52, (biased : Int) - 1075)

/-- The least magnitude that rounds to infinity: half a unit above the largest
finite double. -/
def overflowBound : Nat := Nat.pow 2 1024 - Nat.pow 2 970

/-- How many decimal digits a number has; none for zero. -/
def digitCount (n : Nat) : Nat := if n = 0 then 0 else (Nat.toDigits 10 n).length

end Binary64

namespace Decimal

/-- The exponent of ten of a number that is certainly above every finite double
or below every positive one needs no further arithmetic. -/
inductive Size where
  | zero
  | huge
  | tiny
  | moderate
deriving DecidableEq, Repr

def size (d : Decimal) : Size :=
  let scale := (Binary64.digitCount d.digits : Int) + d.exponent
  if d.digits = 0 then .zero
  else if 400 < scale then .huge
  else if scale < -400 then .tiny
  else .moderate

/-- The nearest double is finite. -/
def inRange (d : Decimal) : Bool :=
  match d.size with
  | .zero | .tiny => true
  | .huge => false
  | .moderate =>
    if 0 ≤ d.exponent then d.digits * Nat.pow 10 d.exponent.toNat < Binary64.overflowBound
    else d.digits < Binary64.overflowBound * Nat.pow 10 (-d.exponent).toNat

/-- The nearest double, ties to the even significand. -/
def toFloat (d : Decimal) : Float :=
  let magnitude : Float :=
    match d.size with
    | .zero | .tiny => 0.0
    | .huge => 1.0 / 0.0
    | .moderate =>
      if 0 ≤ d.exponent then Float.ofScientific (d.digits * Nat.pow 10 d.exponent.toNat) false 0
      else Float.ofScientific d.digits true (-d.exponent).toNat
  if d.negative then -magnitude else magnitude

end Decimal

end Switchboard
