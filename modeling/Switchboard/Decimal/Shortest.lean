-- SUMMARY: The fewest decimal digits that read back as a given double, and their layout.
import Switchboard.Decimal.Binary64
import Switchboard.Text.Numeral

/-!
# Shortest decimals

Around a double `m · 2 ^ q` lies the interval of numbers that round to it; its
two ends belong to it when `m` is even. For each count of digits the double has
two neighbours on the grid of decimals with so many digits. The first count at
which a neighbour lies in the interval gives the digits; of two the nearer one
is taken, and of two equally near the even one.

How the digits are laid out is the decision of `Layout`.
-/

namespace Switchboard.Decimal

/-- A positive double and the ends of its interval, all over one denominator. -/
structure Neighbourhood where
  low : Nat
  value : Nat
  high : Nat
  denominator : Nat
  /-- The ends round to the value too. -/
  closed : Bool

/-- The interval around `m · 2 ^ q`. Below a power of two the grid of doubles
is twice as fine. -/
def neighbourhood (m : Nat) (q : Int) : Neighbourhood :=
  let scale := Nat.pow 2 (q - 2).toNat
  let low := if m = Nat.pow 2 52 ∧ q ≠ -1074 then 4 * m - 1 else 4 * m - 2
  { low := low * scale
    value := 4 * m * scale
    high := (4 * m + 2) * scale
    denominator := Nat.pow 2 (2 - q).toNat
    closed := m % 2 == 0 }

namespace Neighbourhood

/-- `n · 10 ^ e` lies in the interval. -/
def holds (b : Neighbourhood) (n : Nat) (e : Int) : Bool :=
  let x := n * Nat.pow 10 e.toNat * b.denominator
  let scale := Nat.pow 10 (-e).toNat
  if b.closed then b.low * scale ≤ x && x ≤ b.high * scale
  else b.low * scale < x && x < b.high * scale

/-- The largest multiple of `10 ^ e` that is at most the value, counted in
`10 ^ e`, and the remainder over the divisor that is also given. -/
def floorAt (b : Neighbourhood) (e : Int) : Nat × Nat × Nat :=
  let x := b.value * Nat.pow 10 (-e).toNat
  let d := b.denominator * Nat.pow 10 e.toNat
  (x / d, x % d, d)

/-- The exponent of the leading digit of the value. -/
def leading (b : Neighbourhood) : Int :=
  if b.denominator ≤ b.value then
    (Binary64.digitCount (b.value / b.denominator) : Int) - 1
  else
    let ratio := (b.denominator + b.value - 1) / b.value
    0 - (Binary64.digitCount (ratio - 1) : Int)

/-- The neighbour with digits down to `10 ^ e` that reads back, if one does. -/
def candidate (b : Neighbourhood) (e : Int) : Option Nat :=
  let (n, r, d) := b.floorAt e
  match b.holds n e && n != 0, b.holds (n + 1) e with
  | false, false => none
  | true, false => some n
  | false, true => some (n + 1)
  | true, true =>
    if 2 * r < d then some n
    else if d < 2 * r then some (n + 1)
    else if n % 2 = 0 then some n else some (n + 1)

/-- Tries the grids from `10 ^ e` downwards, `fuel` of them. -/
def search (b : Neighbourhood) : (fuel : Nat) → (e : Int) → Nat × Int
  | 0, e => ((b.floorAt e).1, e)
  | fuel + 1, e =>
    match b.candidate e with
    | some n => (n, e)
    | none => search b fuel (e - 1)

end Neighbourhood

/-- The digits of the shortest decimal that reads back as the finite double,
with the exponent of the last one; 17 digits always suffice. A one digit more
to the left than the value's own leads to a zero at the end, which is dropped. -/
def shortest (m : Nat) (q : Int) : Nat × Int :=
  if m = 0 then (0, 0)
  else
    let b := neighbourhood m q
    let (n, e) := b.search 17 b.leading
    if n % 10 = 0 then (n / 10, e + 1) else (n, e)

/-! ## Layout -/

/-- The decisions that turn digits into text. -/
structure Layout where
  /-- The least exponent of a leading digit that is written positionally. -/
  positionalFrom : Int
  /-- The first exponent that is too large to be written positionally. -/
  positionalBelow : Int
  /-- What follows a whole number that is written positionally. -/
  wholeEnd : List Char

/-- How numbers are written in documents: a whole number has `.0` when written
positionally, and an exponent has a sign always. -/
def Layout.json : Layout :=
  { positionalFrom := -5, positionalBelow := 16, wholeEnd := ['.', '0'] }

/-- All digits, without an exponent. The exponents of the leading digits of
doubles lie between the two bounds. -/
def Layout.positional : Layout :=
  { positionalFrom := -400, positionalBelow := 400, wholeEnd := [] }

/-- Text of `n · 10 ^ e` for a positive `n`. -/
def layOut (l : Layout) (n : Nat) (e : Int) : List Char :=
  let ds := Text.natDigits n
  let lead := e + ds.length - 1
  if l.positionalFrom ≤ lead ∧ lead < l.positionalBelow then
    if 0 ≤ e then ds ++ List.replicate e.toNat '0' ++ l.wholeEnd
    else if 0 ≤ lead then ds.take (lead.toNat + 1) ++ '.' :: ds.drop (lead.toNat + 1)
    else ['0', '.'] ++ List.replicate (-lead - 1).toNat '0' ++ ds
  else
    let mantissa := match ds with
      | [d] => [d]
      | d :: rest => d :: '.' :: rest
      | [] => []
    let sign := if lead < 0 then '-' else '+'
    mantissa ++ ['e', sign] ++ Text.natDigits lead.natAbs

/-- The text of a finite double: the shortest digits that read back. -/
def textOf (l : Layout) (x : Float) : String :=
  let (negative, m, q) := Binary64.split x
  let (n, e) := shortest m q
  let body := if n = 0 then '0' :: l.wholeEnd else layOut l n e
  String.ofList (if negative then '-' :: body else body)

end Switchboard.Decimal
