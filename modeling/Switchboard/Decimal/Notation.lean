-- SUMMARY: Reading decimals with a point and an exponent.
import Switchboard.Decimal.Binary64
import Switchboard.Text.Numeral

/-!
# Decimal notation

A decimal is a sign or none, digits with a point or none among them, and an
exponent or none. Digits may stand on one side of the point only, and leading
zeros do not matter. A JSON number is such a decimal.
-/

namespace Switchboard.Decimal

/-- The digits at the front and what follows them. -/
def spanDigits (cs : List Char) : List Char × List Char :=
  (cs.takeWhile Char.isDigit, cs.dropWhile Char.isDigit)

/-- The exponent that a text is: nothing, or `e` and an integer. -/
def readExponent : List Char → Option Int
  | [] => some 0
  | c :: cs => if c = 'e' ∨ c = 'E' then Text.readInt cs else none

/-- A decimal without its sign. -/
def readMagnitude (negative : Bool) (cs : List Char) : Option Decimal := do
  let (whole, rest) := spanDigits cs
  let (fraction, rest) := match rest with
    | '.' :: rest => spanDigits rest
    | rest => ([], rest)
  if whole = [] ∧ fraction = [] then none
  else
    let exponent ← readExponent rest
    return {
      negative
      digits := Nat.ofDigitChars 10 (whole ++ fraction) 0
      exponent := exponent - fraction.length }

/-- The decimal that a text writes. -/
def read? : List Char → Option Decimal
  | '-' :: cs => readMagnitude true cs
  | '+' :: cs => readMagnitude false cs
  | cs => readMagnitude false cs

end Switchboard.Decimal
