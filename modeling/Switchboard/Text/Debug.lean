-- SUMMARY: Text between quotes for a person to read.
import Switchboard.Text.GraphemeExtend
import Switchboard.Text.Unprinted

/-!
# Quoted text in messages

Messages show a text between double quotes, with the quote and the backslash
escaped. A character that does not print, or would only be drawn onto the one
before it, is written by its code point.
-/

namespace Switchboard.Text

/-- The hexadecimal digits of a code point, in lower case. -/
def hexNumeral (n : Nat) : List Char := Nat.toDigits 16 n

/-- How a character is shown between quotes. -/
def debugChar (c : Char) : List Char :=
  match c with
  | '"' => ['\\', '"']
  | '\\' => ['\\', '\\']
  | '\n' => ['\\', 'n']
  | '\r' => ['\\', 'r']
  | '\t' => ['\\', 't']
  | '\x00' => ['\\', '0']
  | c =>
    if isPrinted c && !extendsGrapheme c then [c]
    else ['\\', 'u', '\x7b'] ++ hexNumeral c.toNat ++ ['\x7d']

def debugQuote (s : String) : String :=
  "\"" ++ String.ofList (s.toList.flatMap debugChar) ++ "\""

end Switchboard.Text
