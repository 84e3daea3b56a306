-- SUMMARY: The best JSON reading of a text that a person typed.
import Switchboard.Json.Float
import Switchboard.Json.Reader
import Switchboard.Text.Blank

/-!
# Guessing values

A text without its outer blanks is read, in this order, as a word (`true`,
`false`, `null`), an integer of 64 bits, a decimal in range, or an array or an
object. A decimal that is also a JSON number keeps its token. What is none of
these is the text itself, blanks and all.
-/

namespace Switchboard.Json

/-- The decimal reading: the token if the text is a JSON number, else the
nearest double. A decimal out of range has none. -/
def guessDecimal? (text : String) : Option Json :=
  match Decimal.read? text.toList with
  | some d =>
    if d.inRange then
      match Json.read? (Text.octets text) with
      | .ok v => some v
      | .error _ => some (.ofFloat d.toFloat)
    else none
  | none => none

/-- The array or object that a text writes. -/
def guessContainer? (text : String) : Option Json :=
  match text.toList with
  | '[' :: _ | '\x7b' :: _ => (Json.read? (Text.octets text)).toOption
  | _ => none

def guess (input : String) : Json :=
  let text := Text.trim input
  match text with
  | "true" => .bool true
  | "false" => .bool false
  | "null" => .null
  | text =>
    match (Text.readInt text.toList).filter Text.inInt64 with
    | some n => .ofInt n
    | none =>
      match guessDecimal? text with
      | some v => v
      | none => (guessContainer? text).getD (.str input)

def guessAll (inputs : List String) : List Json := inputs.map guess

end Switchboard.Json
