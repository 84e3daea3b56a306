-- SUMMARY: JSON text of a value, compact and indented.
import Switchboard.Json.Basic
import Switchboard.Text.Octets

/-!
# Writing JSON

`Json.compact` puts no blank between tokens; `Json.pretty` gives each item and
member a line of its own, two spaces deeper than its container, and a blank
after the colon. Inside a string only the quote, the backslash and the control
characters below U+0020 are escaped.
-/

namespace Switchboard.Json

def hexDigit (n : Nat) : Char :=
  if n < 10 then Char.ofNat (0x30 + n) else Char.ofNat (0x57 + n)

/-- How a character stands inside a string literal. -/
def escape (c : Char) : List Char :=
  match c with
  | '"' => ['\\', '"']
  | '\\' => ['\\', '\\']
  | '\x08' => ['\\', 'b']
  | '\x0c' => ['\\', 'f']
  | '\n' => ['\\', 'n']
  | '\r' => ['\\', 'r']
  | '\t' => ['\\', 't']
  | c =>
    if c.toNat < 0x20 then
      ['\\', 'u', '0', '0', hexDigit (c.toNat / 16), hexDigit (c.toNat % 16)]
    else [c]

/-- The string literal of a text. -/
def quote (s : String) : String :=
  "\"" ++ String.ofList (s.toList.flatMap escape) ++ "\""

def boolText (b : Bool) : String := if b then "true" else "false"

mutual

def compact : Json → String
  | .null => "null"
  | .bool b => boolText b
  | .num n => n.token
  | .str s => quote s
  | .arr [] => "[]"
  | .arr (x :: xs) => "[" ++ x.compact ++ compactItems xs
  | .obj [] => "\x7b\x7d"
  | .obj ((k, v) :: ms) => "\x7b" ++ quote k ++ ":" ++ v.compact ++ compactMembers ms
termination_by structural v => v

/-- What follows the first item of an array. -/
def compactItems : List Json → String
  | [] => "]"
  | x :: xs => "," ++ x.compact ++ compactItems xs
termination_by structural xs => xs

/-- What follows the first member of an object. -/
def compactMembers : List (String × Json) → String
  | [] => "\x7d"
  | (k, v) :: ms => "," ++ quote k ++ ":" ++ v.compact ++ compactMembers ms
termination_by structural ms => ms

end

/-- A line break and the blanks that a line at this depth starts with. -/
def newline (depth : Nat) : String := String.ofList ('\n' :: List.replicate (2 * depth) ' ')

mutual

/-- The indented text of a value that stands at the given depth. -/
def prettyAt (depth : Nat) : Json → String
  | .null => "null"
  | .bool b => boolText b
  | .num n => n.token
  | .str s => quote s
  | .arr [] => "[]"
  | .arr (x :: xs) => "[" ++ newline (depth + 1) ++ x.prettyAt (depth + 1) ++ prettyItems depth xs
  | .obj [] => "\x7b\x7d"
  | .obj ((k, v) :: ms) =>
    "\x7b" ++ newline (depth + 1) ++ quote k ++ ": " ++ v.prettyAt (depth + 1)
      ++ prettyMembers depth ms
termination_by structural v => v

def prettyItems (depth : Nat) : List Json → String
  | [] => newline depth ++ "]"
  | x :: xs => "," ++ newline (depth + 1) ++ x.prettyAt (depth + 1) ++ prettyItems depth xs
termination_by structural xs => xs

def prettyMembers (depth : Nat) : List (String × Json) → String
  | [] => newline depth ++ "\x7d"
  | (k, v) :: ms =>
    "," ++ newline (depth + 1) ++ quote k ++ ": " ++ v.prettyAt (depth + 1)
      ++ prettyMembers depth ms
termination_by structural ms => ms

end

def pretty (v : Json) : String := v.prettyAt 0

mutual

/-- How deep arrays and objects nest in a value: 0 for a scalar. -/
def nesting : Json → Nat
  | .arr xs => nestingItems xs + 1
  | .obj ms => nestingMembers ms + 1
  | _ => 0
termination_by structural v => v

def nestingItems : List Json → Nat
  | [] => 0
  | x :: xs => max x.nesting (nestingItems xs)
termination_by structural xs => xs

def nestingMembers : List (String × Json) → Nat
  | [] => 0
  | (_, v) :: ms => max v.nesting (nestingMembers ms)
termination_by structural ms => ms

end

end Switchboard.Json
