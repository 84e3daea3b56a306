-- SUMMARY: Conversion of a value to a value of any kind, which settles how its numbers are written.
import Switchboard.Json.Convert

/-!
# Values of any kind

Where a value of any kind is wanted, a value is rebuilt from its parts, and its
numbers are settled: a number that is an integer of at most 128 bits, or that is
written in one of the two ways in which a double is written, takes the form that
`Json.ofInt` or `Json.ofFloat` gives it. Any other number keeps its token.

An object that has `JsonNumber.reservedKey` first stands for the number that the
member spells, and may have no other member.
-/

namespace Switchboard

namespace JsonNumber

/-- The number in the form of the integer or the double that it is read as. -/
def settle (n : JsonNumber) : JsonNumber :=
  match n.toInt?.filter Text.inWord128 with
  | some i => .ofInt i
  | none =>
    let x := n.toFloat
    let short := Decimal.textOf .json x
    if x.isFinite ∧ (n.token = short ∨ n.token = Decimal.textOf .positional x) then ⟨short⟩
    else n

end JsonNumber

namespace Reading

/-- The number that an object stands for whose first member is this one, under
the reserved key, and that has so many members. -/
def spelled (v : Json) (count : Nat) : Except ConversionError Json :=
  match v with
  | .str text =>
    match JsonNumber.ofText? text with
    | .error fault => .error (.badSpelling fault)
    | .ok n =>
      if count = 1 then .ok (.num n)
      else .error (.wrongLength count "fewer elements in map")
  | v => refuse "string containing a number" v

mutual

def any : Reading Json
  | .null => .ok .null
  | .bool b => .ok (.bool b)
  | .num n => .ok (.num n.settle)
  | .str s => .ok (.str s)
  | .arr items => (anyItems items).map .arr
  | .obj [] => .ok (.obj [])
  | .obj ((k, v) :: members) =>
    if k = JsonNumber.reservedKey then spelled v (members.length + 1)
    else do
      let x ← any v
      let rest ← anyMembers members
      return .obj ((k, x) :: rest)
termination_by structural v => v

def anyItems : List Json → Except ConversionError (List Json)
  | [] => .ok []
  | v :: vs => do
    let x ← any v
    let xs ← anyItems vs
    return x :: xs
termination_by structural vs => vs

def anyMembers : List (String × Json) → Except ConversionError (List (String × Json))
  | [] => .ok []
  | (k, v) :: ms => do
    let x ← any v
    let rest ← anyMembers ms
    return (k, x) :: rest
termination_by structural ms => ms

end

end Reading

end Switchboard
