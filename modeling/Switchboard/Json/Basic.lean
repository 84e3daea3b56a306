-- SUMMARY: JSON values with exact number tokens, and access to their parts.
import Switchboard.Keyed
import Switchboard.Text.Numeral

/-!
# JSON values

A number is its token, so `1.0`, `1.00` and `1` are three values and a numeral
of any length is kept. An object is a table in key order: member order and
repeated keys of a document leave no trace in its value.
-/

namespace Switchboard

/-- A number as it is written: an optional `-`, digits, and perhaps a fraction
and an exponent `e` with its sign. -/
structure JsonNumber where
  token : String
deriving DecidableEq, Repr, Inhabited

inductive Json where
  | null
  | bool (b : Bool)
  | num (n : JsonNumber)
  | str (s : String)
  | arr (items : List Json)
  | obj (members : List (String × Json))
deriving Repr, Inhabited

namespace JsonNumber

def ofInt (n : Int) : JsonNumber := ⟨Text.numeral n⟩

/-- The number of an integer literal: `-` and digits, nothing else. -/
def toInt? (n : JsonNumber) : Option Int :=
  match n.token.toList with
  | '+' :: _ => none
  | cs => Text.readInt cs

/-- The number of an integer literal that a signed word of 64 bits holds. -/
def toInt64? (n : JsonNumber) : Option Int := n.toInt?.filter Text.inInt64

/-- The number of an integer literal without a sign that an unsigned word of 64
bits holds. -/
def toUInt64? (n : JsonNumber) : Option Int :=
  if n.token.toList.head? = some '-' then none else n.toInt?.filter Text.inUInt64

end JsonNumber

namespace Json

/-! ## Equality -/

mutual

def decEq : (a b : Json) → Decidable (a = b)
  | .null, .null => isTrue rfl
  | .bool a, .bool b => if h : a = b then isTrue (h ▸ rfl) else isFalse fun e => h (by cases e; rfl)
  | .num a, .num b => if h : a = b then isTrue (h ▸ rfl) else isFalse fun e => h (by cases e; rfl)
  | .str a, .str b => if h : a = b then isTrue (h ▸ rfl) else isFalse fun e => h (by cases e; rfl)
  | .arr xs, .arr ys =>
    match decEqItems xs ys with
    | isTrue h => isTrue (h ▸ rfl)
    | isFalse h => isFalse fun e => h (by cases e; rfl)
  | .obj xs, .obj ys =>
    match decEqMembers xs ys with
    | isTrue h => isTrue (h ▸ rfl)
    | isFalse h => isFalse fun e => h (by cases e; rfl)
  | .null, .bool _ | .null, .num _ | .null, .str _ | .null, .arr _ | .null, .obj _
  | .bool _, .null | .bool _, .num _ | .bool _, .str _ | .bool _, .arr _ | .bool _, .obj _
  | .num _, .null | .num _, .bool _ | .num _, .str _ | .num _, .arr _ | .num _, .obj _
  | .str _, .null | .str _, .bool _ | .str _, .num _ | .str _, .arr _ | .str _, .obj _
  | .arr _, .null | .arr _, .bool _ | .arr _, .num _ | .arr _, .str _ | .arr _, .obj _
  | .obj _, .null | .obj _, .bool _ | .obj _, .num _ | .obj _, .str _ | .obj _, .arr _ =>
    isFalse fun e => by cases e
termination_by structural a => a

def decEqItems : (xs ys : List Json) → Decidable (xs = ys)
  | [], [] => isTrue rfl
  | [], _ :: _ | _ :: _, [] => isFalse fun e => by cases e
  | x :: xs, y :: ys =>
    match decEq x y, decEqItems xs ys with
    | isTrue h, isTrue t => isTrue (h ▸ t ▸ rfl)
    | isFalse h, _ => isFalse fun e => h (by cases e; rfl)
    | _, isFalse t => isFalse fun e => t (by cases e; rfl)
termination_by structural xs => xs

def decEqMembers : (xs ys : List (String × Json)) → Decidable (xs = ys)
  | [], [] => isTrue rfl
  | [], _ :: _ | _ :: _, [] => isFalse fun e => by cases e
  | (j, x) :: xs, (k, y) :: ys =>
    if hk : j = k then
      match decEq x y, decEqMembers xs ys with
      | isTrue h, isTrue t => isTrue (hk ▸ h ▸ t ▸ rfl)
      | isFalse h, _ => isFalse fun e => h (by cases e; rfl)
      | _, isFalse t => isFalse fun e => t (by cases e; rfl)
    else isFalse fun e => hk (by cases e; rfl)
termination_by structural xs => xs

end

instance : DecidableEq Json := decEq

/-! ## Parts -/

def ofInt (n : Int) : Json := .num (.ofInt n)

/-- The object with the given members; of several with one key the last counts. -/
def ofMembers (members : List (String × Json)) : Json := .obj (Keyed.ofList members)

/-- The member of an object under `key`; other values have no members. -/
def member? (key : String) : Json → Option Json
  | .obj members => Keyed.find? key members
  | _ => none

def str? : Json → Option String
  | .str s => some s
  | _ => none

/-- The integer that the value is, if its token is an integer literal that a
signed word of 64 bits holds. -/
def int64? : Json → Option Int
  | .num n => n.toInt64?
  | _ => none

/-- The integer that the value is, if its token is an integer literal without a
sign that an unsigned word of 64 bits holds. -/
def uint64? : Json → Option Int
  | .num n => n.toUInt64?
  | _ => none

@[simp]
theorem member?_obj (key : String) (members : List (String × Json)) :
    (Json.obj members).member? key = Keyed.find? key members := rfl

end Json

end Switchboard
