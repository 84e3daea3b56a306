-- SUMMARY: Parameters of a call, by position or by key.
import Switchboard.Json.Basic

/-!
# Parameters

A call has a list of parameters or keyed ones. Handlers see them by position:
keyed parameters are one positional parameter, the object of all of them.
-/

namespace Switchboard

inductive Params where
  | list (items : List Json)
  | keyed (members : Keyed Json)
deriving DecidableEq, Repr, Inhabited

namespace Params

def empty : Params := .list []

def ofJson? : Json → Option Params
  | .arr items => some (.list items)
  | .obj members => some (.keyed members)
  | _ => none

def toJson : Params → Json
  | .list items => .arr items
  | .keyed members => .obj members

/-- The parameters by position. -/
def toList : Params → List Json
  | .list items => items
  | .keyed members => [.obj members]

def isList : Params → Bool
  | .list _ => true
  | .keyed _ => false

def isEmpty : Params → Bool
  | .list items => items.isEmpty
  | .keyed members => members.isEmpty

/-- A keyed parameter; a list has none. -/
def get? (key : String) : Params → Option Json
  | .list _ => none
  | .keyed members => Keyed.find? key members

/-- An item of a list; keyed parameters have none. -/
def item? (i : Nat) : Params → Option Json
  | .list items => items[i]?
  | .keyed _ => none

@[simp]
theorem ofJson?_toJson (p : Params) : ofJson? p.toJson = some p := by
  cases p <;> rfl

end Params

end Switchboard
