-- SUMMARY: Request identifiers.
import Switchboard.Json.Writer

/-!
# Request identifiers

A caller names its request by a number, a text or nothing at all, and the answer
carries the same name. A number is kept as its token: `1` and `1.0` are two
identifiers.
-/

namespace Switchboard

inductive RequestId where
  | number (n : JsonNumber)
  | text (s : String)
  | null
deriving DecidableEq, Repr, Inhabited

namespace RequestId

def ofJson? : Json → Option RequestId
  | .num n => some (.number n)
  | .str s => some (.text s)
  | .null => some .null
  | _ => none

def toJson : RequestId → Json
  | .number n => .num n
  | .text s => .str s
  | .null => .null

/-- A text that tells identifiers apart, also a number from its own token. -/
def key : RequestId → String
  | .number n => "n:" ++ n.token
  | .text s => "s:" ++ s
  | .null => "null"

def display : RequestId → String
  | .number n => n.token
  | .text s => s
  | .null => "null"

def text? : RequestId → Option String
  | .text s => some s
  | _ => none

def int64? : RequestId → Option Int
  | .number n => n.toInt64?
  | _ => none

/-- What is wrong with a value that is no identifier. -/
def notAnId : String := "request id must be a number, string or null"

@[simp]
theorem ofJson?_toJson (id : RequestId) : ofJson? id.toJson = some id := by
  cases id <;> rfl

theorem key_injective {a b : RequestId} (h : a.key = b.key) : a = b := by
  have h : a.key.toList = b.key.toList := by rw [h]
  match a, b with
  | .number ⟨_⟩, .number ⟨_⟩ | .text _, .text _ =>
    simpa [key, String.toList_append, String.toList_inj] using h
  | .null, .null => rfl
  | .number _, .text _ | .number _, .null | .text _, .number _ | .text _, .null
  | .null, .number _ | .null, .text _ =>
    simp [key, String.toList_append] at h

end RequestId

end Switchboard
