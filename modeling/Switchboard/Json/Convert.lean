-- SUMMARY: Conversions between JSON values and typed ones, with their faults.
import Switchboard.Json.Float
import Switchboard.Json.Reader
import Switchboard.Text.Debug

/-!
# Conversions

A `Reading α` takes a value apart into an `α` or says what is wrong with it; a
`Writing α` goes the other way. A record is read from an object, whose unknown
members do not matter, or from an array of its fields in order. A record or a
tuple read from an array needs all of it: too short names the first missing
item, too long the whole length.
-/

namespace Switchboard

/-- Why a value could not be converted. -/
inductive ConversionError where
  | wrongKind (found wanted : String)
  | wrongValue (found wanted : String)
  | badNumber
  /-- A text that should spell a number does not. -/
  | badSpelling (fault : JsonError)
  | missingField (name : String)
  | wrongLength (count : Nat) (wanted : String)
  | keyNotString
  /-- What a type has to say about its own values. -/
  | custom (text : String)
deriving DecidableEq, Repr

def ConversionError.message : ConversionError → String
  | .wrongKind found wanted => "invalid type: " ++ found ++ ", expected " ++ wanted
  | .wrongValue found wanted => "invalid value: " ++ found ++ ", expected " ++ wanted
  | .badNumber => "invalid number"
  | .badSpelling fault => fault.message
  | .missingField name => "missing field \x60" ++ name ++ "\x60"
  | .wrongLength count wanted =>
    "invalid length " ++ Text.numeral count ++ ", expected " ++ wanted
  | .keyNotString => "key must be a string"
  | .custom text => text

/-- How a fault names a value. -/
def Json.found : Json → String
  | .null => "null"
  | .bool true => "boolean \x60true\x60"
  | .bool false => "boolean \x60false\x60"
  | .num _ => "number"
  | .str s => "string " ++ Text.debugQuote s
  | .arr _ => "sequence"
  | .obj _ => "map"

abbrev Reading (α : Type) := Json → Except ConversionError α

abbrev Writing (α : Type) := α → Except ConversionError Json

namespace Reading

variable {α β : Type}

def refuse (wanted : String) (v : Json) : Except ConversionError α :=
  .error (.wrongKind v.found wanted)

def map (f : α → β) (r : Reading α) : Reading β := fun v => (r v).map f

/-- An integer in a range. The range has no negative numbers exactly if it takes
no sign either, so that `-0` is no unsigned number. -/
def int (name : String) (inRange : Int → Bool) (signed : Bool) : Reading Int
  | .num n =>
    if signed = false ∧ n.token.toList.head? = some '-' then .error .badNumber
    else
      match n.toInt?.filter inRange with
      | some i => .ok i
      | none => .error .badNumber
  | v => refuse name v

def int64 : Reading Int := int "i64" Text.inInt64 true

def int32 : Reading Int := int "i32" Text.inInt32 true

def uint64 : Reading Int := int "u64" Text.inUInt64 false

def uint32 : Reading Int := int "u32" Text.inUInt32 false

def uint8 : Reading Int := int "u8" Text.inUInt8 false

/-- The nearest double of any number. -/
def float : Reading Float
  | .num n => .ok n.toFloat
  | v => refuse "f64" v

def bool : Reading Bool
  | .bool b => .ok b
  | v => refuse "a boolean" v

def string : Reading String
  | .str s => .ok s
  | v => refuse "a string" v

/-- A text of one character. -/
def char : Reading Char
  | .str s =>
    match s.toList with
    | [c] => .ok c
    | _ => .error (.wrongValue ("string " ++ Text.debugQuote s) "a character")
  | v => refuse "a character" v

def unit : Reading Unit
  | .null => .ok ()
  | v => refuse "unit" v

/-- Null for nothing. -/
def option (r : Reading α) : Reading (Option α)
  | .null => .ok none
  | v => (r v).map some

def list (r : Reading α) : Reading (List α)
  | .arr items => items.mapM r
  | v => refuse "a sequence" v

/-- The members of an object, in key order. -/
def table (r : Reading α) : Reading (Keyed α)
  | .obj members => members.mapM fun (k, v) => (r v).map fun a => (k, a)
  | v => refuse "a map" v

/-! ## Tuples and records -/

/-- Nothing may follow the items read. -/
def fewer (items : List Json) (read : Nat) : Except ConversionError Unit :=
  if items.length ≤ read then .ok ()
  else .error (.wrongLength items.length "fewer elements in array")

def one (r : Reading α) : Reading α
  | .arr items =>
    match items with
    | a :: _ => do
      let x ← r a
      fewer items 1
      return x
    | [] => .error (.wrongLength 0 "a tuple of size 1")
  | v => refuse "a tuple of size 1" v

def pair (r : Reading α) (s : Reading β) : Reading (α × β)
  | .arr items =>
    match items with
    | a :: b :: _ => do
      let x ← r a
      let y ← s b
      fewer items 2
      return (x, y)
    | [a] => do
      let _ ← r a
      .error (.wrongLength 1 "a tuple of size 2")
    | [] => .error (.wrongLength 0 "a tuple of size 2")
  | v => refuse "a tuple of size 2" v

/-- A field of a record that is put together in a draft `σ`. -/
structure Field (σ : Type) where
  name : String
  read : σ → Json → Except ConversionError σ
  /-- The draft when an array ends before this field; none if it must not. -/
  atEnd : σ → Option σ

/-- A field whose value is set in the draft, and has to be there. -/
def Field.of {σ : Type} (name : String) (r : Reading α) (set : α → σ → σ) : Field σ :=
  { name, read := fun d v => (r v).map fun a => set a d, atEnd := fun _ => none }

/-- A field whose value is set in the draft, where an array may end before it. -/
def Field.defaulted {σ : Type} (name : String) (r : Reading α) (set : α → σ → σ) : Field σ :=
  { Field.of name r set with atEnd := some }

/-- What is wrong with an array that ends before the field at this index. -/
def tooShort (name : String) (count i : Nat) : ConversionError :=
  .wrongLength i
    ("struct " ++ name ++ " with " ++ Text.numeral count ++ " elements")

/-- The fields from index `i` on, read from the items that are left. -/
def fieldsInOrder {σ : Type} (name : String) (count : Nat) :
    (fields : List (Field σ)) → (i : Nat) → List Json → σ → Except ConversionError σ
  | [], _, _, d => .ok d
  | f :: fs, i, v :: vs, d => do
    let d ← f.read d v
    fieldsInOrder name count fs (i + 1) vs d
  | f :: fs, i, [], d =>
    match f.atEnd d with
    | some d => fieldsInOrder name count fs (i + 1) [] d
    | none => .error (tooShort name count i)

/-- The members of an object, each read into the field of its name. -/
def fieldsByName {σ : Type} (fields : List (Field σ)) :
    List (String × Json) → σ → Except ConversionError σ
  | [], d => .ok d
  | (k, v) :: ms, d => do
    let d ← match fields.find? fun f => f.name = k with
      | some f => f.read d v
      | none => .ok d
    fieldsByName fields ms d

/-- A record whose fields are read into a draft, which `finish` completes or
finds a field missing in. -/
def record {σ : Type} (name : String) (fields : List (Field σ)) (empty : σ)
    (finish : σ → Except ConversionError α) : Reading α
  | .arr items => do
    let d ← fieldsInOrder name fields.length fields 0 items empty
    fewer items fields.length
    finish d
  | .obj members => do finish (← fieldsByName fields members empty)
  | v => refuse ("struct " ++ name) v

/-- A field that has to be there. -/
def required (name : String) : Option α → Except ConversionError α
  | some a => .ok a
  | none => .error (.missingField name)

/-! ## Parameters as one value -/

/-- A value read from positional parameters: a record from a single object if
that succeeds, otherwise from the list itself. -/
def ofPositional (r : Reading α) (items : List Json) : Except ConversionError α :=
  match items with
  | [.obj members] =>
    match r (.obj members) with
    | .ok a => .ok a
    | .error _ => r (.arr items)
  | _ => r (.arr items)

end Reading

end Switchboard
