-- SUMMARY: Reading typed records straight from a document, with the place of what does not fit.
import Switchboard.Decimal.Truncated
import Switchboard.Json.Convert
import Switchboard.Json.Reader

/-!
# Typed documents

A `Document.Reader α` reads an `α` from octets. What does not fit is reported
with its place, and a record's own faults (a field that is missing or written
twice, too few items) with the place where its reading stopped. Members that a
record does not know are skipped by `skipValue`, which checks less than reading
does: it takes any escape of the right form and any depth.
-/

namespace Switchboard.Document

open Json.Reader

/-- Reads a value that nests at most so many levels deep. -/
abbrev Reader (α : Type) := (levels : Nat) → Octets → Except Fault (α × Octets)

/-! ## Skipping -/

/-- A string after its opening quote, unread; `fuel` is at least the number of
octets. A control character is not taken. -/
def skipString : (fuel : Nat) → Octets → Except Fault Octets
  | 0, s => .error (.taken .endInString s)
  | _ + 1, [] => .error (.taken .endInString [])
  | fuel + 1, b :: s =>
    if Text.ascii b = '"' then .ok s
    else if Text.ascii b = '\\' then
      match s with
      | [] => .error (.taken .endInString [])
      | e :: t =>
        if Text.ascii e = 'u' then do
          let (_, t) ← hexEscape t
          skipString fuel t
        else if "\"\\/bfnrt".toList.contains (Text.ascii e) then skipString fuel t
        else .error (.taken .badEscape t)
    else if b < 0x20 then .error (.taken .controlCharacter (b :: s))
    else skipString fuel s

/-- A number after its sign; the end of the document is no end of a number. -/
def skipNumber (s : Octets) : Except Fault Octets :=
  ((number false s).map Prod.snd).mapError fun f =>
    if f.cause = .endInValue then { f with cause := .badNumber } else f

inductive Container where
  | array
  | object
deriving DecidableEq, Repr

namespace Container

def closing : Container → Char
  | .array => ']'
  | .object => '\x7d'

def atEnd : Container → JsonFault
  | .array => .endInList
  | .object => .endInObject

def noDelimiter : Container → JsonFault
  | .array => .noListDelimiter
  | .object => .noObjectDelimiter

end Container

/-- A key and its colon. -/
def skipKey (s : Octets) : Except Fault Octets :=
  match skipBlanks s with
  | [] => .error (.seen .endInObject [])
  | b :: s =>
    if Text.ascii b = '"' then do colon (← skipString (s.length + 1) s)
    else .error (.seen .keyNotString (b :: s))

mutual

/-- A value inside the containers that are open, the innermost first, and all
that follows it up to the end of the outermost one. `fuel` is more than twice
the number of octets. -/
def skipIn (opened : List Container) (s : Octets) : (fuel : Nat) → Except Fault Octets
  | 0 => .error (.seen .endInValue s)
  | fuel + 1 =>
    match skipBlanks s with
    | [] => .error (.seen .endInValue [])
    | b :: t =>
      match Text.ascii b with
      | 'n' => do skipRest opened true (← word ['u', 'l', 'l'] t) fuel
      | 't' => do skipRest opened true (← word ['r', 'u', 'e'] t) fuel
      | 'f' => do skipRest opened true (← word ['a', 'l', 's', 'e'] t) fuel
      | '-' => do skipRest opened true (← skipNumber t) fuel
      | '"' => do skipRest opened true (← skipString (t.length + 1) t) fuel
      | '[' => skipRest (.array :: opened) false t fuel
      | '\x7b' => skipRest (.object :: opened) false t fuel
      | _ =>
        if isDigit b then do skipRest opened true (← skipNumber (b :: t)) fuel
        else .error (.seen .noValue (b :: t))

/-- What follows a value (`afterValue`) or the opening of a container. -/
def skipRest (opened : List Container) (afterValue : Bool) (s : Octets) :
    (fuel : Nat) → Except Fault Octets
  | 0 => .error (.seen .endInValue s)
  | fuel + 1 =>
    match opened with
    | [] => .ok s
    | c :: outer =>
      match skipBlanks s with
      | [] => .error (.seen c.atEnd [])
      | b :: t => do
        if afterValue && Text.ascii b = ',' then
          let t ← if c = .object then skipKey t else .ok t
          skipIn opened t fuel
        else if Text.ascii b = c.closing then skipRest outer true t fuel
        else if afterValue then .error (.seen c.noDelimiter (b :: t))
        else
          let t ← if c = .object then skipKey (b :: t) else .ok (b :: t)
          skipIn opened t fuel

end

def skipValue (s : Octets) : Except Fault Octets := skipIn [] s (2 * s.length + 4)

/-! ## Scalars -/

/-- The sign and the token of a number; other values are not what is wanted. -/
def numeral (wanted : String) (s : Octets) : Except Fault (JsonNumber × Octets) :=
  match skipBlanks s with
  | [] => .error (.seen .endInValue [])
  | b :: t =>
    if Text.ascii b = '-' then number true t
    else if isDigit b then number false (b :: t)
    else .error (refuse wanted (b :: t))

/-- The integer of a token, unless it is read as a double: because of a fraction
or an exponent, because no word of 64 bits holds it, or because it is `-0`. -/
def integer? (n : JsonNumber) : Option Int :=
  match n.toInt? with
  | some i => if n.token ≠ "-0" ∧ (Text.inUInt64 i ∨ Text.inInt64 i) then some i else none
  | none => none

/-- How many digits follow the one with which a numeral leaves 32 bits. -/
def digitsAfterOverflow (value : Nat) : List Char → Nat
  | [] => 0
  | c :: cs =>
    let value := value * 10 + (c.toNat - '0'.toNat)
    if Text.inInt32 value then digitsAfterOverflow value cs else cs.length

/-- The double of a number that has been read. One out of range is found at its
end, or at the digit with which its exponent leaves 32 bits. -/
def double (n : JsonNumber) (rest : Octets) : Except Fault Float :=
  match Decimal.truncatedFloat? n.token.toList with
  | some x => .ok x
  | none =>
    let exponent := (n.token.toList.dropWhile (· ≠ 'e')).drop 2
    .error ⟨.numberOutOfRange, .taken (rest.length + digitsAfterOverflow 0 exponent)⟩

/-- An integer in a range. -/
def int (wanted : String) (inRange : Int → Bool) : Reader Int := fun _ s => do
  let (n, rest) ← numeral wanted s
  match integer? n with
  | some i =>
    if inRange i then return (i, rest)
    else .error (.taken
      (.unwanted ("invalid value: integer \x60" ++ Text.numeral i ++ "\x60, expected " ++ wanted))
      rest)
  | none =>
    let x ← double n rest
    .error (.taken (wrongKind
      ("floating point \x60" ++ Decimal.textOf .json x ++ "\x60") wanted) rest)

def float : Reader Float := fun _ s => do
  let (n, rest) ← numeral "f64" s
  match integer? n with
  | some i => return (Float.ofInt i, rest)
  | none => return (← double n rest, rest)

def text : Reader String := fun _ s =>
  match skipBlanks s with
  | [] => .error (.seen .endInValue [])
  | b :: t =>
    if Text.ascii b = '"' then string t else .error (refuse "a string" (b :: t))

def bool : Reader Bool := fun _ s =>
  match skipBlanks s with
  | [] => .error (.seen .endInValue [])
  | b :: t =>
    if Text.ascii b = 't' then (word ['r', 'u', 'e'] t).map fun s => (true, s)
    else if Text.ascii b = 'f' then (word ['a', 'l', 's', 'e'] t).map fun s => (false, s)
    else .error (refuse "a boolean" (b :: t))

def json : Reader Json := value

/-- Null for nothing. -/
def option {α : Type} (r : Reader α) : Reader (Option α) := fun levels s =>
  match skipBlanks s with
  | [] => (r levels []).map fun x => (some x.1, x.2)
  | b :: t =>
    if Text.ascii b = 'n' then (word ['u', 'l', 'l'] t).map fun s => (none, s)
    else (r levels (b :: t)).map fun x => (some x.1, x.2)

/-- An object with members of one type; of several with one key the last counts. -/
def table {α : Type} (r : Reader α) : Reader (Keyed α) := fun levels s =>
  match skipBlanks s with
  | [] => .error (.seen .endInValue [])
  | b :: t =>
    if Text.ascii b = '\x7b' then
      match levels with
      | 0 => .error (.seen .tooDeep (b :: t))
      | levels + 1 => (members (r levels) t).map fun x => (Keyed.ofList x.1, x.2)
    else .error (refuse "a map" (b :: t))

/-! ## Records -/

/-- A field of a record that is put together in a draft `σ`. -/
structure Field (σ : Type) where
  name : String
  /-- The draft has this field already. -/
  isSet : σ → Bool
  read : σ → Reader σ
  /-- An array may end before this field. -/
  canEnd : Bool := false

def Field.of {σ α : Type} (name : String) (r : Reader α) (get : σ → Option α)
    (set : α → σ → σ) : Field σ :=
  { name
    isSet := fun d => (get d).isSome
    read := fun d levels s => (r levels s).map fun x => (set x.1 d, x.2) }

/-- A field that stays unset where an array ends before it. -/
def Field.defaulted {σ α : Type} (name : String) (r : Reader α) (get : σ → Option α)
    (set : α → σ → σ) : Field σ :=
  { Field.of name r get set with canEnd := true }

/-- What the reading of a record comes to where it stops: the record, or a fault
of its own that has no place yet. -/
abbrev Stop (σ : Type) := Except JsonFault σ × Octets

/-- The fields in order, from the items of an array after its bracket. -/
def fieldsInOrder {σ : Type} (wanted : String) (levels : Nat) :
    (fields : List (Field σ)) → (i : Nat) → σ → Octets → Except Fault (Stop σ)
  | [], _, d, s => .ok (.ok d, s)
  | f :: fs, i, d, s =>
    match skipBlanks s with
    | [] => .error (.seen .endInList [])
    | b :: t => do
      if Text.ascii b = ']' then
        if f.canEnd then fieldsInOrder wanted levels fs (i + 1) d (b :: t)
        else
          return (.error (.unwanted
            ("invalid length " ++ Text.numeral i ++ ", expected " ++ wanted)), b :: t)
      else if i = 0 then
        let (d, s) ← f.read d levels (b :: t)
        fieldsInOrder wanted levels fs (i + 1) d s
      else if Text.ascii b = ',' then
        match skipBlanks t with
        | [] => .error (.seen .endInValue [])
        | c :: u =>
          if Text.ascii c = ']' then .error (.seen .trailingComma (c :: u))
          else
            let (d, s) ← f.read d levels (c :: u)
            fieldsInOrder wanted levels fs (i + 1) d s
      else .error (.seen .noListDelimiter (b :: t))

/-- The members of an object after its brace, each into its field; `fuel` is more
than the number of octets. -/
def fieldsByName {σ : Type} (levels : Nat) (fields : List (Field σ)) :
    (fuel : Nat) → (first : Bool) → σ → Octets → Except Fault (Stop σ)
  | 0, _, _, s => .error (.seen .endInObject s)
  | fuel + 1, first, d, s =>
    match skipBlanks s with
    | [] => .error (.seen .endInObject [])
    | b :: t => do
      if Text.ascii b = '\x7d' then return (.ok d, b :: t)
      else
        let keyed ←
          if first then
            if Text.ascii b = '"' then .ok t else .error (.seen .keyNotString (b :: t))
          else if Text.ascii b = ',' then keyAfterComma t
          else .error (.seen .noObjectDelimiter (b :: t))
        let (key, s) ← string keyed
        match fields.find? fun f => f.name = key with
        | some f =>
          if f.isSet d then
            return (.error (.unwanted ("duplicate field \x60" ++ key ++ "\x60")), s)
          else
            let (d, s) ← f.read d levels (← colon s)
            fieldsByName levels fields fuel false d s
        | none =>
          let s ← skipValue (← colon s)
          fieldsByName levels fields fuel false d s

/-- The bracket that has to end an array whose items have been read. -/
def closeArray (s : Octets) : Except Fault Octets :=
  match skipBlanks s with
  | [] => .error (.seen .endInList [])
  | b :: t =>
    if Text.ascii b = ']' then .ok t
    else if Text.ascii b = ',' then
      match skipBlanks t with
      | c :: u =>
        if Text.ascii c = ']' then .error (.seen .trailingComma (c :: u))
        else .error (.seen .trailingCharacters (c :: u))
      | [] => .error (.seen .trailingCharacters [])
    else .error (.seen .trailingCharacters (b :: t))

/-- Where a record's own fault is found: the closing character, and for an array
a comma, are taken if they follow. -/
def faultPlace (c : Container) (s : Octets) : Octets :=
  match skipBlanks s with
  | b :: t =>
    if Text.ascii b = c.closing then t
    else if c = .array && Text.ascii b = ',' then skipBlanks t
    else b :: t
  | [] => []

/-- A record whose fields are read into a draft, which `finish` completes or
names a field missing in. -/
def record {σ α : Type} (name : String) (fields : List (Field σ)) (empty : σ)
    (finish : σ → Except String α) : Reader α := fun levels s =>
  let complete (c : Container) (close : Octets → Except Fault Octets) (stop : Stop σ) :
      Except Fault (α × Octets) :=
    let (result, s) := stop
    match result with
    | .error f => .error (.taken f (faultPlace c s))
    | .ok d =>
      match finish d with
      | .error missing =>
        .error (.taken (.unwanted ("missing field \x60" ++ missing ++ "\x60")) (faultPlace c s))
      | .ok a => (close s).map fun s => (a, s)
  match skipBlanks s with
  | [] => .error (.seen .endInValue [])
  | b :: t =>
    if Text.ascii b = '[' then
      match levels with
      | 0 => .error (.seen .tooDeep (b :: t))
      | levels + 1 => do
        let wanted := "struct " ++ name ++ " with " ++ Text.numeral fields.length ++ " elements"
        complete .array closeArray (← fieldsInOrder wanted levels fields 0 empty t)
    else if Text.ascii b = '\x7b' then
      match levels with
      | 0 => .error (.seen .tooDeep (b :: t))
      | levels + 1 => do
        complete .object closeObject
          (← fieldsByName levels fields (t.length + 1) true empty t)
    else .error (refuse ("struct " ++ name) (b :: t))

/-- A field that has to be there. -/
def required {α : Type} (name : String) : Option α → Except String α
  | some a => .ok a
  | none => .error name

/-- All of a document. -/
def read? {α : Type} (r : Reader α) (doc : Octets) : Except JsonError α :=
  document (r maxNesting) doc

end Switchboard.Document
