-- SUMMARY: Reading a JSON document from octets, with the place of the first fault.
import Switchboard.Json.Basic
import Switchboard.Text.Octets
import Switchboard.Text.Debug

/-!
# Reading JSON

The reader goes through a document from left to right and stops at the first
fault. Each function takes the octets not yet read and returns those it left.
A fault remembers how many octets were unread where it was found, from which
`Place.of` counts line and column: a fault found by looking at an octet without
taking it counts that octet as read.

Arrays and objects nest at most `maxNesting` deep. A string must be UTF-8, and
its escapes must pair surrogates. An object whose first key is
`JsonNumber.reservedKey` stands for the number whose token its value spells.
-/

namespace Switchboard

/-! ## Faults -/

/-- What can be wrong with a document. -/
inductive JsonFault where
  | endInList
  | endInObject
  | endInString
  | endInValue
  | noColon
  | noListDelimiter
  | noObjectDelimiter
  | badWord
  | noValue
  | badEscape
  | badNumber
  | numberOutOfRange
  | badCodePoint
  | controlCharacter
  | keyNotString
  | loneSurrogate
  | hexEscapeEnd
  | trailingComma
  | trailingCharacters
  | tooDeep
  /-- The document is well formed there, but its value is not the one wanted. -/
  | unwanted (text : String)
deriving DecidableEq, Repr

def JsonFault.message : JsonFault → String
  | .endInList => "EOF while parsing a list"
  | .endInObject => "EOF while parsing an object"
  | .endInString => "EOF while parsing a string"
  | .endInValue => "EOF while parsing a value"
  | .noColon => "expected \x60:\x60"
  | .noListDelimiter => "expected \x60,\x60 or \x60]\x60"
  | .noObjectDelimiter => "expected \x60,\x60 or \x60\x7d\x60"
  | .badWord => "expected ident"
  | .noValue => "expected value"
  | .badEscape => "invalid escape"
  | .badNumber => "invalid number"
  | .numberOutOfRange => "number out of range"
  | .badCodePoint => "invalid unicode code point"
  | .controlCharacter => "control character (\\u0000-\\u001F) found while parsing a string"
  | .keyNotString => "key must be a string"
  | .loneSurrogate => "lone leading surrogate in hex escape"
  | .hexEscapeEnd => "unexpected end of hex escape"
  | .trailingComma => "trailing comma"
  | .trailingCharacters => "trailing characters"
  | .tooDeep => "recursion limit exceeded"
  | .unwanted text => text

/-- A line, counted from 1, and the number of octets read of it. -/
structure Place where
  line : Nat
  column : Nat
deriving DecidableEq, Repr

/-- The place after the given octets. -/
def Place.after (read : Octets) : Place :=
  read.foldl (fun p b => if b == 10 then ⟨p.line + 1, 0⟩ else ⟨p.line, p.column + 1⟩) ⟨1, 0⟩

/-- Where a fault was found, by the number of octets still unread there. -/
inductive Spot where
  /-- Right after the octets taken. -/
  | taken (unread : Nat)
  /-- On the first of the unread octets. -/
  | seen (unread : Nat)
  /-- At a place known already: in a text of its own inside the document. -/
  | known (place : Place)
deriving DecidableEq, Repr

structure Fault where
  cause : JsonFault
  spot : Spot
deriving DecidableEq, Repr

namespace Fault

/-- The fault that the octets just taken show. -/
def taken (cause : JsonFault) (rest : Octets) : Fault := ⟨cause, .taken rest.length⟩

/-- The fault that the next octet shows, which counts as read. -/
def seen (cause : JsonFault) (rest : Octets) : Fault := ⟨cause, .seen rest.length⟩

/-- The fault, unless octets are unread that it has not looked at: then the next
of them is at fault, for this cause. -/
def orUnread (cause : JsonFault) (f : Fault) : Fault :=
  match f.spot with
  | .taken (n + 1) => ⟨cause, .seen (n + 1)⟩
  | _ => f

def place (doc : Octets) (f : Fault) : Place :=
  match f.spot with
  | .taken n => Place.after (doc.take (doc.length - n))
  | .seen n => Place.after (doc.take (doc.length - (n - 1)))
  | .known p => p

end Fault

/-- Why a document was not read. -/
structure JsonError where
  cause : JsonFault
  place : Place
deriving DecidableEq, Repr

def JsonError.message (e : JsonError) : String :=
  e.cause.message ++ " at line " ++ Text.numeral e.place.line ++ " column "
    ++ Text.numeral e.place.column

namespace Json.Reader

/-- Arrays and objects nest at most so deep. -/
def maxNesting : Nat := 127

def isBlank (b : UInt8) : Bool := b == 0x20 || b == 0x0a || b == 0x0d || b == 0x09

def isDigit (b : UInt8) : Bool := 0x30 ≤ b && b ≤ 0x39

def skipBlanks (s : Octets) : Octets := s.dropWhile isBlank

/-- The rest of a word whose first letter has been read. -/
def word : (letters : List Char) → Octets → Except Fault Octets
  | [], s => .ok s
  | _ :: _, [] => .error (.taken .endInValue [])
  | c :: cs, b :: s => if Text.ascii b = c then word cs s else .error (.taken .badWord s)

/-! ## Numbers -/

/-- The digits at the front. -/
def digits (s : Octets) : List Char × Octets :=
  ((s.takeWhile isDigit).map Text.ascii, s.dropWhile isDigit)

/-- The integer part: one zero, or digits that start with another one. -/
def whole : Octets → Except Fault (List Char × Octets)
  | [] => .error (.taken .endInValue [])
  | b :: s =>
    if b = 0x30 then
      match s with
      | c :: _ => if isDigit c then .error (.seen .badNumber s) else .ok (['0'], s)
      | [] => .ok (['0'], s)
    else if isDigit b then .ok (Text.ascii b :: (digits s).1, (digits s).2)
    else .error (.taken .badNumber s)

/-- The exponent of a number, if one starts here: its sign is always written. -/
def exponent : Octets → Except Fault (List Char × Octets)
  | b :: s =>
    if Text.ascii b = 'e' ∨ Text.ascii b = 'E' then
      let (sign, s) := match s with
        | c :: t => if Text.ascii c = '+' then ('+', t) else if Text.ascii c = '-' then ('-', t) else ('+', s)
        | [] => ('+', s)
      match s with
      | [] => .error (.taken .endInValue [])
      | c :: t =>
        if isDigit c then .ok ('e' :: sign :: Text.ascii c :: (digits t).1, (digits t).2)
        else .error (.taken .badNumber t)
    else .ok ([], b :: s)
  | [] => .ok ([], [])

/-- The fraction of a number, if one starts here. -/
def fraction : Octets → Except Fault (List Char × Octets)
  | b :: s =>
    if Text.ascii b = '.' then
      match digits s with
      | ([], []) => .error (.seen .endInValue [])
      | ([], t) => .error (.seen .badNumber t)
      | (ds, t) => .ok ('.' :: ds, t)
    else .ok ([], b :: s)
  | [] => .ok ([], [])

/-- A number after its sign. -/
def number (negative : Bool) (s : Octets) : Except Fault (JsonNumber × Octets) := do
  let (w, s) ← whole s
  let (f, s) ← fraction s
  let (e, s) ← exponent s
  let sign := if negative then ['-'] else []
  return (⟨String.ofList (sign ++ w ++ f ++ e)⟩, s)

/-! ## Strings -/

def hexValue? (b : UInt8) : Option Nat :=
  let n := b.toNat
  if 0x30 ≤ n ∧ n ≤ 0x39 then some (n - 0x30)
  else if 0x41 ≤ n ∧ n ≤ 0x46 then some (n - 0x37)
  else if 0x61 ≤ n ∧ n ≤ 0x66 then some (n - 0x57)
  else none

/-- The four hexadecimal digits of an escape. -/
def hexEscape : Octets → Except Fault (Nat × Octets)
  | a :: b :: c :: d :: s =>
    match hexValue? a, hexValue? b, hexValue? c, hexValue? d with
    | some a, some b, some c, some d => .ok (((a * 16 + b) * 16 + c) * 16 + d, s)
    | _, _, _, _ => .error (.taken .badEscape s)
  | _ => .error (.taken .endInString [])

/-- The code point of a `\u` escape, which may need a second one. -/
def unicodeEscape (s : Octets) : Except Fault (Nat × Octets) := do
  let (high, s) ← hexEscape s
  if 0xdc00 ≤ high ∧ high ≤ 0xdfff then .error (.taken .loneSurrogate s)
  else if high < 0xd800 ∨ 0xdbff < high then return (high, s)
  else
    match s with
    | [] => .error (.taken .endInString [])
    | b :: s =>
      if Text.ascii b ≠ '\\' then .error (.taken .hexEscapeEnd s)
      else
        match s with
        | [] => .error (.taken .endInString [])
        | b :: s =>
          if Text.ascii b ≠ 'u' then .error (.taken .hexEscapeEnd s)
          else
            let (low, s) ← hexEscape s
            if low < 0xdc00 ∨ 0xdfff < low then .error (.taken .loneSurrogate s)
            else return (0x10000 + (high - 0xd800) * 0x400 + (low - 0xdc00), s)

/-- The octets that an escape stands for; the backslash has been read. -/
def escaped : Octets → Except Fault (Octets × Octets)
  | [] => .error (.taken .endInString [])
  | b :: s =>
    match Text.ascii b with
    | '"' => .ok ([0x22], s)
    | '\\' => .ok ([0x5c], s)
    | '/' => .ok ([0x2f], s)
    | 'b' => .ok ([0x08], s)
    | 'f' => .ok ([0x0c], s)
    | 'n' => .ok ([0x0a], s)
    | 'r' => .ok ([0x0d], s)
    | 't' => .ok ([0x09], s)
    | 'u' => do
      let (n, s) ← unicodeEscape s
      return (String.utf8EncodeChar (Char.ofNat n), s)
    | _ => .error (.taken .badEscape s)

/-- The octets of a string up to its closing quote; `fuel` is at least the
number of octets unread. -/
def stringOctets : (fuel : Nat) → Octets → Except Fault (Octets × Octets)
  | 0, s => .error (.taken .endInString s)
  | _ + 1, [] => .error (.taken .endInString [])
  | fuel + 1, b :: s =>
    if Text.ascii b = '"' then .ok ([], s)
    else if Text.ascii b = '\\' then do
      let (e, s) ← escaped s
      let (bs, s) ← stringOctets fuel s
      return (e ++ bs, s)
    else if b < 0x20 then .error (.taken .controlCharacter s)
    else do
      let (bs, s) ← stringOctets fuel s
      return (b :: bs, s)

/-- A string after its opening quote. Octets that are no character are a fault
found when the string has been read to its end. Its place is counted back from
there, by as many octets as the string has from the first of them on; an escape
counts as the octets that it stands for. -/
def string (s : Octets) : Except Fault (String × Octets) := do
  let (bs, rest) ← stringOctets (s.length + 1) s
  match Text.ofOctets? bs with
  | some t => return (t, rest)
  | none => .error (.taken .badCodePoint (Text.afterCharacters bs.length bs ++ rest))

/-! ## Numbers spelled in a string -/

end Json.Reader

/-- The key that marks an object as a number spelled in a string. -/
def JsonNumber.reservedKey : String := "$serde_json::private::Number"

/-- The number whose token a text is. Whatever follows a number, or what could be
taken of one, is the fault. -/
def JsonNumber.ofText? (text : String) : Except JsonError JsonNumber :=
  let doc := Text.octets text
  let result : Except Fault (JsonNumber × Octets) := match doc with
    | [] => .error (.seen .endInValue [])
    | b :: s =>
      if Text.ascii b = '-' then Json.Reader.number true s
      else if Json.Reader.isDigit b then Json.Reader.number false (b :: s)
      else .error (.seen .badNumber (b :: s))
  match result with
  | .ok (n, []) => .ok n
  | .ok (_, rest) =>
    let f := Fault.seen .badNumber rest
    .error ⟨f.cause, f.place doc⟩
  | .error f =>
    let f := f.orUnread .badNumber
    .error ⟨f.cause, f.place doc⟩

namespace Json.Reader

/-! ## Values of the wrong kind -/

/-- How a number is named where another value is wanted: by its digits when a
word of 64 bits holds it, signed if it is negative. -/
def numberFound (n : JsonNumber) : String :=
  match n.toInt? with
  | some i =>
    if n.token ≠ "-0" ∧ (Text.inUInt64 i ∨ Text.inInt64 i) then
      "integer \x60" ++ n.token ++ "\x60"
    else "number"
  | none => "number"

def wrongKind (found wanted : String) : JsonFault :=
  .unwanted ("invalid type: " ++ found ++ ", expected " ++ wanted)

/-- The fault of a value that starts here and is not what is wanted. A scalar
is read first, and a fault inside it comes before its being unwanted. -/
def refuse (wanted : String) (s : Octets) : Fault :=
  match skipBlanks s with
  | [] => .seen .endInValue []
  | b :: t =>
    let after (scalar : Except Fault (String × Octets)) : Fault :=
      match scalar with
      | .ok (found, rest) => .taken (wrongKind found wanted) rest
      | .error f => f
    match Text.ascii b with
    | 'n' => after ((word ['u', 'l', 'l'] t).map fun s => ("null", s))
    | 't' => after ((word ['r', 'u', 'e'] t).map fun s => ("boolean \x60true\x60", s))
    | 'f' => after ((word ['a', 'l', 's', 'e'] t).map fun s => ("boolean \x60false\x60", s))
    | '-' => after ((number true t).map fun r => (numberFound r.1, r.2))
    | '"' => after ((string t).map fun r => ("string " ++ Text.debugQuote r.1, r.2))
    | '[' => .taken (wrongKind "sequence" wanted) (b :: t)
    | '\x7b' => .taken (wrongKind "map" wanted) (b :: t)
    | _ =>
      if isDigit b then after ((number false (b :: t)).map fun r => (numberFound r.1, r.2))
      else .seen .noValue (b :: t)

/-! ## Arrays and objects -/

/-- The items after the first one; `fuel` is more than the number of octets
unread. -/
def moreItems {α : Type} (item : Octets → Except Fault (α × Octets)) :
    (fuel : Nat) → Octets → Except Fault (List α × Octets)
  | 0, s => .error (.seen .endInList s)
  | fuel + 1, s =>
    match skipBlanks s with
    | [] => .error (.seen .endInList [])
    | b :: s =>
      if Text.ascii b = ']' then .ok ([], s)
      else if Text.ascii b = ',' then
        match skipBlanks s with
        | [] => .error (.seen .endInValue [])
        | c :: s =>
          if Text.ascii c = ']' then .error (.seen .trailingComma (c :: s))
          else do
            let (x, s) ← item (c :: s)
            let (xs, s) ← moreItems item fuel s
            return (x :: xs, s)
      else .error (.seen .noListDelimiter (b :: s))

/-- An array after its opening bracket. -/
def array {α : Type} (item : Octets → Except Fault (α × Octets)) (s : Octets) :
    Except Fault (List α × Octets) :=
  match skipBlanks s with
  | [] => .error (.seen .endInList [])
  | b :: s =>
    if Text.ascii b = ']' then .ok ([], s)
    else do
      let (x, s) ← item (b :: s)
      let (xs, s) ← moreItems item (s.length + 1) s
      return (x :: xs, s)

/-- The colon after a key. -/
def colon (s : Octets) : Except Fault Octets :=
  match skipBlanks s with
  | [] => .error (.seen .endInObject [])
  | b :: s => if Text.ascii b = ':' then .ok s else .error (.seen .noColon (b :: s))

/-- A key, after its opening quote, and its value. -/
def member {α : Type} (item : Octets → Except Fault (α × Octets)) (s : Octets) :
    Except Fault ((String × α) × Octets) := do
  let (key, s) ← string s
  let s ← colon s
  let (x, s) ← item s
  return ((key, x), s)

/-- The opening quote of a key that has to follow a comma. -/
def keyAfterComma (s : Octets) : Except Fault Octets :=
  match skipBlanks s with
  | [] => .error (.seen .endInValue [])
  | c :: s =>
    if Text.ascii c = '"' then .ok s
    else if Text.ascii c = '\x7d' then .error (.seen .trailingComma (c :: s))
    else .error (.seen .keyNotString (c :: s))

/-- The members after the first one; `fuel` is more than the number of octets
unread. -/
def moreMembers {α : Type} (item : Octets → Except Fault (α × Octets)) :
    (fuel : Nat) → Octets → Except Fault (List (String × α) × Octets)
  | 0, s => .error (.seen .endInObject s)
  | fuel + 1, s =>
    match skipBlanks s with
    | [] => .error (.seen .endInObject [])
    | b :: s =>
      if Text.ascii b = '\x7d' then .ok ([], s)
      else if Text.ascii b = ',' then do
        let s ← keyAfterComma s
        let (m, s) ← member item s
        let (ms, s) ← moreMembers item fuel s
        return (m :: ms, s)
      else .error (.seen .noObjectDelimiter (b :: s))

/-- The members of an object after its opening brace. -/
def members {α : Type} (item : Octets → Except Fault (α × Octets)) (s : Octets) :
    Except Fault (List (String × α) × Octets) :=
  match skipBlanks s with
  | [] => .error (.seen .endInObject [])
  | b :: s =>
    if Text.ascii b = '\x7d' then .ok ([], s)
    else if Text.ascii b = '"' then do
      let (m, s) ← member item s
      let (ms, s) ← moreMembers item (s.length + 1) s
      return (m :: ms, s)
    else .error (.seen .keyNotString (b :: s))

/-- The brace that has to end an object whose members have been read. -/
def closeObject (s : Octets) : Except Fault Octets :=
  match skipBlanks s with
  | [] => .error (.seen .endInObject [])
  | b :: s =>
    if Text.ascii b = '\x7d' then .ok s
    else if Text.ascii b = ',' then .error (.seen .trailingComma (b :: s))
    else .error (.seen .trailingCharacters (b :: s))

/-- The number that a string spells, after the reserved key and its colon. -/
def spelledNumber (s : Octets) : Except Fault (JsonNumber × Octets) :=
  match skipBlanks s with
  | [] => .error (.seen .endInValue [])
  | b :: t =>
    if Text.ascii b = '"' then do
      let (text, rest) ← string t
      match JsonNumber.ofText? text with
      | .ok n => return (n, rest)
      | .error e => .error ⟨e.cause, .known e.place⟩
    else .error (refuse "string containing a number" (b :: t))

/-- An object after its opening brace. -/
def object (item : Octets → Except Fault (Json × Octets)) (s : Octets) :
    Except Fault (Json × Octets) :=
  match skipBlanks s with
  | [] => .error (.seen .endInObject [])
  | b :: s =>
    if Text.ascii b = '\x7d' then .ok (.obj [], s)
    else if Text.ascii b = '"' then do
      let (key, s) ← string s
      let s ← colon s
      if key = JsonNumber.reservedKey then
        let (n, s) ← spelledNumber s
        let s ← closeObject s
        return (.num n, s)
      else
        let (x, s) ← item s
        let (ms, s) ← moreMembers item (s.length + 1) s
        return (.ofMembers ((key, x) :: ms), s)
    else .error (.seen .keyNotString (b :: s))

/-! ## Values and documents -/

/-- A value. Its items are read by `nested`; without it an array or object is
too deep. -/
def valueWith (nested : Option (Octets → Except Fault (Json × Octets))) (s : Octets) :
    Except Fault (Json × Octets) :=
  match skipBlanks s with
  | [] => .error (.seen .endInValue [])
  | b :: s =>
    match Text.ascii b with
    | 'n' => (word ['u', 'l', 'l'] s).map fun s => (.null, s)
    | 't' => (word ['r', 'u', 'e'] s).map fun s => (.bool true, s)
    | 'f' => (word ['a', 'l', 's', 'e'] s).map fun s => (.bool false, s)
    | '-' => (number true s).map fun r => (.num r.1, r.2)
    | '"' => (string s).map fun r => (.str r.1, r.2)
    | '[' =>
      match nested with
      | some item => (array item s).map fun r => (.arr r.1, r.2)
      | none => .error (.seen .tooDeep (b :: s))
    | '\x7b' =>
      match nested with
      | some item => object item s
      | none => .error (.seen .tooDeep (b :: s))
    | _ =>
      if isDigit b then (number false (b :: s)).map fun r => (.num r.1, r.2)
      else .error (.seen .noValue (b :: s))

/-- A value that nests at most so many levels deep. -/
def value : (levels : Nat) → Octets → Except Fault (Json × Octets)
  | 0 => valueWith none
  | levels + 1 => valueWith (some (value levels))

/-- All of a document: one thing to read, and nothing but blanks after it. -/
def document {α : Type} (read : Octets → Except Fault (α × Octets)) (doc : Octets) :
    Except JsonError α :=
  let result := do
    let (x, rest) ← read doc
    match skipBlanks rest with
    | [] => return x
    | rest => .error (.seen .trailingCharacters rest)
  result.mapError fun f => ⟨f.cause, f.place doc⟩

end Json.Reader

/-- The value that a document holds. -/
def Json.read? (doc : Octets) : Except JsonError Json :=
  Json.Reader.document (Json.Reader.value Json.Reader.maxNesting) doc

end Switchboard
