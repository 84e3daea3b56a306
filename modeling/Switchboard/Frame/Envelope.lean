-- SUMMARY: The payload of a gRPC frame: one field that holds a message.
import Switchboard.Frame.Error
import Switchboard.Frame.Varint

/-!
# Envelopes

An envelope is a sequence of fields, each a key and a value. The key is a varint
whose low three bits are the wire type and whose other bits are the tag. Field 1,
of length-delimited type, holds the message; of several the last one counts, and
without one the message is empty. Fields with other tags are skipped, groups of
fields among them, which nest at most `maxGroups` deep.
-/

namespace Switchboard.Envelope

def maxGroups : Nat := 100

def wireType? : Nat → Option WireType
  | 0 => some .varint
  | 1 => some .sixtyFourBit
  | 2 => some .lengthDelimited
  | 3 => some .startGroup
  | 4 => some .endGroup
  | 5 => some .thirtyTwoBit
  | _ => none

def varint (s : Octets) : Except PayloadFault (Nat × Octets) :=
  match Varint.decode? s with
  | some r => .ok r
  | none => .error .badVarint

/-- Tag and wire type of the field that starts here. -/
def key (s : Octets) : Except PayloadFault ((Nat × WireType) × Octets) := do
  let (key, rest) ← varint s
  if 0x100000000 ≤ key then throw (.badKey key)
  match wireType? (key % 8) with
  | none => throw (.badWireType (key % 8))
  | some type => if key / 8 = 0 then throw .zeroTag else return ((key / 8, type), rest)

/-- The octets behind the next `n`. -/
def advance (n : Nat) (s : Octets) : Except PayloadFault Octets :=
  if s.length < n then .error .underflow else .ok (s.drop n)

/-! ## Fields that do not matter -/

mutual

/-- What follows the value of a field of the given type and tag. `groups` is how
deep groups may still nest; `fuel` exceeds the number of octets. -/
def skipValue (fuel groups : Nat) (tag : Nat) (type : WireType) (s : Octets) :
    Except PayloadFault Octets :=
  match groups with
  | 0 => .error .tooDeep
  | groups + 1 =>
    match type with
    | .varint => do return (← varint s).2
    | .thirtyTwoBit => advance 4 s
    | .sixtyFourBit => advance 8 s
    | .lengthDelimited => do
      let (n, rest) ← varint s
      advance n rest
    | .startGroup => skipGroup fuel groups tag s
    | .endGroup => .error .strayGroupEnd
termination_by (fuel, 1)

/-- What follows the end of the group whose tag is given. -/
def skipGroup (fuel groups : Nat) (tag : Nat) (s : Octets) : Except PayloadFault Octets :=
  match fuel with
  | 0 => .error .badVarint
  | fuel + 1 => do
    match ← key s with
    | ((inner, .endGroup), rest) => if inner = tag then return rest else throw .strayGroupEnd
    | ((inner, type), rest) =>
      skipGroup fuel groups tag (← skipValue fuel groups inner type rest)
termination_by (fuel, 0)

end

/-! ## The message -/

/-- The value of field 1 at the head of the octets, and what follows it. -/
def body (type : WireType) (s : Octets) : Except PayloadFault (Octets × Octets) := do
  if type ≠ .lengthDelimited then throw (.wrongWireType type .lengthDelimited)
  let (n, rest) ← varint s
  if rest.length < n then throw .underflow
  return (rest.take n, rest.drop n)

/-- The message in the fields that start here, `found` if none of them holds
one; `fuel` exceeds the number of octets. -/
def fields : (fuel : Nat) → (found : Octets) → Octets → Except PayloadError Octets
  | _, found, [] => .ok found
  | 0, found, _ => .ok found
  | fuel + 1, found, s =>
    match key s with
    | .error e => .error ⟨e, false⟩
    | .ok ((1, type), rest) =>
      match body type rest with
      | .error e => .error ⟨e, true⟩
      | .ok (found, rest) => fields fuel found rest
    | .ok ((tag, type), rest) =>
      match skipValue (rest.length + 1) maxGroups tag type rest with
      | .error e => .error ⟨e, false⟩
      | .ok rest => fields fuel found rest

/-- The message that an envelope holds. -/
def decode (s : Octets) : Except PayloadError Octets := fields (s.length + 1) [] s

/-- The envelope of a message. -/
def encode (body : Octets) : Octets :=
  if body.isEmpty then [] else 0x0a :: Varint.encode body.length ++ body

theorem decode_encode (body : Octets) (h : body.length < 0x10000000000000000) :
    decode (encode body) = .ok body := by
  cases body with
  | nil => rfl
  | cons b body =>
    have hk (s : Octets) : key (0x0a :: s) = .ok ((1, .lengthDelimited), s) := rfl
    simp only [encode, List.isEmpty_cons, Bool.false_eq_true, if_false, List.cons_append, decode,
      List.length_cons, fields, hk, Envelope.body, varint]
    rw [← List.length_cons, Varint.decode?_encode_append _ _ h]
    simp [bind, Except.bind, pure, Except.pure, fields]

end Switchboard.Envelope
