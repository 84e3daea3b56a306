-- SUMMARY: Messages as gRPC frames of a stream.
import Switchboard.Frame.Envelope

/-!
# gRPC frames

A frame is a flag octet, the length of its payload in four octets, highest first,
and the payload: the envelope of one message. The decoder refuses a frame by its
header alone if the flag says that it is compressed or if the payload exceeds
`limit`; it then leaves the header where it is. Otherwise it waits for the whole
frame and takes it off the buffer, whether or not the payload can be read.

`Grpc.outcomes` says what a whole stream carries without a buffer.
-/

namespace Switchboard.Grpc

/-- The one method that a gRPC peer can call. -/
def streamPath : String := "/rpcgate.Gateway/OpenStream"

def headerLength : Nat := 5

/-! ## Frames -/

/-- Four octets as a number, highest first. -/
def lengthOf (a b c d : UInt8) : Nat :=
  ((a.toNat * 256 + b.toNat) * 256 + c.toNat) * 256 + d.toNat

/-- The header of a payload of so many octets. -/
def header (n : Nat) : Octets :=
  [0, UInt8.ofNat (n / 0x1000000), UInt8.ofNat (n / 0x10000), UInt8.ofNat (n / 0x100), UInt8.ofNat n]

/-- The message in a payload. -/
def read (payload : Octets) : Except FrameError Message :=
  match Envelope.decode payload with
  | .error e => .error (.payload e)
  | .ok body =>
    match Message.parse body with
    | .ok m => .ok m
    | .error e => .error (.decode e)

/-- The frame that carries a message, unless its payload exceeds the limit. -/
def encode (limit : Nat) (m : Message) : Except FrameError Octets :=
  let payload := Envelope.encode m.encode
  if limit < payload.length then .error (.tooLarge payload.length)
  else .ok (header payload.length ++ payload)

/-! ## The decoder -/

/-- The octets that have arrived and are not yet decoded. -/
structure Decoder where
  limit : Nat
  buffer : Octets := []
deriving DecidableEq, Repr

namespace Decoder

def feed (d : Decoder) (s : Octets) : Decoder := { d with buffer := d.buffer ++ s }

/-- Takes the next message off the buffer, if there is a whole frame. -/
def decode (d : Decoder) : Decoder × Except FrameError (Option Message) :=
  match d.buffer with
  | flag :: a :: b :: c :: e :: rest =>
    let length := lengthOf a b c e
    if flag ≠ 0 then (d, .error .compressed)
    else if d.limit < length then (d, .error (.tooLarge length))
    else if rest.length < length then (d, .ok none)
    else ({ d with buffer := rest.drop length }, (read (rest.take length)).map some)
  | _ => (d, .ok none)

/-- Takes the next message off a buffer that will not grow any more. -/
def decodeEnd (d : Decoder) : Decoder × Except FrameError (Option Message) :=
  match d.decode with
  | (d, .ok none) => (d, if d.buffer = [] then .ok none else .error .leftover)
  | r => r

end Decoder

/-! ## Whole streams -/

/-- What a whole stream carries: frames up to the first refused header or up to
the end, where an incomplete frame is one fault. -/
def outcomes (limit : Nat) : Octets → List (Except FrameError Message)
  | [] => []
  | flag :: a :: b :: c :: d :: rest =>
    let length := lengthOf a b c d
    if flag ≠ 0 then [.error .compressed]
    else if limit < length then [.error (.tooLarge length)]
    else if rest.length < length then [.error .leftover]
    else read (rest.take length) :: outcomes limit (rest.drop length)
  | _ => [.error .leftover]
termination_by s => s.length
decreasing_by
  rw [List.length_drop]
  exact Nat.lt_of_le_of_lt (Nat.sub_le _ _) (Nat.lt_add_of_pos_right (by decide : 0 < 5))

end Switchboard.Grpc
