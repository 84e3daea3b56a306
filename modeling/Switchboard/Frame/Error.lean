-- SUMMARY: What can go wrong with the frames of a stream.
import Switchboard.Message.Codec

/-!
# Frame errors

A stream fails as a whole (`FrameError.io`), or a frame is refused before it is
read (`tooLarge`, `compressed`), or its contents cannot be read (`payload`,
`decode`), or a message cannot be written (`encode`).
-/

namespace Switchboard

/-- How the octets of a stream stop. -/
inductive IoKind where
  | unexpectedEnd
  | connectionReset
  | connectionAborted
  | brokenPipe
  | permissionDenied
  | invalidInput
  | other
deriving DecidableEq, Repr

structure IoError where
  kind : IoKind
  text : String
deriving DecidableEq, Repr

/-- The six shapes that a field of a payload can have on the wire. -/
inductive WireType where
  | varint
  | sixtyFourBit
  | lengthDelimited
  | startGroup
  | endGroup
  | thirtyTwoBit
deriving DecidableEq, Repr

def WireType.name : WireType → String
  | .varint => "Varint"
  | .sixtyFourBit => "SixtyFourBit"
  | .lengthDelimited => "LengthDelimited"
  | .startGroup => "StartGroup"
  | .endGroup => "EndGroup"
  | .thirtyTwoBit => "ThirtyTwoBit"

/-- Why a payload is no envelope. -/
inductive PayloadFault where
  | badVarint
  | badKey (key : Nat)
  | badWireType (value : Nat)
  | zeroTag
  | wrongWireType (found wanted : WireType)
  | underflow
  | strayGroupEnd
  | tooDeep
deriving DecidableEq, Repr

def PayloadFault.message : PayloadFault → String
  | .badVarint => "invalid varint"
  | .badKey key => "invalid key value: " ++ Text.numeral key
  | .badWireType value => "invalid wire type value: " ++ Text.numeral value
  | .zeroTag => "invalid tag value: 0"
  | .wrongWireType found wanted =>
    "invalid wire type: " ++ found.name ++ " (expected " ++ wanted.name ++ ")"
  | .underflow => "buffer underflow"
  | .strayGroupEnd => "unexpected end group tag"
  | .tooDeep => "recursion limit reached"

/-- A fault of a payload, and whether it lies inside the field that holds the
message. -/
structure PayloadError where
  fault : PayloadFault
  inBody : Bool
deriving DecidableEq, Repr

def PayloadError.message (e : PayloadError) : String :=
  "failed to decode Protobuf message: " ++ (if e.inBody then "Envelope.body: " else "")
    ++ e.fault.message

inductive FrameError where
  | io (e : IoError)
  | tooLarge (size : Nat)
  | compressed
  | payload (e : PayloadError)
  | decode (e : DecodeError)
  | encode (e : JsonError)
deriving DecidableEq, Repr

namespace FrameError

/-- A line that is no UTF-8 text. -/
def notText : FrameError := .io ⟨.invalidInput, "Unable to decode input as UTF8"⟩

/-- A stream that ends within a frame. -/
def leftover : FrameError := .io ⟨.other, "bytes remaining on stream"⟩

def message : FrameError → String
  | .io e => "I/O error: " ++ e.text
  | .tooLarge size => "frame of " ++ Text.numeral size ++ " bytes exceeds the limit"
  | .compressed => "compressed gRPC frames are not supported"
  | .payload e => "malformed protobuf payload: " ++ e.message
  | .decode e => e.message
  | .encode e => "JSON encode error: " ++ e.message

end FrameError

end Switchboard
