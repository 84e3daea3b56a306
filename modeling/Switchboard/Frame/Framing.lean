-- SUMMARY: The two ways of framing messages on a stream.
import Switchboard.Frame.Lines
import Switchboard.Frame.Grpc

/-!
# Framings

A streaming transport frames its messages as lines or as gRPC frames. What the
two have in common: a decoder that is fed and hands out messages, and the frame
of one message.
-/

namespace Switchboard

inductive Framing where
  | lines
  | grpc
deriving DecidableEq, Repr

/-- The largest frame unless told otherwise: four mebibytes. -/
def Framing.defaultLimit : Nat := 4 * 1024 * 1024

/-- The frame of one message. Only gRPC frames are held to the limit. -/
def Framing.encode (limit : Nat) (m : Message) : Framing → Except FrameError Octets
  | .lines => .ok (Lines.encode m)
  | .grpc => Grpc.encode limit m

inductive FrameDecoder where
  | lines (d : Lines.Decoder)
  | grpc (d : Grpc.Decoder)
deriving DecidableEq, Repr

def Framing.decoder (limit : Nat) : Framing → FrameDecoder
  | .lines => .lines { limit }
  | .grpc => .grpc { limit }

namespace FrameDecoder

def buffer : FrameDecoder → Octets
  | .lines d => d.buffer
  | .grpc d => d.buffer

def feed (s : Octets) : FrameDecoder → FrameDecoder
  | .lines d => .lines (d.feed s)
  | .grpc d => .grpc (d.feed s)

/-- The next message, if it has arrived as a whole. -/
def decode : FrameDecoder → FrameDecoder × Except FrameError (Option Message)
  | .lines d => let (d, r) := d.decode; (.lines d, r)
  | .grpc d => let (d, r) := d.decode; (.grpc d, r)

/-- The next message, when nothing more will arrive. -/
def decodeEnd : FrameDecoder → FrameDecoder × Except FrameError (Option Message)
  | .lines d => let (d, r) := d.decodeEnd; (.lines d, r)
  | .grpc d => let (d, r) := d.decodeEnd; (.grpc d, r)

/-- Decodes until there is nothing yet or something is wrong; at most `fuel`
messages. -/
def drain (next : FrameDecoder → FrameDecoder × Except FrameError (Option Message)) :
    (fuel : Nat) → FrameDecoder → FrameDecoder × List (Except FrameError (Option Message))
  | 0, d => (d, [])
  | fuel + 1, d =>
    match next d with
    | (d, .ok (some m)) => let (d, rs) := drain next fuel d; (d, .ok (some m) :: rs)
    | (d, r) => (d, [r])

end FrameDecoder

end Switchboard
