-- SUMMARY: Messages as lines of a stream.
import Switchboard.Frame.Error
import Switchboard.Text.Blank

/-!
# Line frames

A stream of lines carries one message a line; blank lines carry none. The
decoder works on a buffer that grows as octets arrive and hands out what it can.
A line of more than `limit` octets is refused once, as soon as that many octets
have come without a newline, and then discarded up to its newline.

`Lines.outcomes` says what a whole stream carries without a buffer: it splits the
stream at its newlines and treats each segment by itself.
-/

namespace Switchboard.Lines

def newline : UInt8 := 0x0a

def carriageReturn : UInt8 := 0x0d

/-! ## Lines -/

/-- The line without one carriage return at its end. -/
def withoutReturn (line : Octets) : Octets :=
  if line.getLast? = some carriageReturn then line.dropLast else line

/-- What a line carries: nothing if it is blank, else the message it holds. -/
def read (line : Octets) : Except FrameError (Option Message) :=
  match Text.ofOctets? (withoutReturn line) with
  | none => .error .notText
  | some text =>
    let text := Text.trim text
    if text.isEmpty then .ok none
    else match Message.parse (Text.octets text) with
      | .ok m => .ok (some m)
      | .error e => .error (.decode e)

/-- The line that carries a message. -/
def encode (m : Message) : Octets := m.encode ++ [newline]

/-! ## The decoder -/

/-- A buffer of octets that have arrived, of which the first `scanned` are known
to hold no newline. While `discarding`, they belong to a line already refused. -/
structure Decoder where
  limit : Nat
  buffer : Octets := []
  scanned : Nat := 0
  discarding : Bool := false
deriving DecidableEq, Repr

namespace Decoder

def feed (d : Decoder) (s : Octets) : Decoder := { d with buffer := d.buffer ++ s }

/-- How much of the buffer is searched for a newline: one octet more than a line
may have. -/
def reach (d : Decoder) : Nat := min (d.limit + 1) d.buffer.length

/-- Where the first newline is, if it is within reach. -/
def newline? (d : Decoder) : Option Nat :=
  (((d.buffer.take d.reach).drop d.scanned).findIdx? (· == newline)).map (d.scanned + ·)

/-- The decoder with the next `n` octets taken off. -/
def skip (d : Decoder) (n : Nat) : Decoder := { d with buffer := d.buffer.drop n, scanned := 0 }

theorem buffer_ne_nil_of_newline? {d : Decoder} {i : Nat} (h : d.newline? = some i) :
    d.buffer ≠ [] := by
  intro hb
  simp [newline?, hb] at h

/-- Takes a line off the buffer. There may be none yet, or it may be too long. -/
def line (d : Decoder) : Decoder × Except FrameError (Option Octets) :=
  match _h : d.newline? with
  | some i =>
    if d.discarding then line { d.skip (i + 1) with discarding := false }
    else (d.skip (i + 1), .ok (some (d.buffer.take i)))
  | none =>
    if d.discarding then
      if d.buffer.length ≤ d.reach then (d.skip d.reach, .ok none) else line (d.skip d.reach)
    else if d.limit < d.buffer.length then
      ({ d with discarding := true }, .error (.tooLarge 0))
    else ({ d with scanned := d.reach }, .ok none)
termination_by d.buffer.length
decreasing_by
  · have := List.length_pos_iff.mpr (buffer_ne_nil_of_newline? _h)
    simp only [skip, List.length_drop]
    omega
  · simp only [skip, List.length_drop, reach] at *
    omega

/-- Takes a line off a buffer that will not grow any more: its rest is a line,
unless there is nothing or only a carriage return. -/
def lastLine (d : Decoder) : Decoder × Except FrameError (Option Octets) :=
  match d.line with
  | (d, .ok none) =>
    if d.buffer = [] ∨ d.buffer = [carriageReturn] then ({ d with scanned := 0 }, .ok none)
    else (d.skip d.buffer.length, .ok (some d.buffer))
  | r => r

/-- Takes lines until one carries a message or cannot be read; at most `fuel`
lines. -/
def message (take : Decoder → Decoder × Except FrameError (Option Octets)) :
    (fuel : Nat) → Decoder → Decoder × Except FrameError (Option Message)
  | 0, d => (d, .ok none)
  | fuel + 1, d =>
    match take d with
    | (d, .ok (some l)) =>
      match read l with
      | .ok none => message take fuel d
      | r => (d, r)
    | (d, .ok none) => (d, .ok none)
    | (d, .error e) => (d, .error e)

/-- Takes the next message off the buffer, if there is a whole one. -/
def decode (d : Decoder) : Decoder × Except FrameError (Option Message) :=
  message line (d.buffer.length + 1) d

/-- Takes the next message off a buffer that will not grow any more. -/
def decodeEnd (d : Decoder) : Decoder × Except FrameError (Option Message) :=
  message lastLine (d.buffer.length + 1) d

end Decoder

/-! ## Whole streams -/

/-- The segments between the newlines of a stream; the last one is what follows
the last newline. -/
def segments (stream : Octets) : List Octets := stream.splitOn newline

/-- What a segment of a stream carries. -/
def outcome? (limit : Nat) (segment : Octets) : Option (Except FrameError Message) :=
  if limit < segment.length then some (.error (.tooLarge 0))
  else match read segment with
    | .ok none => none
    | .ok (some m) => some (.ok m)
    | .error e => some (.error e)

/-- What a whole stream carries. -/
def outcomes (limit : Nat) (stream : Octets) : List (Except FrameError Message) :=
  (segments stream).filterMap (outcome? limit)

end Switchboard.Lines
