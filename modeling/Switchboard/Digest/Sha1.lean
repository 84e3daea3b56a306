-- SUMMARY: The 160-bit digest SHA-1.
import Switchboard.Text.Octets

/-!
# SHA-1

The message is padded to whole blocks of 64 octets. Each block is stretched to
eighty words, which eighty rounds mix into five words of state; words are added
modulo 2^32.
-/

namespace Switchboard.Sha1

structure State where
  a : UInt32
  b : UInt32
  c : UInt32
  d : UInt32
  e : UInt32
deriving DecidableEq, Repr

def initial : State := ⟨0x67452301, 0xefcdab89, 0x98badcfe, 0x10325476, 0xc3d2e1f0⟩

/-- The word with its bits moved `n` places up, those on top coming in below. -/
def rotate (n : UInt32) (w : UInt32) : UInt32 := (w <<< n) ||| (w >>> (32 - n))

/-- A number as octets, highest first. -/
def bigEndian : (size : Nat) → Nat → Octets
  | 0, _ => []
  | size + 1, n => bigEndian size (n / 256) ++ [UInt8.ofNat n]

/-- The message, a one bit, zeros, and the length in bits. -/
def padded (s : Octets) : Octets :=
  s ++ [0x80] ++ List.replicate ((119 - s.length % 64) % 64) 0 ++ bigEndian 8 (8 * s.length)

def words : Octets → List UInt32
  | a :: b :: c :: d :: rest =>
    (a.toUInt32 <<< 24 ||| b.toUInt32 <<< 16 ||| c.toUInt32 <<< 8 ||| d.toUInt32) :: words rest
  | _ => []

/-- The next `n` words of a schedule whose last ones, newest first, are given. -/
def stretch : (n : Nat) → List UInt32 → List UInt32
  | 0, newest => newest
  | n + 1, newest =>
    let word (i : Nat) : UInt32 := newest.getD i 0
    stretch n (rotate 1 (word 2 ^^^ word 7 ^^^ word 13 ^^^ word 15) :: newest)

/-- The mixing function and the constant of a round. -/
def mix (round : Nat) (s : State) : UInt32 :=
  if round < 20 then ((s.b &&& s.c) ||| (~~~s.b &&& s.d)) + 0x5a827999
  else if round < 40 then (s.b ^^^ s.c ^^^ s.d) + 0x6ed9eba1
  else if round < 60 then ((s.b &&& s.c) ||| (s.b &&& s.d) ||| (s.c &&& s.d)) + 0x8f1bbcdc
  else (s.b ^^^ s.c ^^^ s.d) + 0xca62c1d6

def round (s : State) (i : Nat) (w : UInt32) : State :=
  ⟨rotate 5 s.a + mix i s + s.e + w, s.a, rotate 30 s.b, s.c, s.d⟩

/-- The rounds from number `i` on. -/
def rounds (i : Nat) (s : State) : List UInt32 → State
  | [] => s
  | w :: ws => rounds (i + 1) (round s i w) ws

def block (s : State) (block : List UInt32) : State :=
  let t := rounds 0 s (stretch 64 block.reverse).reverse
  ⟨s.a + t.a, s.b + t.b, s.c + t.c, s.d + t.d, s.e + t.e⟩

/-- Mixes in whole blocks, at most `fuel` of them. -/
def blocks : (fuel : Nat) → State → List UInt32 → State
  | 0, s, _ => s
  | _, s, [] => s
  | fuel + 1, s, ws => blocks fuel (block s (ws.take 16)) (ws.drop 16)

def digest (s : Octets) : Octets :=
  let ws := words (padded s)
  let t := blocks ws.length initial ws
  [t.a, t.b, t.c, t.d, t.e].flatMap fun w => bigEndian 4 w.toNat

end Switchboard.Sha1
