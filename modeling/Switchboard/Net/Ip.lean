-- SUMMARY: Text of IP addresses.
import Switchboard.Text.Numeral

/-!
# IP addresses

An address of version 4 is a number of 32 bits, written as four decimal parts. One
of version 6 has eight pieces of sixteen bits, written in hexadecimal between
colons; the longest run of zero pieces may be written as `::`, and the last two
pieces as an address of version 4.
-/

namespace Switchboard

namespace Ipv4

/-- A part without leading zeros, up to 255. -/
def part? : List Char → Option Nat
  | '0' :: _ :: _ => none
  | cs => if 3 < cs.length then none else (Text.readNat cs).filter (· < 256)

/-- The address that four parts write. -/
def read? (cs : List Char) : Option Nat := do
  match ← (cs.splitOn '.').mapM part? with
  | [a, b, c, d] => some (((a * 256 + b) * 256 + c) * 256 + d)
  | _ => none

def text (address : Nat) : List Char :=
  ['.'].intercalate
    ([address / 0x1000000, address / 0x10000 % 256, address / 0x100 % 256, address % 256].map
      Text.natDigits)

end Ipv4

namespace Ipv6

/-! ## Reading -/

/-- Pieces before and after a `::`, if there is one. -/
structure Pieces where
  before : List Nat := []
  after : Option (List Nat) := none

namespace Pieces

def length (p : Pieces) : Nat := p.before.length + (p.after.getD []).length

def push (p : Pieces) (n : Nat) : Pieces :=
  match p.after with
  | none => { p with before := p.before ++ [n] }
  | some after => { p with after := some (after ++ [n]) }

end Pieces

/-- Reads pieces; `fuel` exceeds the number of characters. -/
def pieces? : (fuel : Nat) → Pieces → List Char → Option Pieces
  | 0, _, _ => none
  | _, p, [] => some p
  | fuel + 1, p, c :: cs =>
    if p.length = 8 then none
    else if c = ':' then
      match p.after with
      | some _ => none
      | none => pieces? fuel { p with after := some [] } cs
    else
      let digits := (c :: cs).takeWhile fun c => (Text.hexValue? c).isSome
      let digits := digits.take 4
      let rest := (c :: cs).drop digits.length
      match rest with
      | '.' :: _ => do
        if digits.isEmpty || 6 < p.length then none
        let address ← Ipv4.read? (c :: cs)
        some ((p.push (address / 0x10000)).push (address % 0x10000))
      | ':' :: [] => none
      | ':' :: rest =>
        if digits.isEmpty then none else do pieces? fuel (p.push (← Text.readHex digits)) rest
      | [] => do some (p.push (← Text.readHex digits))
      | _ => none

/-- The eight pieces that a text writes. -/
def read? (cs : List Char) : Option (List Nat) := do
  let start ← match cs with
    | ':' :: ':' :: rest => some (({ after := some [] } : Pieces), rest)
    | ':' :: _ => none
    | _ => some ({}, cs)
  let p ← pieces? (cs.length + 1) start.1 start.2
  match p.after with
  | none => if p.before.length = 8 then some p.before else none
  | some after =>
    if 8 ≤ p.length then none
    else some (p.before ++ List.replicate (8 - p.length) 0 ++ after)

/-! ## Writing -/

/-- The length of the run of zeros that starts here. -/
def zeroRun (ps : List Nat) : Nat := (ps.takeWhile (· == 0)).length

/-- Start and length of the first longest run of at least two zeros. -/
def longestZeros (ps : List Nat) : Option (Nat × Nat) :=
  (List.range ps.length).foldl (fun best i =>
    let n := zeroRun (ps.drop i)
    if n < 2 then best
    else match best with
      | some (_, m) => if m < n then some (i, n) else best
      | none => some (i, n)) none

def joined (ps : List Nat) : List Char := [':'].intercalate (ps.map (Nat.toDigits 16))

/-- The text without version 4. -/
def text (ps : List Nat) : List Char :=
  match longestZeros ps with
  | some (i, n) => joined (ps.take i) ++ [':', ':'] ++ joined (ps.drop (i + n))
  | none => joined ps

/-- The address of version 4 that pieces stand for. -/
def mapped? : List Nat → Option Nat
  | [0, 0, 0, 0, 0, 0xffff, x, y] => some (x * 0x10000 + y)
  | _ => none

/-- The text in which a mapped address of version 4 is written as such. -/
def mixedText (ps : List Nat) : List Char :=
  match mapped? ps with
  | some address => "::ffff:".toList ++ Ipv4.text address
  | none => text ps

end Ipv6

end Switchboard
