-- SUMMARY: Percent-encoding and the characters that it is applied to.
import Switchboard.Text.Numeral
import Switchboard.Text.Octets

/-!
# Percent-encoding

An octet that may not stand in some part of a URL is written as `%` and two
hexadecimal digits. Which characters are affected depends on the part: `EncodeSet`
holds the ASCII ones; those beyond ASCII always are.
-/

namespace Switchboard.Percent

/-- Characters that are to be encoded, of those in ASCII. -/
abbrev EncodeSet := Char → Bool

def controls : EncodeSet := fun c => c.toNat < 0x20 || c.toNat == 0x7f
def inFragment : EncodeSet := fun c => controls c || " \"<>\x60".toList.contains c
def inPath : EncodeSet := fun c => inFragment c || "#?\x7b\x7d".toList.contains c
def inUserInfo : EncodeSet := fun c => inPath c || "/:;=@[\\]^|".toList.contains c
def inQuery : EncodeSet := fun c => controls c || " \"#<>".toList.contains c
def inSpecialQuery : EncodeSet := fun c => inQuery c || c == '\''

def hexDigit (n : Nat) : Char := if n < 10 then Char.ofNat (0x30 + n) else Char.ofNat (0x37 + n)

def encodeOctet (b : UInt8) : List Char := ['%', hexDigit (b.toNat / 16), hexDigit (b.toNat % 16)]

def encodeChar (set : EncodeSet) (c : Char) : List Char :=
  if c.toNat < 0x80 && !set c then [c] else (String.utf8EncodeChar c).flatMap encodeOctet

def encode (set : EncodeSet) (cs : List Char) : List Char := cs.flatMap (encodeChar set)

/-- The octets that encoded text stands for. A percent sign without two digits
stands for itself. -/
def decode : List Char → Octets
  | '%' :: a :: b :: cs =>
    match Text.hexValue? a, Text.hexValue? b with
    | some x, some y => UInt8.ofNat (16 * x + y) :: decode cs
    | _, _ => String.utf8EncodeChar '%' ++ decode (a :: b :: cs)
  | c :: cs => String.utf8EncodeChar c ++ decode cs
  | [] => []
termination_by cs => cs.length

end Switchboard.Percent
