-- SUMMARY: Sections of binary data in text.
import Switchboard.Text.Base64

/-!
# PEM

A section starts with a line that names what it holds, ends with a line that
repeats the name, and has base 64 in between. What stands outside of sections is
ignored, and so are sections that hold something else than certificates or keys.
-/

namespace Switchboard

inductive PemFault where
  | badStart
  | unended
  | badBase64
deriving DecidableEq, Repr

def PemFault.message : PemFault → String
  | .badStart => "illegal section start"
  | .unended => "section end missing"
  | .badBase64 => "base64 decode error"

structure PemSection where
  label : List Char
  content : Octets
deriving DecidableEq, Repr

namespace Pem

def beginMark : List Char := "-----BEGIN ".toList
def endMark : List Char := "-----END ".toList
def tailMark : List Char := "-----".toList

/-- What a section may hold. -/
def isKnown (label : List Char) : Bool :=
  String.ofList label ∈ ["CERTIFICATE", "PUBLIC KEY", "RSA PRIVATE KEY", "PRIVATE KEY",
    "EC PRIVATE KEY", "X509 CRL", "CERTIFICATE REQUEST", "ECHCONFIG"]

def isLineEnd (c : Char) : Bool := c == '\n' || c == '\x0d'

def lines (cs : List Char) : List (List Char) :=
  cs.foldr (fun c ls =>
    match ls with
    | [] => [[c]]
    | l :: ls => if isLineEnd c then [] :: l :: ls else (c :: l) :: ls) [[]]

/-- The label of a line that starts a section: five hyphens follow it. Blanks do not
count there. -/
def startLabel? (line : List Char) : Except PemFault (List Char) :=
  let tail := line.reverse.takeWhile fun c => c = '-' || c = ' '
  let hyphens := tail.filter (· = '-')
  if hyphens.length ≠ 5 then .error .badStart
  else
    let blanks := tail.reverse.takeWhile (· = ' ')
    .ok ((line.take (line.length - tail.length + blanks.length)).drop beginMark.length)

def isBlank (c : Char) : Bool := c == ' ' || ('\t' ≤ c && c ≤ '\x0d')

def decode (b64 : List Char) : Except PemFault Octets :=
  match Base64.decode? (b64.filter (!isBlank ·)) with
  | some s => .ok s
  | none => .error .badBase64

/-- The known sections of a text, up to the first fault. -/
structure Contents where
  sections : List PemSection := []
  fault : Option PemFault := none
deriving DecidableEq, Repr

/-- The known sections of the lines; `current` is the section that is open and the
text it has so far. -/
def contents (current : Option (List Char × List Char)) : List (List Char) → Contents
  | [] => { fault := current.map fun _ => .unended }
  | line :: rest =>
    if beginMark.isPrefixOf line then
      match startLabel? line with
      | .error e => { fault := some e }
      | .ok label => contents (some (label, (current.map Prod.snd).getD [])) rest
    else match current with
      | none => contents none rest
      | some (label, b64) =>
        if (endMark ++ label ++ tailMark).isPrefixOf line then
          if isKnown label then
            match decode b64 with
            | .error e => { fault := some e }
            | .ok content =>
              let more := contents none rest
              { more with sections := ⟨label, content⟩ :: more.sections }
          else contents none rest
        else contents (some (label, b64 ++ line)) rest

/-- The known sections of a text, whose octets are read one by one as characters. -/
def read (s : Octets) : Contents := contents none (lines (s.map Text.ascii))

/-- The certificates of a text that has no fault. -/
def certificates (s : Octets) : Except PemFault (List Octets) :=
  match read s with
  | ⟨_, some e⟩ => .error e
  | ⟨all, none⟩ => .ok ((all.filter (·.label = "CERTIFICATE".toList)).map PemSection.content)

/-- The first private key of a text. Faults behind it do not matter. -/
def privateKey? (s : Octets) : Except PemFault (Option Octets) :=
  let c := read s
  match c.sections.find? fun c => String.ofList c.label ∈
    ["PRIVATE KEY", "RSA PRIVATE KEY", "EC PRIVATE KEY"], c.fault with
  | some key, _ => .ok (some key.content)
  | none, some e => .error e
  | none, none => .ok none

end Pem

end Switchboard
