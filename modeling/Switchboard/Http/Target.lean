-- SUMMARY: The targets of requests and their parts.
import Switchboard.Text.Numeral

/-!
# Targets

A request is aimed at a path on the host that it reaches, at a whole URI, or at an
authority alone. `Target.read` tells these forms apart; what it checks of them is
little more than which characters stand where.
-/

namespace Switchboard

inductive TargetFault where
  | badCharacter
  | badAuthority
  | badForm
  | longScheme
  | tooLong
  | empty
deriving DecidableEq, Repr

def TargetFault.message : TargetFault → String
  | .badCharacter => "invalid uri character"
  | .badAuthority => "invalid authority"
  | .badForm => "invalid format"
  | .longScheme => "scheme too long"
  | .tooLong => "uri too long"
  | .empty => "empty string"

/-- A target; what is empty is not there. -/
structure Target where
  scheme : List Char := []
  authority : List Char := []
  /-- Path and query. -/
  resource : List Char := []
deriving DecidableEq, Repr

namespace Target

/-! ## Schemes -/

/-- The scheme, which `://` follows. -/
def takeScheme (cs : List Char) : Except TargetFault (Option (List Char × List Char)) :=
  let name := cs.takeWhile fun c => c.isAlphanum || "+-.~".toList.contains c
  match cs.drop name.length with
  | ':' :: '/' :: '/' :: rest =>
    if 64 < name.length then .error .longScheme else .ok (some (name, rest))
  | _ => .ok none

/-! ## Authorities -/

/-- What has been seen of an authority. An `@` ends the user information and a
bracket an address: what came before them no longer counts. -/
structure Seen where
  colons : Nat := 0
  opened : Bool := false
  closed : Bool := false
  percent : Bool := false

def Seen.next (s : Seen) (c : Char) : Except TargetFault Seen :=
  match c with
  | ':' => if 8 ≤ s.colons then .error .badAuthority else .ok { s with colons := s.colons + 1 }
  | '[' => if s.percent || s.opened then .error .badAuthority else .ok { s with opened := true }
  | ']' =>
    if !s.opened || s.closed then .error .badAuthority
    else .ok { s with closed := true, colons := 0, percent := false }
  | '@' => .ok { s with colons := 0, percent := false }
  | '%' => .ok { s with percent := true }
  | c =>
    if c.isAlphanum || "!$&'()*+,-.;=_~".toList.contains c then .ok s else .error .badCharacter

/-- The authority at the front, which may be empty. -/
def takeAuthority (cs : List Char) : Except TargetFault (List Char × List Char) := do
  let authority := cs.takeWhile fun c => c ≠ '/' ∧ c ≠ '?' ∧ c ≠ '#'
  let seen ← authority.foldlM Seen.next {}
  if seen.opened ≠ seen.closed || 1 < seen.colons || authority.getLast? = some '@' || seen.percent
  then throw .badAuthority
  return (authority, cs.drop authority.length)

/-- The host of an authority. -/
def host (t : Target) : List Char :=
  let cs := (t.authority.reverse.takeWhile (· ≠ '@')).reverse
  if cs.head? = some '[' then cs.takeWhile (· ≠ ']') ++ [']'] else cs.takeWhile (· ≠ ':')

/-- The port that an authority names. -/
def port? (t : Target) : Option Nat :=
  if t.authority.contains ':' then
    match (t.authority.reverse.takeWhile (· ≠ ':')).reverse with
    | '+' :: digits | digits => (Text.readNat digits).filter (· < 0x10000)
  else none

/-! ## Paths -/

/-- Characters that may stand in a path. -/
def inPath (c : Char) : Bool := 0x20 < c.toNat && !"#<>?\x60".toList.contains c

/-- Characters that may stand in a query. -/
def inQuery (c : Char) : Bool := 0x20 < c.toNat && !"\"#<>".toList.contains c

/-- Path and query; a fragment is dropped. -/
def readResource (cs : List Char) : Except TargetFault (List Char) :=
  let resource := cs.takeWhile (· ≠ '#')
  let path := resource.takeWhile (· ≠ '?')
  if path.all inPath && (resource.drop (path.length + 1)).all inQuery then .ok resource
  else .error .badCharacter

/-- The path. A URI that names none has the root. -/
def path (t : Target) : List Char :=
  if t.scheme.isEmpty && t.resource.isEmpty then []
  else
    match t.resource.takeWhile (· ≠ '?') with
    | [] => ['/']
    | cs => cs

/-! ## Reading -/

def read (text : String) : Except TargetFault Target := do
  if 65534 < text.utf8ByteSize then throw .tooLong
  match text.toList with
  | [] => throw .empty
  | ['*'] => return { resource := ['*'] }
  | '/' :: cs => return { resource := ← readResource ('/' :: cs) }
  | cs =>
    match ← takeScheme cs with
    | some (scheme, rest) =>
      let (authority, rest) ← takeAuthority rest
      if authority.isEmpty then throw .badForm
      return { scheme, authority, resource := ← readResource rest }
    | none =>
      let (authority, rest) ← takeAuthority cs
      if rest.isEmpty then return { authority } else throw .badForm

end Target

end Switchboard
