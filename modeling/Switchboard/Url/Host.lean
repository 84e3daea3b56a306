-- SUMMARY: The hosts of URLs.
import Switchboard.Net.Ip
import Switchboard.Url.Domain
import Switchboard.Url.Fault
import Switchboard.Url.Percent

/-!
# Hosts

The host of a special URL is a domain name or an address: a name whose last label
is a number is an IPv4 address, one in brackets an IPv6 address. Domain names are
written in ASCII. Other URLs have hosts that are kept as they are.
-/

namespace Switchboard

inductive Host where
  | domain (name : List Char)
  | ipv4 (address : Nat)
  /-- Eight pieces of sixteen bits. -/
  | ipv6 (pieces : List Nat)
deriving DecidableEq, Repr

namespace Host

/-! ## IPv4 -/

/-- Digits of the given base as a number. -/
def number? (base : Nat) (cs : List Char) : Option Nat :=
  cs.foldlM (fun n c => do
    let d ← Text.hexValue? c
    if d < base then some (n * base + d) else none) 0

/-- A part of an address: decimal, or octal after `0`, or hexadecimal after `0x`. -/
def ipv4Part? : List Char → Option Nat
  | [] => none
  | '0' :: 'x' :: cs | '0' :: 'X' :: cs => number? 16 cs
  | '0' :: c :: cs => number? 8 (c :: cs)
  | cs => number? 10 cs

/-- The labels without an empty one at the end. -/
def labels (name : List Char) : List (List Char) :=
  let ls := name.splitOn '.'
  if ls.length ≠ 1 && ls.getLast? = some [] then ls.dropLast else ls

def endsInNumber (name : List Char) : Bool :=
  match (labels name).getLast? with
  | some l => (l ≠ [] && l.all Char.isDigit) || (ipv4Part? l).isSome
  | none => false

/-- Parts from the first to the last, of which the last fills up the address. -/
def ipv4? (name : List Char) : Option Nat := do
  let ls := labels name
  if 4 < ls.length then none
  let ns ← ls.mapM ipv4Part?
  let last ← ns.getLast?
  let front := ns.dropLast
  if Nat.pow 256 (4 - front.length) ≤ last || front.any (255 < ·) then none
  some ((front.foldl (fun a n => a * 256 + n) 0) * Nat.pow 256 (4 - front.length) + last)

/-! ## Reading and writing -/

/-- Characters that no host may have. -/
def isForbidden (c : Char) : Bool :=
  ['\x00', '\t', '\n', '\x0d', ' ', '#', '/', ':', '<', '>', '?', '@', '[', '\\', ']', '^', '|'].contains c

/-- The address in brackets, if the host starts with one. -/
def bracketed? : List Char → Option (Except UrlFault Host)
  | '[' :: cs =>
    if cs.getLast? ≠ some ']' then some (.error .badIpv6)
    else match Ipv6.read? cs.dropLast with
      | some ps => some (.ok (.ipv6 ps))
      | none => some (.error .badIpv6)
  | _ => none

/-- The host of a special URL. -/
def special (cs : List Char) : Except UrlFault Host :=
  match bracketed? cs with
  | some r => r
  | none =>
    match (Text.ofOctets? (Percent.decode cs)).bind fun s => Domain.ascii? s.toList with
    | none => .error .badDomainName
    | some [] => .error .emptyHost
    | some name =>
      if endsInNumber name then
        match ipv4? name with
        | some a => .ok (.ipv4 a)
        | none => .error .badIpv4
      else .ok (.domain name)

/-- The host of any other URL. -/
def verbatim (cs : List Char) : Except UrlFault Host :=
  match bracketed? cs with
  | some r => r
  | none =>
    if cs.any isForbidden then .error .badHostCharacter
    else .ok (.domain (Percent.encode Percent.controls cs))

def text : Host → List Char
  | .domain name => name
  | .ipv4 a => Ipv4.text a
  | .ipv6 ps => '[' :: Ipv6.text ps ++ [']']

end Host

end Switchboard
