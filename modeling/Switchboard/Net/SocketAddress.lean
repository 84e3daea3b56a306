-- SUMMARY: Addresses of the ends of connections.
import Switchboard.Net.Ip

/-!
# Socket addresses

An end of a connection has an IP address and a port. An address of version 6
stands in brackets and may name the scope that it is valid in. An address has many
spellings; `text` is the one that it is shown by.
-/

namespace Switchboard

inductive IpAddress where
  | v4 (address : Nat)
  /-- Eight pieces of sixteen bits, and the scope, which is 0 if none is named. -/
  | v6 (pieces : List Nat) (scope : Nat)
deriving DecidableEq, Repr, Inhabited

structure SocketAddress where
  ip : IpAddress
  port : Nat
deriving DecidableEq, Repr, Inhabited

namespace SocketAddress

/-- An address that packets to do not leave the host. -/
def isLoopback (a : SocketAddress) : Bool :=
  match a.ip with
  | .v4 address => address / 0x1000000 == 127
  | .v6 pieces _ => pieces == [0, 0, 0, 0, 0, 0, 0, 1]

/-! ## Reading and writing -/

/-- A number below the bound, with leading zeros or without. -/
def number? (bound : Nat) (cs : List Char) : Option Nat := (Text.readNat cs).filter (· < bound)

/-- What is before and after the first of a character. -/
def cut? (c : Char) (cs : List Char) : Option (List Char × List Char) :=
  match cs.dropWhile (· ≠ c) with
  | _ :: rest => some (cs.takeWhile (· ≠ c), rest)
  | [] => none

/-- The address that a text writes. -/
def read? (s : String) : Option SocketAddress :=
  match s.toList with
  | '[' :: cs => do
    let (inside, rest) ← cut? ']' cs
    let port ← match rest with
      | ':' :: port => number? 0x10000 port
      | _ => none
    match cut? '%' inside with
    | some (address, scope) =>
      some { ip := .v6 (← Ipv6.read? address) (← number? 0x100000000 scope), port }
    | none => some { ip := .v6 (← Ipv6.read? inside) 0, port }
  | cs => do
    let (address, port) ← cut? ':' cs
    some { ip := .v4 (← Ipv4.read? address), port := ← number? 0x10000 port }

def ipText : IpAddress → List Char
  | .v4 address => Ipv4.text address
  | .v6 pieces scope =>
    let named := if scope = 0 then [] else '%' :: Text.natDigits scope
    '[' :: Ipv6.mixedText pieces ++ named ++ [']']

def text (a : SocketAddress) : String :=
  String.ofList (ipText a.ip ++ ':' :: Text.natDigits a.port)

end SocketAddress

end Switchboard
