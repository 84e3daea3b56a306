-- SUMMARY: Certificates and keys to try things out with.
import Switchboard.Gateway.Tls

namespace Switchboard.Sample

/-- One section of PEM. -/
def pem (label : String) (content : Octets) : Octets :=
  Text.octets ("-----BEGIN " ++ label ++ "-----\n" ++ String.ofList (Base64.encode content)
    ++ "\n-----END " ++ label ++ "-----\n")

/-- A chain of one made-up certificate, and the key that goes with it. -/
def tlsPair (n : UInt8) : TlsMaterial :=
  ⟨pem "CERTIFICATE" [0x30, n, 1], pem "PRIVATE KEY" [0x30, n, 2]⟩

/-- A made-up certificate and its key agree in their number. -/
def tlsFits (chain : List Octets) (key : Octets) : Bool :=
  match chain, key with
  | [0x30, n, 1] :: _, [0x30, m, 2] => n == m
  | _, _ => false

end Switchboard.Sample
