-- SUMMARY: The certificate and key with which a gateway terminates TLS.
import Switchboard.Gateway.Config
import Switchboard.Gateway.Error
import Switchboard.Text.Pem

/-!
# TLS material

A gateway is given a certificate chain and a private key in PEM. They are read
when it starts to listen. Whether the key belongs to the chain is a question of
cryptography, which `accept` leaves to a test that it is given.
-/

namespace Switchboard

namespace TlsMaterial

/-- The protocols offered in the handshake, in order of preference. -/
def protocols : List String := ["h2", "http/1.1"]

/-- The certificate chain and the key. -/
def load (m : TlsMaterial) : Except GatewayError (List Octets × Octets) :=
  match Pem.certificates m.certificate with
  | .error e => .error (.tlsMaterial ("certificate: " ++ e.message))
  | .ok [] => .error (.tlsMaterial "no certificate found in PEM")
  | .ok chain =>
    match Pem.privateKey? m.privateKey with
    | .error e => .error (.tlsMaterial ("private key: " ++ e.message))
    | .ok none => .error (.tlsMaterial "private key: no items found")
    | .ok (some key) => .ok (chain, key)

/-- The chain and the key, if `fits` finds that they belong together. -/
def accept (fits : List Octets → Octets → Bool) (m : TlsMaterial) :
    Except GatewayError (List Octets × Octets) := do
  let (chain, key) ← m.load
  if fits chain key then return (chain, key) else throw (.tls "key and certificate do not match")

end TlsMaterial

end Switchboard
