-- SUMMARY: The settings of a gateway.
import Switchboard.Frame.Framing
import Switchboard.Net.SocketAddress

/-!
# Gateway settings

Settings are made one by one on top of the defaults. A queue size set that way is
at least one.
-/

namespace Switchboard

/-- Certificate and private key in PEM. -/
structure TlsMaterial where
  certificate : Octets
  privateKey : Octets
deriving DecidableEq, Repr

structure GatewayConfig where
  bindAddress : SocketAddress := { ip := .v4 0x7f000001, port := 8000 }
  /-- The octets that the body of a unary request may have. -/
  maxBodySize : Nat := 1024 * 1024
  maxFrameSize : Nat := Framing.defaultLimit
  /-- How many messages a session queues for its peer. -/
  queueSize : Nat := 100
  /-- Each message of a session is served by a task of its own. -/
  spawnPerMessage : Bool := false
  /-- A line stream opens with a greeting. -/
  greeting : Bool := true
  tls : Option TlsMaterial := none
deriving DecidableEq, Repr

namespace GatewayConfig

def withQueueSize (n : Nat) (c : GatewayConfig) : GatewayConfig := { c with queueSize := max n 1 }

end GatewayConfig

end Switchboard
