-- SUMMARY: What can go wrong with a gateway.
import Switchboard.Frame.Error

namespace Switchboard

inductive GatewayError where
  | http (text : String)
  | io (text : String)
  | tls (text : String)
  /-- Certificate or private key cannot be used. -/
  | tlsMaterial (text : String)
  | decode (e : DecodeError)
  | frame (e : FrameError)
  | webSocket (text : String)
  | badConfig (text : String)
deriving DecidableEq, Repr

def GatewayError.message : GatewayError → String
  | .http text => "HTTP error: " ++ text
  | .io text => "IO error: " ++ text
  | .tls text => "TLS error: " ++ text
  | .tlsMaterial text => "invalid TLS material: " ++ text
  | .decode e => "decode error: " ++ e.message
  | .frame e => "frame error: " ++ e.message
  | .webSocket text => "WebSocket error: " ++ text
  | .badConfig text => "Invalid configuration: " ++ text

end Switchboard
