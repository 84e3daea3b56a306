-- SUMMARY: The answer to a request that upgrades to WebSocket.
import Switchboard.Digest.Sha1
import Switchboard.Http.Request
import Switchboard.Text.Base64

/-!
# WebSocket upgrades

The peer sends a key; the gateway shows that it understands the protocol by
sending back the digest of the key and a fixed identifier.
-/

namespace Switchboard.Upgrade

def identifier : String := "258EAFA5-E914-47DA-95CA-C5AB0DC85B11"

/-- What is sent back for a key. -/
def acceptance (key : String) : String :=
  String.ofList (Base64.encode (Sha1.digest (Text.octets (key ++ identifier))))

/-- The response to an upgrade; there is none without a key. -/
def respond (r : HttpRequest) : HttpResponse :=
  match r.headers.get? "sec-websocket-key" with
  | none => .plain 400 "Bad request"
  | some key =>
    { status := 101
      headers := [("upgrade", "websocket"), ("connection", "Upgrade"),
        ("sec-websocket-accept", acceptance key)] }

end Switchboard.Upgrade
