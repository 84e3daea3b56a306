-- SUMMARY: What a handler knows of the connection that brought a message.
import Switchboard.Http.Headers
import Switchboard.Net.SocketAddress

/-!
# Connections

Four transports bring messages to an actor. A handler sees which one it was,
who is at the other end, the headers that opened the connection and the identity
that was established, and whether it is a session to which messages can be
pushed. A unary request is no session.
-/

namespace Switchboard

inductive Transport where
  | http
  | http2
  | webSocket
  | grpc
deriving DecidableEq, Repr, Inhabited

namespace Transport

def name : Transport → String
  | .http => "http"
  | .http2 => "h2"
  | .webSocket => "websocket"
  | .grpc => "grpc"

def isStreaming (t : Transport) : Bool := t ≠ .http

end Transport

structure Connection where
  transport : Transport
  /-- A random identifier of 32 hexadecimal digits. -/
  streamId : String
  remote : Option SocketAddress := none
  headers : Headers := []
  identity : Option String := none
  /-- Messages can be pushed to the peer. -/
  hasSession : Bool := false
deriving DecidableEq, Repr, Inhabited

namespace Connection

/-- The identifier that a count makes: 32 hexadecimal digits. -/
def identifier (count : Nat) : String :=
  let digits := Nat.toDigits 16 count
  String.ofList (List.replicate (32 - digits.length) '0' ++ digits)

/-- A connection of no transport in particular. -/
def detached : Connection := { transport := .http, streamId := identifier 0 }

end Connection

end Switchboard
