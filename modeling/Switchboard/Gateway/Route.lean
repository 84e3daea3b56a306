-- SUMMARY: The kind of session that serves a request.
import Switchboard.Actor.Connection
import Switchboard.Http.Request

/-!
# Routes

One listener serves four kinds of sessions. An upgrade to WebSocket goes first;
then, on HTTP/2, a gRPC content type, and a body that is still open and declares
no length; every other request holds one message.
-/

namespace Switchboard

inductive Route where
  | unary
  | lineStream
  | grpc
  | webSocket
deriving DecidableEq, Repr

namespace Route

def transport : Route → Transport
  | .unary => .http
  | .lineStream => .http2
  | .grpc => .grpc
  | .webSocket => .webSocket

def isPad (c : Char) : Bool := c == ' ' || c == '\t'

def unpadded (cs : List Char) : List Char :=
  ((cs.dropWhile isPad).reverse.dropWhile isPad).reverse

/-- The tokens of a value that lists them between commas, without regard to
case. A value that is not text has none. -/
def tokens (value : String) : List (List Char) :=
  if Headers.isVisible value then
    (value.toList.splitOn ',').map fun p => (unpadded p).map Char.toLower
  else []

/-- One of the values of a header lists the token, which is in lower case. -/
def listsToken (h : Headers) (name token : String) : Bool :=
  (h.getAll name).any fun value => (tokens value).contains token.toList

def isUpgrade (r : HttpRequest) : Bool :=
  r.method = "GET" && listsToken r.headers "connection" "upgrade"
    && listsToken r.headers "upgrade" "websocket"

def isGrpc (r : HttpRequest) : Bool :=
  match r.headers.text? "content-type" with
  | some type => "application/grpc".toList.isPrefixOf type.toList
  | none => false

def isOpenPost (r : HttpRequest) : Bool :=
  r.method = "POST" && !r.headers.contains "content-length" && !r.body.knownEmpty

/-- The route of a request. -/
def of (r : HttpRequest) : Route :=
  if isUpgrade r then .webSocket
  else if r.version = .http2 && isGrpc r then .grpc
  else if r.version = .http2 && isOpenPost r then .lineStream
  else .unary

end Route

end Switchboard
