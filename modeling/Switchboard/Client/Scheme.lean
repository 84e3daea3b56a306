-- SUMMARY: The client that a URL asks for.
import Switchboard.Client.Config
import Switchboard.Http.Target
import Switchboard.Url.Basic

/-!
# Schemes

`http` and `https` URLs are for unary clients. The other schemes name a streaming
transport, with TLS or without.
-/

namespace Switchboard

/-- The transports of streaming clients. -/
inductive StreamTransport where
  | webSocket
  | http2
  | grpc
deriving DecidableEq, Repr

namespace StreamTransport

def name : StreamTransport → String
  | .webSocket => "websocket"
  | .http2 => "h2"
  | .grpc => "grpc"

def ofScheme? : String → Option StreamTransport
  | "ws" | "wss" => some .webSocket
  | "h2" | "h2c" => some .http2
  | "grpc" | "grpcs" => some .grpc
  | _ => none

/-- The transport that a URL asks for. -/
def ofUrl (u : Url) : Except ClientError StreamTransport :=
  match ofScheme? u.scheme with
  | some t => .ok t
  | none => .error (.unsupportedScheme u.scheme)

/-- Whether a URL of this transport's schemes asks for TLS. -/
def isSecure (u : Url) : StreamTransport → Except ClientError Bool
  | .webSocket => .ok (u.scheme = "wss")
  | .http2 =>
    if u.scheme = "h2" then .ok true
    else if u.scheme = "h2c" then .ok false
    else .error (.unsupportedScheme u.scheme)
  | .grpc =>
    if u.scheme = "grpcs" then .ok true
    else if u.scheme = "grpc" then .ok false
    else .error (.unsupportedScheme u.scheme)

/-- Where to dial: the host without brackets, and the port. -/
def address (u : Url) (t : StreamTransport) : Except ClientError (String × Nat) := do
  let secure ← t.isSecure u
  match u.hostText? with
  | none => .error (.config ("no host in " ++ u.text))
  | some host =>
    let bare := (((host.toList.dropWhile (· = '[')).reverse.dropWhile (· = ']')).reverse)
    return (String.ofList bare, u.port.getD (if secure then 443 else 80))

/-- Why an address cannot even be dialed. A WebSocket request takes the URL as its
target, of which it needs an authority, and a port unless the scheme gives one. -/
def dialFault? (u : Url) (t : StreamTransport) : Option ClientError :=
  match t with
  | .webSocket =>
    match Target.read u.text with
    | .error e => some (.config ("websocket request: HTTP format error: " ++ e.message))
    | .ok target =>
      if target.authority.isEmpty then
        some (.config "websocket request: URL error: No host name in the URL")
      else if target.port?.isNone && String.ofList target.scheme ∉ ["ws", "wss"] then
        some (.transport "URL error: URL scheme not supported")
      else none
  | t =>
    match t.address u with
    | .ok _ => none
    | .error e => some e

end StreamTransport

def parseUrl (text : String) : Except ClientError Url :=
  match Url.parse text with
  | .ok u => .ok u
  | .error e => .error (.badUrl e)

/-- A unary client: where it posts and the headers it adds. -/
structure UnaryClient where
  url : Url
  extraHeaders : Headers
deriving DecidableEq, Repr

def UnaryClient.new (text : String) (c : ClientConfig) : Except ClientError UnaryClient := do
  let url ← parseUrl text
  if url.scheme = "http" || url.scheme = "https" then
    return { url, extraHeaders := ← c.headerMap }
  else .error (.unsupportedScheme url.scheme)

/-- What a streaming client starts from. -/
structure StreamSettings where
  url : Url
  transport : StreamTransport
  config : ClientConfig
  extraHeaders : Headers

def StreamSettings.new (text : String) (c : ClientConfig) : Except ClientError StreamSettings := do
  let url ← parseUrl text
  let transport ← StreamTransport.ofUrl url
  return { url, transport, config := c, extraHeaders := ← c.headerMap }

/-- The client for a URL. -/
inductive AnyClient where
  | unary (c : UnaryClient)
  | streaming (s : StreamSettings)

def AnyClient.new (text : String) (c : ClientConfig) : Except ClientError AnyClient := do
  let url ← parseUrl text
  if url.scheme = "http" || url.scheme = "https" then return .unary (← UnaryClient.new text c)
  else return .streaming (← StreamSettings.new text c)

end Switchboard
