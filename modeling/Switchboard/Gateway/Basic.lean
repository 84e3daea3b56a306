-- SUMMARY: The gateway: from a request to what serves it.
import Switchboard.Gateway.Route
import Switchboard.Gateway.Session
import Switchboard.Gateway.Unary
import Switchboard.Gateway.Upgrade

/-!
# The gateway

A request is authenticated first; one that is refused never reaches the actor.
Its route then decides what serves it: a response that is there at once, a call
to be dispatched, or a session.
-/

namespace Switchboard

/-- Who sends a request with these headers from this address, if anyone may. -/
abbrev Authenticator := Headers → Option SocketAddress → Option String

structure Gateway where
  actor : Actor
  config : GatewayConfig := {}
  authenticator : Option Authenticator := none

namespace Gateway

/-- What serves a request. -/
inductive Service where
  | answered (r : HttpResponse)
  /-- The request is unary, and its body has yet to end. -/
  | unfinished
  /-- The call of a unary request. -/
  | call (c : Call)
  | stream (head : ResponseHead) (setup : Session.Setup) (state : Session.State)
  /-- The upgrade is accepted; the session starts once it is done. -/
  | upgrade (head : ResponseHead) (setup : Session.Setup)

def unauthorized : HttpResponse := .plain 401 "auth failed!"

/-- The settings of a session on this gateway. -/
def setup (g : Gateway) (kind : Session.Kind) (c : Connection) : Session.Setup :=
  { actor := g.actor, connection := { c with hasSession := true }, kind
    capacity := max g.config.queueSize 1, spawn := g.config.spawnPerMessage }

/-- A session whose input is the body of a request. -/
def openStream (g : Gateway) (kind : Session.Kind) (framing : Framing) (c : Connection) (b : Body) :
    Session.Setup × Session.State :=
  let u := g.setup kind c
  (u, Session.opened u (.frames ((framing.decoder g.config.maxFrameSize).feed b.chunks.flatten) b.ending))

def serveUnary (g : Gateway) (r : HttpRequest) (c : Connection) : Service :=
  match Unary.intake g.config r with
  | .refused e => .answered e.response
  | .unfinished => .unfinished
  | .accepted m => .call ⟨m, c⟩

def serveLines (g : Gateway) (r : HttpRequest) (c : Connection) : Service :=
  let (u, s) := g.openStream (.lines g.config.greeting) .lines c r.body
  .stream { headers := [("content-type", "application/x-ndjson"), ("cache-control", "no-cache")] } u s

def serveGrpc (g : Gateway) (r : HttpRequest) (c : Connection) : Service :=
  let head : ResponseHead := { headers := [("content-type", "application/grpc")] }
  if r.path ≠ Grpc.streamPath then
    .answered { head with
      headers := head.headers ++ [("grpc-status", "12"), ("grpc-message", "unknown method")] }
  else
    let (u, s) := g.openStream .grpc .grpc c r.body
    .stream head u s

def serveWebSocket (g : Gateway) (r : HttpRequest) (c : Connection) : Service :=
  let response := Upgrade.respond r
  if response.status = 101 then .upgrade response.toResponseHead (g.setup .webSocket c)
  else .answered response

/-- The identity behind a request: `none` if it is refused. -/
def authenticate (g : Gateway) (r : HttpRequest) (remote : Option SocketAddress) : Option (Option String) :=
  match g.authenticator with
  | none => some none
  | some auth => (auth r.headers remote).map some

/-- Serves one request on a connection whose identifier is given. -/
def handle (g : Gateway) (streamId : String) (remote : Option SocketAddress) (r : HttpRequest) : Service :=
  match g.authenticate r remote with
  | none => .answered unauthorized
  | some identity =>
    let route := Route.of r
    let c : Connection :=
      { transport := route.transport, streamId, remote, headers := r.headers, identity }
    match route with
    | .unary => g.serveUnary r c
    | .lineStream => g.serveLines r c
    | .grpc => g.serveGrpc r c
    | .webSocket => g.serveWebSocket r c

end Gateway

end Switchboard
