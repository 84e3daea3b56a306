-- SUMMARY: One message per request.
import Switchboard.Actor.Basic
import Switchboard.Gateway.Config
import Switchboard.Http.Request

/-!
# Unary requests

A POST whose body is one call. Before the call is dispatched the request can be
refused for its method, its body, or what the body holds; afterwards the status
is 200 whatever the handler did. The trace identifier travels in a header: it is
taken from there if the message has none, and it leaves the message that is sent
back.
-/

namespace Switchboard

namespace Unary

/-- Why a request is refused before its message is dispatched. -/
inductive Refusal where
  | method
  | body
  | notCall
deriving DecidableEq, Repr

def Refusal.response : Refusal → HttpResponse
  | .method => .plain 405 "Method not allowed"
  | .body => .plain 400 "Bad request"
  | .notCall => .plain 400 "Only request or notify is accepted"

/-- What is known of a body that is being read. -/
inductive Collected where
  | whole (s : Octets)
  | unreadable
  | unfinished
deriving DecidableEq, Repr

/-- Reads chunks up to the limit; `got` has been read. -/
def collect (limit : Nat) (ending : BodyEnd) (got : Octets) : List Octets → Collected
  | [] =>
    match ending with
    | .complete => .whole got
    | .broken => .unreadable
    | .pending => .unfinished
  | chunk :: rest =>
    if limit < got.length + chunk.length then .unreadable
    else collect limit ending (got ++ chunk) rest

/-- The call that a body holds. A message without a trace identifier takes the
one of the header. -/
def call (trace : Option String) (body : Octets) : Except Refusal Message :=
  match Message.parse body with
  | .error _ => .error .body
  | .ok m =>
    if !m.isCall then .error .notCall
    else match trace with
      | some t => .ok (if m.traceId = "" then m.withTraceId t else m)
      | none => .ok m

/-- What becomes of a request before it is dispatched. -/
inductive Intake where
  | refused (r : Refusal)
  | accepted (m : Message)
  | unfinished

def intake (config : GatewayConfig) (r : HttpRequest) : Intake :=
  if r.method ≠ "POST" then .refused .method
  else match collect config.maxBodySize r.body.ending [] r.body.chunks with
    | .unfinished => .unfinished
    | .unreadable => .refused .body
    | .whole body =>
      match call (r.headers.text? traceHeader) body with
      | .ok m => .accepted m
      | .error e => .refused e

/-- The response to a call that has been dispatched. -/
def respond : Answer → HttpResponse
  | .ok (some reply) =>
    let response := HttpResponse.json (reply.withTraceId "").encode
    if reply.traceId ≠ "" && Headers.isValue reply.traceId then
      { response with headers := response.headers.insert traceHeader reply.traceId }
    else response
  | _ => {}

/-- What is done for an accepted call, in order. -/
inductive Event where
  | dispatched (m : Message)
  /-- The close handler has run; it noted this. -/
  | closed (notes : List String)
deriving DecidableEq, Repr

/-- Serves an accepted call, whose answer is given: the call is dispatched, and with
its answer the connection is over. -/
def serve (a : Actor) (c : Call) (answer : Answer) : List Event × HttpResponse :=
  ([.dispatched c.message, .closed (a.close c.connection)], respond answer)

end Unary

end Switchboard
