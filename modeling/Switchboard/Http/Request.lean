-- SUMMARY: Requests and the heads of responses.
import Switchboard.Http.Headers
import Switchboard.Http.Target
import Switchboard.Text.Octets

/-!
# Requests and responses

What the gateway looks at in a request: version, method, path, headers, and the
body as the chunks in which it arrives and the way it ends.
-/

namespace Switchboard

inductive HttpVersion where
  | http10
  | http11
  | http2
deriving DecidableEq, Repr

/-- How a body ends: it is complete, it breaks off, or its end has not arrived. -/
inductive BodyEnd where
  | complete
  | broken
  | pending
deriving DecidableEq, Repr

structure Body where
  chunks : List Octets := []
  ending : BodyEnd := .complete
  /-- The body is known to be empty before it is read. -/
  knownEmpty : Bool := true
deriving DecidableEq, Repr

structure HttpRequest where
  version : HttpVersion := .http11
  method : String := "POST"
  target : String := "/"
  headers : Headers := []
  body : Body := {}
deriving DecidableEq, Repr

/-- The path of the target. -/
def HttpRequest.path (r : HttpRequest) : String :=
  match Target.read r.target with
  | .ok t => String.ofList t.path
  | .error _ => ""

/-- The header in which the trace identifier of a unary message travels. -/
def traceHeader : String := "x-trace-id"

structure ResponseHead where
  status : Nat := 200
  headers : Headers := []
deriving DecidableEq, Repr

/-- A response whose body is there at once. -/
structure HttpResponse extends ResponseHead where
  body : Octets := []
deriving DecidableEq, Repr

namespace HttpResponse

/-- A response in plain text, for a request that holds no message. -/
def plain (status : Nat) (text : String) : HttpResponse :=
  { status, headers := [("content-type", "text/plain; charset=utf-8")], body := Text.octets text }

/-- A response that carries an encoded message. -/
def json (body : Octets) : HttpResponse :=
  { headers := [("content-type", "application/json")], body }

end HttpResponse

end Switchboard
