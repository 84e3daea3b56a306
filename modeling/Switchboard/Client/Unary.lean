-- SUMMARY: The unary client: one POST for each message.
import Switchboard.Client.Scheme
import Switchboard.Http.Request
import Switchboard.Message.Codec
import Switchboard.Text.Lossy

/-!
# Unary calls

A message goes out as the body of a POST, without its trace identifier, which
travels in a header if a header can hold it. The answer to a call is the message
in the body of the response; it takes the trace identifier of the response, or
else that of the request.
-/

namespace Switchboard.UnaryClient

/-- The POST of a message. Headers of the call replace those of the client. -/
def request (c : UnaryClient) (callHeaders : Headers) (m : Message) : HttpRequest :=
  let usual : Headers := [("content-type", "application/json"), ("accept", "application/json")]
  let headers := callHeaders.replaceAll (c.extraHeaders.replaceAll usual)
  { target := c.url.target
    headers :=
      if m.traceId ≠ "" && Headers.isValue m.traceId then headers.append traceHeader m.traceId
      else headers
    body := { chunks := [(m.withTraceId "").encode], knownEmpty := false } }

/-- Any status but 200 is an error. -/
def accepted (r : HttpResponse) : Except ClientError HttpResponse :=
  if r.status = 200 then .ok r else .error (.abnormalResponse r.status (Text.lossy r.body))

/-- What a response says to the request `m`. -/
def answer (m : Message) (r : HttpResponse) : Except ClientError Message := do
  let r ← accepted r
  match Message.parse r.body with
  | .ok reply => return reply.withTraceId ((r.headers.text? traceHeader).getD m.traceId)
  | .error e => .error (.decode e)

/-- Calls with a request; `exchange` gets the response to a POST. -/
def call (exchange : HttpRequest → Except ClientError HttpResponse) (c : UnaryClient)
    (callHeaders : Headers) (m : Message) : Except ClientError Message := do
  if m.isRequest then answer m (← exchange (c.request callHeaders m)) else .error .notRequest

/-- Posts a message of any kind and asks for no answer. -/
def send (exchange : HttpRequest → Except ClientError HttpResponse) (c : UnaryClient) (m : Message) :
    Except ClientError Unit := do
  let _ ← accepted (← exchange (c.request [] m))

end Switchboard.UnaryClient
