-- SUMMARY: The four kinds of messages and access to their parts.
import Switchboard.Message.Id
import Switchboard.Message.Params
import Switchboard.Message.RpcError

/-!
# Messages

A request wants an answer and a notify does not; a result and an error are the
two kinds of answers. Every message may carry a trace identifier, empty when
absent, and a message that was read keeps the object it was read from. Two
messages are the same when their contents are: neither the trace identifier nor
the object read counts.
-/

namespace Switchboard

inductive Content where
  | request (id : RequestId) (method : String) (params : Params)
  | notify (method : String) (params : Params)
  | result (id : RequestId) (value : Json)
  | error (id : RequestId) (error : RpcError)
deriving DecidableEq, Repr, Inhabited

structure Message where
  content : Content
  traceId : String := ""
  raw : Option (Keyed Json) := none
deriving DecidableEq, Repr, Inhabited

namespace Message

def request (id : RequestId) (method : String) (params : Params) : Message :=
  { content := .request id method params }

def notify (method : String) (params : Params) : Message := { content := .notify method params }

def result (id : RequestId) (value : Json) : Message := { content := .result id value }

def error (id : RequestId) (e : RpcError) : Message := { content := .error id e }

/-- The messages say the same thing. -/
def same (a b : Message) : Bool := a.content = b.content

def kind (m : Message) : String :=
  match m.content with
  | .request .. => "request"
  | .notify .. => "notify"
  | .result .. => "result"
  | .error .. => "error"

def isRequest (m : Message) : Bool := m.content matches .request ..

def isNotify (m : Message) : Bool := m.content matches .notify ..

def isResult (m : Message) : Bool := m.content matches .result ..

def isError (m : Message) : Bool := m.content matches .error ..

/-- The message asks a peer to do something. -/
def isCall (m : Message) : Bool := m.isRequest || m.isNotify

/-- The message answers a request. -/
def isAnswer (m : Message) : Bool := m.isResult || m.isError

def id? (m : Message) : Option RequestId :=
  match m.content with
  | .request id _ _ | .result id _ | .error id _ => some id
  | .notify .. => none

def method? (m : Message) : Option String :=
  match m.content with
  | .request _ method _ | .notify method _ => some method
  | _ => none

def params? (m : Message) : Option Params :=
  match m.content with
  | .request _ _ params | .notify _ params => some params
  | _ => none

def result? (m : Message) : Option Json :=
  match m.content with
  | .result _ value => some value
  | _ => none

def error? (m : Message) : Option RpcError :=
  match m.content with
  | .error _ e => some e
  | _ => none

/-- The parameters by position; an answer has none. -/
def positional (m : Message) : List Json := (m.params?.map Params.toList).getD []

/-- A member of the object that the message was read from. -/
def rawField? (key : String) (m : Message) : Option Json := m.raw.bind (Keyed.find? key)

/-- The message under another identifier; a notify has none to replace. -/
def withId (id : RequestId) (m : Message) : Message :=
  match m.content with
  | .request _ method params => { m with content := .request id method params }
  | .notify .. => m
  | .result _ value => { m with content := .result id value }
  | .error _ e => { m with content := .error id e }

def withTraceId (traceId : String) (m : Message) : Message := { m with traceId }

/-- The result that answers a request, with the request's trace identifier. -/
def answer? (value : Json) (m : Message) : Option Message :=
  match m.content with
  | .request id _ _ => some { content := .result id value, traceId := m.traceId }
  | _ => none

/-- The error that answers a request, with the request's trace identifier. -/
def refuse? (e : RpcError) (m : Message) : Option Message :=
  match m.content with
  | .request id _ _ => some { content := .error id e, traceId := m.traceId }
  | _ => none

/-- A part that only messages of other kinds have. -/
inductive MissingPart where
  | id
  | call
  | result
  | error
deriving DecidableEq, Repr

def MissingPart.message : MissingPart → String
  | .id => "message is not a request, result or error"
  | .call => "message is not a request or notify"
  | .result => "message is not a result"
  | .error => "message is not an error"

@[simp]
theorem id?_withId_of_isRequest {m : Message} (id : RequestId) (h : m.isRequest) :
    (m.withId id).id? = some id := by
  cases m with
  | mk content _ _ => cases content <;> simp_all [isRequest, withId, id?]

@[simp]
theorem isRequest_withId (id : RequestId) (m : Message) : (m.withId id).isRequest = m.isRequest := by
  cases hm : m.content <;> simp [withId, isRequest, hm]

end Message

end Switchboard
