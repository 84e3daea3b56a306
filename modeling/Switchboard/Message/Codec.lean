-- SUMMARY: Messages as JSON objects and as octets.
import Switchboard.Json.Reader
import Switchboard.Message.Basic

/-!
# Message codec

`Message.ofJson?` reads the four kinds of messages from an object and
`Message.toJson` writes them. An object with a method is a request if it has an
id and a notify if not; one without a method is an answer. Of several faults
the first in the order of the checks is reported: the method, then the
parameters, then the id; or the id, then the result or the error.
-/

namespace Switchboard

/-- Why an object or a document is no message. -/
inductive DecodeError where
  | notObject
  | invalidMethod
  | invalidId
  | invalidParams
  | invalidErrorObject
  | missingFields
  | json (e : JsonError)
deriving DecidableEq, Repr

def DecodeError.message : DecodeError → String
  | .notObject => "message is not a JSON object"
  | .invalidMethod => "method must be a string"
  | .invalidId => "id must be a number, string or null"
  | .invalidParams => "params must be an array or an object"
  | .invalidErrorObject => "error field must be an object with an integer code"
  | .missingFields => "message has neither method nor result/error"
  | .json e => "JSON parse error: " ++ e.message

namespace Message

/-! ## Reading -/

/-- The parameters that a member stands for: absent or null ones are none. -/
def readParams : Option Json → Except DecodeError Params
  | none | some .null => .ok .empty
  | some v =>
    match Params.ofJson? v with
    | some p => .ok p
    | none => .error .invalidParams

def readId (v : Json) : Except DecodeError RequestId :=
  match RequestId.ofJson? v with
  | some id => .ok id
  | none => .error .invalidId

/-- A request or a notify, for an object whose method is given. -/
def readCall (members : Keyed Json) : Json → Except DecodeError Content
  | .str method => do
    let params ← readParams (Keyed.find? "params" members)
    match Keyed.find? "id" members with
    | some v => return .request (← readId v) method params
    | none => return .notify method params
  | _ => .error .invalidMethod

/-- A result or an error, for an object without a method. -/
def readAnswer (members : Keyed Json) : Except DecodeError Content := do
  match Keyed.find? "id" members with
  | none => .error .missingFields
  | some v =>
    let id ← readId v
    match Keyed.find? "result" members, Keyed.find? "error" members with
    | some value, _ => return .result id value
    | none, some e =>
      match RpcError.ofJson? e with
      | some e => return .error id e
      | none => .error .invalidErrorObject
    | none, none => .error .missingFields

def ofJson? : Json → Except DecodeError Message
  | .obj members => do
    let content ← match Keyed.find? "method" members with
      | some method => readCall members method
      | none => readAnswer members
    return {
      content
      traceId := ((Keyed.find? "traceid" members).bind Json.str?).getD ""
      raw := some members }
  | _ => .error .notObject

/-- The message that a document holds. -/
def parse (doc : Octets) : Except DecodeError Message :=
  match Json.read? doc with
  | .ok v => ofJson? v
  | .error e => .error (.json e)

/-! ## Writing -/

def version : Json := .str "2.0"

/-- The trace identifier as a member, unless it is empty. -/
def traceMember (m : Message) : List (String × Json) :=
  if m.traceId = "" then [] else [("traceid", .str m.traceId)]

def toJson (m : Message) : Json :=
  .obj <| (match m.content with
    | .request id method params =>
      [("id", id.toJson), ("jsonrpc", version), ("method", .str method), ("params", params.toJson)]
    | .notify method params =>
      [("jsonrpc", version), ("method", .str method), ("params", params.toJson)]
    | .result id value => [("id", id.toJson), ("jsonrpc", version), ("result", value)]
    | .error id e => [("error", e.toJson), ("id", id.toJson), ("jsonrpc", version)])
    ++ m.traceMember

/-- The compact text of the message. -/
def text (m : Message) : String := m.toJson.compact

def encode (m : Message) : Octets := Text.octets m.text

def encodePretty (m : Message) : Octets := Text.octets m.toJson.pretty

end Message

end Switchboard
