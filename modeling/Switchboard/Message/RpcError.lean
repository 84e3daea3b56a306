-- SUMMARY: Errors that travel in messages: code, text and data.
import Switchboard.Json.Basic

/-!
# Errors on the wire

An error message carries a code, a text and perhaps data. Data that is present
and `null` differs from data that is absent. The codes that the protocol itself
uses have fixed texts (`ErrorCode`).
-/

namespace Switchboard

structure RpcError where
  code : Int64
  message : String
  data : Option Json := none
deriving DecidableEq, Repr, Inhabited

inductive ErrorCode where
  | parseError
  | invalidRequest
  | methodNotFound
  | invalidParams
  | internalError
  | invalidSchema
deriving DecidableEq, Repr

namespace ErrorCode

def code : ErrorCode → Int64
  | .parseError => -32700
  | .invalidRequest => -32600
  | .methodNotFound => -32601
  | .invalidParams => -32602
  | .internalError => -32603
  | .invalidSchema => -32633

def message : ErrorCode → String
  | .parseError => "parse error"
  | .invalidRequest => "invalid request"
  | .methodNotFound => "method not found"
  | .invalidParams => "invalid params"
  | .internalError => "internal error"
  | .invalidSchema => "invalid schema"

def display (c : ErrorCode) : String :=
  Text.numeral c.code.toInt ++ ": " ++ c.message

def toError (c : ErrorCode) : RpcError := { code := c.code, message := c.message }

end ErrorCode

namespace RpcError

/-- Parameters that the method does not take. -/
def badParams (text : String) : RpcError := { code := ErrorCode.invalidParams.code, message := text }

/-- Parameters that the method's schema rejects. -/
def badSchema (text : String) : RpcError := { code := ErrorCode.invalidSchema.code, message := text }

def display (e : RpcError) : String :=
  "JSON-RPC error " ++ Text.numeral e.code.toInt ++ ": " ++ e.message

/-- The members of the error, in the order in which the record is written. -/
def members (e : RpcError) : List (String × Json) :=
  [("code", .ofInt e.code.toInt), ("message", .str e.message)]
    ++ e.data.toList.map fun d => ("data", d)

def toJson (e : RpcError) : Json := .ofMembers e.members

/-- The error that an object with an integer code describes. -/
def ofJson? : Json → Option RpcError
  | .obj members => do
    let code ← (Keyed.find? "code" members).bind Json.int64?
    return {
      code := Int64.ofInt code
      message := ((Keyed.find? "message" members).bind Json.str?).getD ""
      data := Keyed.find? "data" members }
  | _ => none

end RpcError

end Switchboard
