-- SUMMARY: Errors on the wire as records of their own document.
import Switchboard.Json.Any
import Switchboard.Json.Document
import Switchboard.Json.Writer
import Switchboard.Message.RpcError

/-!
# Error records

An error can also be written on its own, as a record with its fields in order,
and read back from the text of such a record or from its value, and from an array
of its fields too. Here data that is null reads as data that is absent.
-/

namespace Switchboard.RpcError

structure Draft where
  code : Option Int := none
  message : Option String := none
  data : Option (Option Json) := none

/-- The record of the error: code, message and data, in this order. -/
def recordText (e : RpcError) : String := (Json.obj e.members).compact

def recordFields : List (Document.Field Draft) :=
  [ .of "code" (Document.int "i64" Text.inInt64) Draft.code fun c d => { d with code := some c },
    .of "message" Document.text Draft.message fun m d => { d with message := some m },
    .defaulted "data" (Document.option Document.json) Draft.data fun v d => { d with data := some v } ]

def recordReader : Document.Reader RpcError :=
  Document.record "RpcError" recordFields ({} : Draft) fun d => do
    let code ← Document.required "code" d.code
    let message ← Document.required "message" d.message
    return { code := Int64.ofInt code, message, data := d.data.getD none }

/-- The error that a document records. -/
def readRecord? (doc : Octets) : Except JsonError RpcError := Document.read? recordReader doc

def fields : List (Reading.Field Draft) :=
  [ .of "code" Reading.int64 fun c d => { d with code := some c },
    .of "message" Reading.string fun m d => { d with message := some m },
    .defaulted "data" (Reading.option Reading.any) fun v d => { d with data := some v } ]

/-- The error that a value records. -/
def reading : Reading RpcError :=
  Reading.record "RpcError" fields ({} : Draft) fun d => do
    let code ← Reading.required "code" d.code
    let message ← Reading.required "message" d.message
    return { code := Int64.ofInt code, message, data := d.data.getD none }

end Switchboard.RpcError
