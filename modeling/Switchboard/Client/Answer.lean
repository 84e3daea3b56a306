-- SUMMARY: Reading the answer to a call.
import Switchboard.Client.Error
import Switchboard.Message.Basic

namespace Switchboard.Message

/-- The typed value of a result. An error answer becomes an error, and so does a
message that answers nothing. -/
def unwrap {α : Type} (m : Message) (r : Reading α) : Except ClientError α :=
  match m.content with
  | .result _ v =>
    match r v with
    | .ok a => .ok a
    | .error e => .error (.json e)
  | .error _ e => .error (.rpc e)
  | _ => .error (.badMessage "expected a result or error")

end Switchboard.Message
