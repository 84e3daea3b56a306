-- SUMMARY: The certificates that a client trusts besides the usual ones.
import Switchboard.Client.Error
import Switchboard.Text.Pem

namespace Switchboard.Pem

/-- The certificates of a bundle, of which there must be one at least. -/
def trusted (s : Octets) : Except ClientError (List Octets) :=
  match certificates s with
  | .error e => .error (.config ("certificate: " ++ e.message))
  | .ok [] => .error (.config "no certificate found in PEM")
  | .ok chain => .ok chain

end Switchboard.Pem
