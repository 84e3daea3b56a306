-- SUMMARY: What can go wrong for a client.
import Switchboard.Frame.Error
import Switchboard.Json.Convert
import Switchboard.Url.Fault

/-!
# Client errors

Connecting can fail, an established transport can end or fail, a call can be
given up, refused or answered with an error. A caller may try again after the
errors of `isRetryable`.
-/

namespace Switchboard

inductive ClientError where
  /-- No session came about. -/
  | connectFailed (text : String)
  /-- The peer ended the session. -/
  | transportClosed
  | transport (text : String)
  | notConnected
  | cancelled
  | timedOut
  | abnormalResponse (status : Nat) (body : String)
  /-- The peer answered with an error. -/
  | rpc (e : RpcError)
  | unsupportedScheme (scheme : String)
  | badUrl (fault : UrlFault)
  | badMessage (text : String)
  | config (text : String)
  | decode (e : DecodeError)
  | encode (e : JsonError)
  | http (text : String)
  | json (e : ConversionError)
deriving DecidableEq, Repr

namespace ClientError

def message : ClientError → String
  | .connectFailed text => "Connect failed: " ++ text
  | .transportClosed => "Transport closed"
  | .transport text => "Transport error: " ++ text
  | .notConnected => "Not connected"
  | .cancelled => "Request cancelled"
  | .timedOut => "Request timed out"
  | .abnormalResponse status body =>
    "Abnormal response " ++ Text.numeral status ++ ": " ++ body
  | .rpc e => "RPC error " ++ Text.numeral e.code.toInt ++ ": " ++ e.message
  | .unsupportedScheme scheme => "Unsupported URL scheme: " ++ scheme
  | .badUrl fault => "Invalid URL: " ++ fault.message
  | .badMessage text => "Invalid message: " ++ text
  | .config text => "Configuration error: " ++ text
  | .decode e => e.message
  | .encode e => "JSON encode error: " ++ e.message
  | .http text => "HTTP error: " ++ text
  | .json e => "JSON error: " ++ e.message

/-- What is called is no request. -/
def notRequest : ClientError := .badMessage "call requires a request message"

/-- The codes that a peer reserves for itself. -/
def isServerCode (code : Int) : Bool := -32099 ≤ code && code ≤ -32000

/-- Trying again may help. -/
def isRetryable : ClientError → Bool
  | .connectFailed _ | .transportClosed | .timedOut => true
  | .rpc e => isServerCode e.code.toInt
  | _ => false

def isConnectFailed : ClientError → Bool
  | .connectFailed _ => true
  | _ => false

/-- The code of the error that the peer answered with. -/
def code? : ClientError → Option Int
  | .rpc e => some e.code.toInt
  | _ => none

end ClientError

/-- The stream ended because the peer went away. -/
def IoKind.isClosed : IoKind → Bool
  | .unexpectedEnd | .connectionReset | .connectionAborted | .brokenPipe => true
  | _ => false

/-- What a frame error means to a client. -/
def FrameError.toClient : FrameError → ClientError
  | .io e => if e.kind.isClosed then .transportClosed else .transport (FrameError.io e).message
  | .decode e => .decode e
  | .encode e => .encode e
  | e => .transport e.message

end Switchboard
