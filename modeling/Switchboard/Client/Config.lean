-- SUMMARY: The settings of a client, and their form as a document.
import Switchboard.Client.Error
import Switchboard.Client.Retry
import Switchboard.Frame.Framing
import Switchboard.Http.Headers
import Switchboard.Json.Document
import Switchboard.Json.Float

/-!
# Client settings

The settings are written as one record and read back from it, or from arrays of
the fields in order. Times are in milliseconds. `ClientConfig.headerMap` checks
the configured headers.
-/

namespace Switchboard

structure Timeouts where
  /-- For dialing and the handshakes. -/
  connect : Nat := 10000
  /-- For one call. -/
  request : Nat := 30000
deriving DecidableEq, Repr

structure ClientConfig where
  timeouts : Timeouts := {}
  retry : RetryPolicy := {}
  /-- How many messages a connection queues. -/
  queueSize : Nat := 100
  maxFrameSize : Nat := Framing.defaultLimit
  userAgent : Option String := some "rpcgate-client/0.1.0"
  headers : Option (Keyed String) := none

namespace ClientConfig

/-! ## Headers -/

/-- The configured headers; two names that differ only in case are one header with
two values. -/
def headerMap (c : ClientConfig) : Except ClientError Headers :=
  (c.headers.getD []).foldlM (fun h (name, value) =>
    if !Headers.isName name then
      .error (.config ("header name " ++ name ++ ": invalid HTTP header name"))
    else if !Headers.isValue value then
      .error (.config ("header value for " ++ Headers.lowerAscii name
        ++ ": failed to parse header value"))
    else .ok (h.append (Headers.lowerAscii name) value)) []

/-! ## Documents -/

def toJson (c : ClientConfig) : Json :=
  .ofMembers [
    ("timeouts", .ofMembers [
      ("connect", .ofInt c.timeouts.connect), ("request", .ofInt c.timeouts.request)]),
    ("retry", .ofMembers [
      ("max_attempts", .ofInt c.retry.maxAttempts),
      ("initial_delay", .ofInt c.retry.initialDelay),
      ("max_delay", .ofInt c.retry.maxDelay),
      ("backoff_multiplier", .ofFloat c.retry.multiplier),
      ("jitter", .ofFloat c.retry.jitter),
      ("exponential_backoff", .bool c.retry.exponential)]),
    ("queue_size", .ofInt c.queueSize),
    ("max_frame_size", .ofInt c.maxFrameSize),
    ("user_agent", match c.userAgent with | some s => .str s | none => .null),
    ("headers", match c.headers with
      | some h => .ofMembers (h.map fun (k, v) => (k, .str v))
      | none => .null)]

structure TimeoutsDraft where
  connect : Option Int := none
  request : Option Int := none

def timeoutsReader : Document.Reader Timeouts :=
  let time := Document.int "u64" Text.inUInt64
  Document.record "TimeoutConfig"
    [ .of "connect" time TimeoutsDraft.connect fun v d => { d with connect := some v },
      .of "request" time TimeoutsDraft.request fun v d => { d with request := some v } ]
    ({} : TimeoutsDraft)
    fun d => do
      let connect ← Document.required "connect" d.connect
      let request ← Document.required "request" d.request
      return { connect := connect.toNat, request := request.toNat }

structure RetryDraft where
  maxAttempts : Option Int := none
  initialDelay : Option Int := none
  maxDelay : Option Int := none
  multiplier : Option Float := none
  jitter : Option Float := none
  exponential : Option Bool := none

def retryReader : Document.Reader RetryPolicy :=
  let time := Document.int "u64" Text.inUInt64
  Document.record "RetryConfig"
    [ .of "max_attempts" (Document.int "u32" Text.inUInt32) RetryDraft.maxAttempts
        fun v d => { d with maxAttempts := some v },
      .of "initial_delay" time RetryDraft.initialDelay fun v d => { d with initialDelay := some v },
      .of "max_delay" time RetryDraft.maxDelay fun v d => { d with maxDelay := some v },
      .of "backoff_multiplier" Document.float RetryDraft.multiplier
        fun v d => { d with multiplier := some v },
      .of "jitter" Document.float RetryDraft.jitter fun v d => { d with jitter := some v },
      .of "exponential_backoff" Document.bool RetryDraft.exponential
        fun v d => { d with exponential := some v } ]
    ({} : RetryDraft)
    fun d => do
      let maxAttempts ← Document.required "max_attempts" d.maxAttempts
      let initialDelay ← Document.required "initial_delay" d.initialDelay
      let maxDelay ← Document.required "max_delay" d.maxDelay
      let multiplier ← Document.required "backoff_multiplier" d.multiplier
      let jitter ← Document.required "jitter" d.jitter
      let exponential ← Document.required "exponential_backoff" d.exponential
      return { maxAttempts := maxAttempts.toNat, initialDelay := initialDelay.toNat
               maxDelay := maxDelay.toNat, multiplier, jitter, exponential }

structure Draft where
  timeouts : Option Timeouts := none
  retry : Option RetryPolicy := none
  queueSize : Option Int := none
  maxFrameSize : Option Int := none
  userAgent : Option (Option String) := none
  headers : Option (Option (Keyed String)) := none

def reader : Document.Reader ClientConfig :=
  let size := Document.int "usize" Text.inUInt64
  Document.record "ClientConfig"
    [ .of "timeouts" timeoutsReader Draft.timeouts fun v d => { d with timeouts := some v },
      .of "retry" retryReader Draft.retry fun v d => { d with retry := some v },
      .of "queue_size" size Draft.queueSize fun v d => { d with queueSize := some v },
      .of "max_frame_size" size Draft.maxFrameSize fun v d => { d with maxFrameSize := some v },
      .of "user_agent" (Document.option Document.text) Draft.userAgent
        fun v d => { d with userAgent := some v },
      .of "headers" (Document.option (Document.table Document.text)) Draft.headers
        fun v d => { d with headers := some v } ]
    ({} : Draft)
    fun d => do
      let timeouts ← Document.required "timeouts" d.timeouts
      let retry ← Document.required "retry" d.retry
      let queueSize ← Document.required "queue_size" d.queueSize
      let maxFrameSize ← Document.required "max_frame_size" d.maxFrameSize
      return { timeouts, retry, queueSize := queueSize.toNat, maxFrameSize := maxFrameSize.toNat
               userAgent := d.userAgent.getD none, headers := d.headers.getD none }

/-- The settings that a document holds. -/
def read? (doc : Octets) : Except JsonError ClientConfig := Document.read? reader doc

end ClientConfig

end Switchboard
