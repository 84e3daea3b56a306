-- SUMMARY: What a client of an HTTP/2 stream asks for and reads.
import Switchboard.Client.Scheme
import Switchboard.Http.Request
import Switchboard.Text.Lossy

/-!
# Streams

A client opens a stream by a POST whose body stays open, and reads the messages of
its peer from the body of the response. `Incoming.read` gives the next message or
says why there is none: the peer has ended the stream in order, which is
`transportClosed`, or something is wrong with a frame, with the transport, or with
the status that a gRPC peer sends last.
-/

namespace Switchboard

/-- How the body of a response ends. -/
inductive StreamEnd where
  | clean
  | trailers (h : Headers)
  | broken (text : String)
deriving DecidableEq, Repr

namespace StreamEnd

/-- What a gRPC status has to say, unless it is 0, missing or unreadable. -/
def statusFault? (h : Headers) : Option String := do
  let status ← h.text? "grpc-status"
  if status = "0" then none
  else some ("grpc-status " ++ status ++ " " ++ (h.text? "grpc-message").getD "")

/-- Why a body did not end in order. -/
def fault? : StreamEnd → Option FrameError
  | .clean => none
  | .trailers h => (statusFault? h).map fun text => .io ⟨.other, text⟩
  | .broken text => some (.io ⟨.other, text⟩)

end StreamEnd

/-- The request by which a stream of this framing is opened. -/
def Framing.opening (u : Url) (h : Headers) : Framing → HttpRequest
  | .lines =>
    { version := .http2, target := u.target
      headers := h.insert "content-type" "application/x-ndjson"
      body := { ending := .pending, knownEmpty := false } }
  | .grpc =>
    { version := .http2, target := Grpc.streamPath
      headers := (h.insert "content-type" "application/grpc").insert "te" "trailers"
      body := { ending := .pending, knownEmpty := false } }

/-- Whether a response opens the stream. A gRPC peer may refuse in its headers. -/
def Framing.opened (r : HttpResponse) (f : Framing) : Except ClientError Unit :=
  if r.status ≠ 200 then .error (.abnormalResponse r.status (Text.lossy r.body))
  else match f, StreamEnd.statusFault? r.headers with
    | .grpc, some text => .error (.transport text)
    | _, _ => .ok ()

/-- The body of a response that is being read. -/
structure Incoming where
  decoder : FrameDecoder
  /-- What is yet to arrive. -/
  chunks : List Octets
  ending : StreamEnd
deriving DecidableEq, Repr

namespace Incoming

/-- The next message, or why there is none. -/
def readFrom (ending : StreamEnd) (d : FrameDecoder) :
    (chunks : List Octets) → Incoming × Except ClientError Message
  | [] =>
    match d.decode with
    | (d, .ok (some m)) => (⟨d, [], ending⟩, .ok m)
    | (d, .error e) => (⟨d, [], ending⟩, .error e.toClient)
    | (d, .ok none) =>
      match ending.fault? with
      | some e => (⟨d, [], ending⟩, .error e.toClient)
      | none =>
        match d.decodeEnd with
        | (d, .ok (some m)) => (⟨d, [], ending⟩, .ok m)
        | (d, .error e) => (⟨d, [], ending⟩, .error e.toClient)
        | (d, .ok none) => (⟨d, [], ending⟩, .error .transportClosed)
  | chunk :: chunks =>
    match d.decode with
    | (d, .ok (some m)) => (⟨d, chunk :: chunks, ending⟩, .ok m)
    | (d, .error e) => (⟨d, chunk :: chunks, ending⟩, .error e.toClient)
    | (d, .ok none) => readFrom ending (d.feed chunk) chunks

def read (i : Incoming) : Incoming × Except ClientError Message := readFrom i.ending i.decoder i.chunks

/-- All messages up to the first error, and the error; at most `fuel` messages. -/
def readAll : (fuel : Nat) → Incoming → List Message × Option ClientError
  | 0, _ => ([], none)
  | fuel + 1, i =>
    match i.read with
    | (i, .ok m) => let (ms, e) := readAll fuel i; (m :: ms, e)
    | (_, .error e) => ([], some e)

/-- What a client with this frame limit reads from a body. Every message takes an
octet at least. -/
def messages (f : Framing) (limit : Nat) (chunks : List Octets) (ending : StreamEnd) :
    List Message × Option ClientError :=
  readAll (chunks.flatten.length + 1) ⟨f.decoder limit, chunks, ending⟩

end Incoming

end Switchboard
