-- SUMMARY: What is read of the frame of a message, by a session or by its peer.
import Switchboard.Proofs.Frame.Carriage
import Switchboard.Proofs.Session.Sole

/-!
# Reading frames

A message that is `Within` a limit fits into a frame of each kind and is read from it as
itself (`Kind.found_of_sends`), by a session and by its peer alike. Before the response
to it the peer reads the greeting, if there is one, which no limit keeps out that lets a
message in (`length_greetingLine_le`).
-/

namespace Switchboard

/-- All transports carry the message, when frames are held to this limit. -/
structure Message.Within (limit : Nat) (m : Message) : Prop where
  fits : m.toJson.Fits Json.Reader.maxNesting
  payload : (Envelope.encode m.encode).length ≤ limit
  sendable : (Envelope.encode m.encode).length ≤ Framing.defaultLimit

/-! ## Frames of either framing -/

namespace Framing

variable {limit : Nat} {m : Message}

theorem carries_nil (limit : Nat) (x : Extent) (framing : Framing) : framing.carries limit x [] = [] := by
  cases framing with
  | lines => exact x.segmental.nil limit
  | grpc =>
    cases x with
    | whole => exact (by rw [Grpc.outcomes] : Grpc.outcomes limit [] = [])
    | soFar => exact (by rw [Grpc.outcomesSoFar]; simp : Grpc.outcomesSoFar limit [] = [])

/-- What a limit counts of the frame of a message: the line without its end, or the payload. -/
def payload (m : Message) : Framing → Octets
  | .lines => m.encode
  | .grpc => Envelope.encode m.encode

/-- The message is within the limit. -/
def Bounds (limit : Nat) (m : Message) (framing : Framing) : Prop := (framing.payload m).length ≤ limit

instance (limit : Nat) (m : Message) (framing : Framing) : Decidable (framing.Bounds limit m) :=
  inferInstanceAs (Decidable (_ ≤ _))

/-- How a decoder refuses the message: it has not seen the whole of a line that is too long. -/
def excess (m : Message) : Framing → FrameError
  | .lines => .tooLarge 0
  | .grpc => .tooLarge (Envelope.encode m.encode).length

/-- Lines are held to no limit when they are written. -/
theorem exists_encode_iff {framing : Framing} : (∃ frame, framing.encode limit m = .ok frame) ↔
    (framing = .grpc → framing.Bounds limit m) := by
  cases framing with
  | lines => exact ⟨fun _ h => Framing.noConfusion h, fun _ => ⟨_, rfl⟩⟩
  | grpc =>
    constructor
    · rintro ⟨frame, hframe⟩ _
      exact (Grpc.encode_eq_ok_iff.mp hframe).1
    · intro h
      exact ⟨_, Grpc.encode_eq_ok_iff.mpr ⟨h rfl, rfl⟩⟩

section Carries

variable (hm : m.toJson.Fits Json.Reader.maxNesting) {framing : Framing} {frame : Octets}
  (hframe : framing.encode defaultLimit m = .ok frame) (x : Extent)

include hm hframe

/-- A frame within the limit is read as its message, and what follows it as before. -/
theorem carries_of_bounds (hlimit : framing.Bounds limit m) (tail : Octets) :
    framing.carries limit x (frame ++ tail) = .ok m.reread :: framing.carries limit x tail := by
  cases framing with
  | lines =>
    cases hframe
    have hlimit : m.encode.length ≤ limit := hlimit
    have hread : x.lines limit (([m].map Lines.encode).flatten ++ tail) =
        ([m].map fun m => .ok m.reread) ++ x.lines limit tail :=
      x.segmental.flatten_encode (by simpa using hm) (by simpa using hlimit) tail
    rw [List.map_singleton, List.flatten_singleton] at hread
    exact hread
  | grpc =>
    obtain ⟨hsendable, rfl⟩ := Grpc.encode_eq_ok_iff.mp hframe
    have hlimit : (Envelope.encode m.encode).length ≤ limit := hlimit
    have hshort : (Envelope.encode m.encode).length < 2 ^ 32 := Nat.lt_of_le_of_lt hsendable (by decide)
    exact (x.framed.header_append hlimit hshort tail).trans (by rw [Grpc.read_encode hm hshort]; rfl)

/-- A frame beyond the limit is refused as such. -/
theorem exists_carries_of_not_bounds (hlimit : ¬framing.Bounds limit m) :
    ∃ rest, framing.carries limit x frame = .error (framing.excess m) :: rest := by
  cases framing with
  | lines =>
    cases hframe
    have hlong : limit < m.encode.length := Nat.lt_of_not_le hlimit
    refine ⟨x.lines limit [], ?_⟩
    have hsegment := x.segmental.segment limit (Lines.newline_not_mem_encode hm.canonical) []
    rwa [Lines.outcome?_of_too_long hlong] at hsegment
  | grpc =>
    obtain ⟨hsendable, rfl⟩ := Grpc.encode_eq_ok_iff.mp hframe
    have hlong : limit < (Envelope.encode m.encode).length := Nat.lt_of_not_le hlimit
    have hlength := Grpc.lengthOf_header (Nat.lt_of_le_of_lt hsendable (by decide))
    refine ⟨[], ?_⟩
    have hrefused := x.framed.tooLarge (hlength.symm ▸ hlong) (Envelope.encode m.encode)
    rwa [hlength] at hrefused

end Carries

/-- A frame is read as its message, and what follows it as before. -/
theorem carries_frame (hm : m.Within limit) {framing : Framing} {frame : Octets}
    (hframe : framing.encode defaultLimit m = .ok frame) (x : Extent) (tail : Octets) :
    framing.carries limit x (frame ++ tail) = .ok m.reread :: framing.carries limit x tail := by
  refine carries_of_bounds hm.fits hframe x ?_ tail
  cases framing with
  | lines => exact Nat.le_trans (Grpc.length_encode_le m) hm.payload
  | grpc => exact hm.payload

end Framing

/-! ## The greeting -/

namespace Session

/-- The greeting as its reader has it. -/
def hello : Message where
  content := .notify "hello" (.list [])
  raw := some [("method", .str "hello"), ("params", .arr [])]

theorem read_greetingLine : greetingLine.getLast? = some Lines.newline ∧ Lines.newline ∉ greetingLine.dropLast ∧
    Lines.read greetingLine.dropLast = .ok (some hello) := by
  decide +kernel

/-- A limit that lets a line of the greeting's length in lets the greeting in. -/
theorem carries_greetingLine {limit : Nat} (hlimit : greetingLine.length ≤ limit) (x : Extent) (tail : Octets) :
    Framing.lines.carries limit x (greetingLine ++ tail) = .ok hello :: Framing.lines.carries limit x tail := by
  obtain ⟨hlast, hplain, hread⟩ := read_greetingLine
  have hline : greetingLine ++ tail = greetingLine.dropLast ++ Lines.newline :: tail := by
    rw [← List.dropLast_append_getLast? _ hlast, List.dropLast_concat, List.append_assoc]
    rfl
  have hfits : ¬ limit < greetingLine.dropLast.length := by
    rw [List.length_dropLast]
    omega
  rw [hline]
  refine (x.segmental.segment limit hplain tail).trans ?_
  rw [Lines.outcome?, if_neg hfits, hread]
  rfl

theorem length_octets_append (a b : String) :
    (Text.octets (a ++ b)).length = (Text.octets a).length + (Text.octets b).length := by
  rw [Text.octets_append, List.length_append]

/-- No message is shorter than the greeting. -/
theorem length_greetingLine_le (m : Message) : greetingLine.length ≤ m.encode.length := by
  have hgreeting : greetingLine.length = 31 := by decide +kernel
  have hpunctuation : (Text.octets "\x7b").length = 1 ∧ (Text.octets ",").length = 1 ∧ (Text.octets ":").length = 1 := by
    decide +kernel
  have hkeys : (Text.octets (Json.quote "id")).length = 4 ∧ (Text.octets (Json.quote "jsonrpc")).length = 9 ∧
      (Text.octets (Json.quote "method")).length = 8 ∧ (Text.octets (Json.quote "params")).length = 8 ∧
      (Text.octets (Json.quote "result")).length = 8 ∧ (Text.octets (Json.quote "error")).length = 7 ∧
      (Text.octets (Json.quote "2.0")).length = 5 := by
    decide +kernel
  unfold Message.encode Message.text Message.toJson Message.version
  cases m.content with
  | request | notify | result | error =>
    simp only [List.cons_append, List.nil_append, Json.compact, Json.compactMembers, length_octets_append]
    omega

/-! ## What is found -/

/-- What was delivered is the frame of this message, in any chunks, and nothing is wrong with its
end; a peer that closes a WebSocket no longer reads, so there the input is open. -/
def Kind.Sends (m : Message) (i : List Octets × BodyEnd) : Kind → Prop
  | .webSocket => i = ([m.encode], .pending)
  | k => k.encode m = .ok i.1.flatten ∧ (i.2 = .pending ∨ i.2 = .complete)

section Found

variable {limit : Nat} {m : Message} {k : Kind} {framing : Framing} {ending : BodyEnd}

theorem fault_eq_nil (h : ending ≠ .broken) : fault ending = [] := by
  cases ending with
  | broken => exact absurd rfl h
  | complete | pending => rfl

theorem Kind.found_of_framing (hk : k.framing? = some framing) (h : ending ≠ .broken) (chunks : List Octets) :
    k.found limit (chunks, ending) = (framing.carries limit (extent ending) chunks.flatten).map Except.toOption := by
  unfold Kind.found
  rw [hk, fault_eq_nil h]
  exact List.append_nil _

theorem Kind.encode_of_framing (hk : k.framing? = some framing) (m : Message) :
    k.encode m = framing.encode Framing.defaultLimit m := by
  cases k <;> cases hk <;> rfl

/-- A frame and nothing else is read as its message. -/
theorem Kind.found_frame (hm : m.Within limit) (hk : k.framing? = some framing) (h : ending ≠ .broken)
    {chunks : List Octets} (hframe : k.encode m = .ok chunks.flatten) :
    k.found limit (chunks, ending) = [some m.reread] := by
  rw [k.encode_of_framing hk] at hframe
  rw [Kind.found_of_framing hk h, ← List.append_nil chunks.flatten, Framing.carries_frame hm hframe,
    Framing.carries_nil]
  rfl

theorem Kind.found_packet (hm : m.Within limit) (h : ending ≠ .broken) :
    Kind.webSocket.found limit ([m.encode], ending) = [some m.reread] := by
  have hparse : Message.parse m.encode = .ok m.reread := Message.parse_encode hm.fits
  show [(Message.parse m.encode).toOption] ++ fault ending = _
  rw [hparse, fault_eq_nil h]
  rfl

theorem Kind.found_of_sends (hm : m.Within limit) {i : List Octets × BodyEnd} (hi : k.Sends m i) :
    k.found limit i = [some m.reread] := by
  obtain ⟨chunks, ending⟩ := i
  have hopen : ending = .pending ∨ ending = .complete → ending ≠ .broken := by
    rintro (rfl | rfl) <;> exact BodyEnd.noConfusion
  cases k with
  | webSocket =>
    cases hi
    exact Kind.found_packet hm BodyEnd.noConfusion
  | lines greeting => exact Kind.found_frame hm rfl (hopen hi.2) hi.1
  | grpc => exact Kind.found_frame hm rfl (hopen hi.2) hi.1

end Found

/-! ## What the peer reads -/

/-- The octets of the frames that were written. -/
def frames (es : List Event) : List Octets :=
  es.filterMap fun
    | .frame s => some s
    | _ => none

theorem written_eq_frames (es : List Event) : written es = (frames es).map .frame := by
  induction es with
  | nil => rfl
  | cons e es ih =>
    cases e with
    | frame s => exact congrArg (Event.frame s :: ·) ih
    | _ => exact ih

theorem frames_eq {es : List Event} (fs : List Octets) (h : written es = fs.map .frame) : frames es = fs := by
  rw [written_eq_frames] at h
  exact List.map_injective_iff.mpr (fun _ _ => Event.frame.inj) h

/-- What the peer reads before any response. -/
def greetings : Kind → List (Option Message)
  | .lines true => [some hello]
  | _ => []

section Peer

variable {u : Setup} {limit : Nat} {m reply : Message} {es : List Event} {ending : BodyEnd}

theorem Kind.exists_frame (hm : m.Within limit) (k : Kind) : ∃ frame, k.encode m = .ok frame := by
  cases k with
  | lines | webSocket => exact ⟨_, rfl⟩
  | grpc => exact ⟨_, Grpc.encode_eq_ok_iff.mpr ⟨hm.sendable, rfl⟩⟩

theorem written_of_silent (hresponses : responses u m = []) : transcript u [m] = opening u.kind := by
  rw [transcript_singleton, hresponses]
  exact List.append_nil _

/-- What the peer reads of a transcript with one response. -/
theorem found_of_transcript (hresponses : responses u m = [reply]) (hreply : reply.Within limit)
    (hes : written es = transcript u [m]) (h : ending ≠ .broken) :
    u.kind.found limit (frames es, ending) = greetings u.kind ++ [some reply.reread] := by
  obtain ⟨frame, hframe⟩ := Kind.exists_frame hreply u.kind
  have hes : written es = opening u.kind ++ [.frame frame] := by
    rw [hes, transcript_singleton, hresponses, framesOf, List.flatMap_singleton, hframe]
  cases hk : u.kind with
  | webSocket =>
    rw [hk] at hframe hes
    cases hframe
    rw [frames_eq [reply.encode] hes]
    exact Kind.found_packet hreply h
  | grpc =>
    rw [hk] at hframe hes
    rw [frames_eq [frame] hes]
    exact Kind.found_frame hreply rfl h (by simpa using hframe)
  | lines greeting =>
    rw [hk] at hframe hes
    cases greeting with
    | false =>
      rw [frames_eq [frame] hes]
      exact Kind.found_frame hreply rfl h (by simpa using hframe)
    | true =>
      have hlimit : greetingLine.length ≤ limit :=
        Nat.le_trans (length_greetingLine_le reply) (Nat.le_trans (Grpc.length_encode_le reply) hreply.payload)
      have hline : Framing.lines.encode Framing.defaultLimit reply = .ok frame := hframe
      rw [frames_eq [greetingLine, frame] hes, Kind.found_of_framing rfl h]
      rw [List.flatten_cons, List.flatten_singleton, carries_greetingLine hlimit, ← List.append_nil frame,
        Framing.carries_frame hreply hline, Framing.carries_nil]
      rfl

end Peer

end Session

end Switchboard
