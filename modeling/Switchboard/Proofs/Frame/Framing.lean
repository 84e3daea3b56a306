-- SUMMARY: What a framing carries on a whole stream, and a decoder that hands it out.
import Switchboard.Frame.Framing
import Switchboard.Proofs.Frame.Grpc
import Switchboard.Proofs.Frame.Lines

/-!
# Decoders of either framing

What the line decoder and the gRPC decoder have in common: a decoder that awaits
messages hands them out in order, whatever the stream was cut into, and at the end
of the stream it says that there is nothing more.
-/

namespace Switchboard

/-- What a whole stream carries. -/
def Framing.outcomes (limit : Nat) (stream : Octets) : Framing → List (Except FrameError Message)
  | .lines => Lines.outcomes limit stream
  | .grpc => Grpc.outcomes limit stream

namespace FrameDecoder

/-- What has arrived, followed by what is to come, carries the messages and nothing else. -/
def Awaits (tail : Octets) (ms : List Message) : FrameDecoder → Prop
  | .lines d => ∃ limit, (Lines.Decoder.account Lines.outcomes limit).Awaits tail ms d
  | .grpc d => ∃ limit, (Grpc.Decoder.account Grpc.outcomes limit).Awaits tail ms d

theorem awaits_decoder {f : Framing} {limit : Nat} {s tail : Octets} {ms : List Message}
    (h : f.outcomes limit (s ++ tail) = ms.map .ok) : ((f.decoder limit).feed s).Awaits tail ms := by
  cases f with
  | lines => exact ⟨limit, ⟨rfl, Lines.Decoder.sound_of_unscanned rfl⟩, h⟩
  | grpc => exact ⟨limit, rfl, h⟩

variable {d : FrameDecoder} {tail : Octets} {ms : List Message}

theorem Awaits.feed {s : Octets} (h : d.Awaits (s ++ tail) ms) : (d.feed s).Awaits tail ms := by
  cases d with
  | lines d =>
    obtain ⟨limit, h⟩ := h
    exact ⟨limit, (Lines.Decoder.keeps Lines.segmental_outcomes limit).awaits_feed h⟩
  | grpc d =>
    obtain ⟨limit, h⟩ := h
    exact ⟨limit, (Grpc.Decoder.keeps Grpc.framed_outcomes limit).awaits_feed h⟩

theorem Awaits.decode_cases (h : d.Awaits tail ms) :
    (∃ m ms' d', ms = m :: ms' ∧ d.decode = (d', .ok (some m)) ∧ d'.Awaits tail ms') ∨
    (∃ d', d.decode = (d', .ok none) ∧ d'.Awaits tail ms) := by
  cases d with
  | lines d =>
    obtain ⟨limit, h⟩ := h
    have hkeeps := Lines.Decoder.keeps Lines.segmental_outcomes limit
    rcases hkeeps.decode_cases h with ⟨m, ms', d', hms, hd, hawaits⟩ | ⟨d', hd, hawaits⟩
    · exact .inl ⟨m, ms', .lines d', hms, congrArg (Prod.map lines id) hd, limit, hawaits⟩
    · exact .inr ⟨.lines d', congrArg (Prod.map lines id) hd, limit, hawaits⟩
  | grpc d =>
    obtain ⟨limit, h⟩ := h
    have hkeeps := Grpc.Decoder.keeps Grpc.framed_outcomes limit
    rcases hkeeps.decode_cases h with ⟨m, ms', d', hms, hd, hawaits⟩ | ⟨d', hd, hawaits⟩
    · exact .inl ⟨m, ms', .grpc d', hms, congrArg (Prod.map grpc id) hd, limit, hawaits⟩
    · exact .inr ⟨.grpc d', congrArg (Prod.map grpc id) hd, limit, hawaits⟩

theorem Awaits.decodeEnd_cases (h : d.Awaits [] ms) :
    (∃ m ms' d', ms = m :: ms' ∧ d.decodeEnd = (d', .ok (some m)) ∧ d'.Awaits [] ms') ∨
    (ms = [] ∧ ∃ d', d.decodeEnd = (d', .ok none) ∧ d'.Awaits [] []) := by
  cases d with
  | lines d =>
    obtain ⟨limit, h⟩ := h
    rcases (Lines.Decoder.settles limit).decodeEnd_cases h with
      ⟨m, ms', d', hms, hd, hawaits⟩ | ⟨hms, d', hd, hawaits⟩
    · exact .inl ⟨m, ms', .lines d', hms, congrArg (Prod.map lines id) hd, limit, hawaits⟩
    · exact .inr ⟨hms, .lines d', congrArg (Prod.map lines id) hd, limit, hawaits⟩
  | grpc d =>
    obtain ⟨limit, h⟩ := h
    rcases (Grpc.Decoder.settles limit).decodeEnd_cases h with
      ⟨m, ms', d', hms, hd, hawaits⟩ | ⟨hms, d', hd, hawaits⟩
    · exact .inl ⟨m, ms', .grpc d', hms, congrArg (Prod.map grpc id) hd, limit, hawaits⟩
    · exact .inr ⟨hms, .grpc d', congrArg (Prod.map grpc id) hd, limit, hawaits⟩

end FrameDecoder

end Switchboard
