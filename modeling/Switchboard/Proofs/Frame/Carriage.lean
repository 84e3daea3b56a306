-- SUMMARY: Messages that are framed, cut into chunks and decoded come back in order.
import Switchboard.Proofs.Frame.Grpc
import Switchboard.Proofs.Frame.Lines
import Switchboard.Proofs.Json.OneLine
import Switchboard.Proofs.Message.RoundTrip

/-!
# Framed messages

The compact text of a message is one line between two braces, so neither the trimming
of a line nor the end of a line takes anything from it; a gRPC frame says how long it
is. What a stream of frames carries is thus its messages and then what its tail
carries, whatever the tail. So the decoder has given them and owes for a tail just
what the tail carries, and then there is nothing in its buffer: for some tail that
would show.
-/

namespace Switchboard

namespace Message

/-- The message as it is read from its own text. -/
def reread (m : Message) : Message := { m with raw := some m.members }

theorem text_eq (m : Message) : ∃ inner, m.text = "\x7b" ++ inner ++ "\x7d" :=
  Json.exists_compact_obj _

theorem encode_eq (m : Message) : ∃ inner, m.encode = 0x7b :: (inner ++ [0x7d]) := by
  obtain ⟨inner, htext⟩ := m.text_eq
  have hopen : Text.octets "\x7b" = [0x7b] := by decide
  have hclose : Text.octets "\x7d" = [0x7d] := by decide
  refine ⟨Text.octets inner, ?_⟩
  rw [encode, htext, Text.octets_append, Text.octets_append, hopen, hclose]
  rfl

end Message

open Message

variable {limit : Nat} {m : Message} {ms : List Message}

/-! ## Lines -/

namespace Lines

theorem newline_not_mem_encode (h : m.toJson.Canonical) : newline ∉ m.encode := fun hmem =>
  absurd ((Json.unbroken_compact m.toJson h).le_of_mem_octets hmem) (by decide)

theorem read_encode (h : m.toJson.Fits Json.Reader.maxNesting) : read m.encode = .ok (some m.reread) := by
  obtain ⟨inner, htext⟩ := m.text_eq
  obtain ⟨octets, hoctets⟩ := m.encode_eq
  have hreturn : withoutReturn m.encode = m.encode := by
    rw [withoutReturn, if_neg]
    rw [hoctets, ← List.cons_append, List.getLast?_concat]
    decide
  have htrim : Text.trim m.text = m.text := Text.trim_of_bare (Json.bare_compact h.canonical)
  have hnonempty : m.text.isEmpty = false := by
    rw [htext]
    simp
  have hparse : parse (Text.octets m.text) = .ok m.reread := parse_encode h
  rw [read, hreturn, Message.encode, Text.ofOctets?_octets]
  simp only [htrim, hnonempty, Bool.false_eq_true, if_false, hparse]

theorem outcome?_encode (h : m.toJson.Fits Json.Reader.maxNesting) (hlimit : m.encode.length ≤ limit) :
    outcome? limit m.encode = some (.ok m.reread) := by
  rw [outcome?, if_neg (Nat.not_lt.mpr hlimit), read_encode h]

/-- A reference finds the messages in their lines and goes on with what follows. -/
theorem Segmental.flatten_encode {f : Nat → Octets → List (Except FrameError Message)}
    (hf : Segmental f) (h : ∀ m ∈ ms, m.toJson.Fits Json.Reader.maxNesting)
    (hlimit : ∀ m ∈ ms, m.encode.length ≤ limit) (tail : Octets) :
    f limit ((ms.map encode).flatten ++ tail) =
      (ms.map fun m => .ok m.reread) ++ f limit tail := by
  induction ms with
  | nil => rfl
  | cons m ms ih =>
    rw [List.forall_mem_cons] at h hlimit
    have hline : ((m :: ms).map encode).flatten ++ tail =
        m.encode ++ newline :: ((ms.map encode).flatten ++ tail) := by
      simp [encode]
    rw [hline, hf.segment limit (newline_not_mem_encode h.1.canonical), ih h.2 hlimit.2,
      outcome?_encode h.1 hlimit.1]
    rfl

/-- What a decoder waits on would show in front of a tail that is just too long with it. -/
theorem Decoder.Rests.buffer_eq_nil {d : Decoder} (h : d.Rests)
    (htail : ∀ tail, outcomesSoFar d.limit tail = outcomesSoFar d.limit (d.ahead tail)) :
    d.buffer = [] := by
  cases h with
  | discarding _ hempty => exact hempty
  | waiting hdiscarding hmem hfits =>
    rw [← List.length_eq_zero_iff]
    refine Nat.eq_zero_of_not_pos fun hpos => ?_
    let tail := List.replicate (d.limit + 1 - d.buffer.length) carriageReturn
    have hplain : newline ∉ tail := by
      intro hn
      exact absurd (List.eq_of_mem_replicate hn) (by decide)
    have hshort : ¬d.limit < tail.length := by
      simp only [tail, List.length_replicate]
      omega
    have hlong : d.limit < (d.buffer ++ tail).length := by
      simp only [tail, List.length_append, List.length_replicate]
      omega
    have hboth : newline ∉ d.buffer ++ tail := by
      rw [List.mem_append, not_or]
      exact ⟨hmem, hplain⟩
    have hshown := htail tail
    rw [ahead_of_not_discarding hdiscarding, outcomesSoFar_of_not_mem _ hplain, if_neg hshort,
      outcomesSoFar_of_not_mem _ hboth, if_pos hlong] at hshown
    cases hshown

/-- Lines that carry messages are decoded to these messages and nothing else. -/
theorem exists_feeds_encode (h : ∀ m ∈ ms, m.toJson.Fits Json.Reader.maxNesting)
    (hlimit : ∀ m ∈ ms, m.encode.length ≤ limit) {chunks : List Octets}
    (hchunks : chunks.flatten = (ms.map encode).flatten) :
    ∃ d, Decoder.decoding.Feeds { limit } chunks (ms.map fun m => .ok m.reread) false d ∧
      d.buffer = [] := by
  obtain ⟨rs, d, feeds, rfl, rests, howed⟩ :=
    Decoder.exists_feeds segmental_outcomesSoFar limit chunks
  simp only [hchunks, segmental_outcomesSoFar.flatten_encode h hlimit] at howed
  have hrs := howed []
  rw [rests.outcomesSoFar_ahead, segmental_outcomesSoFar.nil, List.append_nil, List.append_nil] at hrs
  rw [hrs]
  refine ⟨d, feeds, rests.buffer_eq_nil fun tail => ?_⟩
  have htail := howed tail
  rwa [hrs, List.append_cancel_left_eq] at htail

end Lines

/-! ## gRPC frames -/

namespace Grpc

theorem lengthOf_header {n : Nat} (h : n < 2 ^ 32) :
    lengthOf (UInt8.ofNat (n / 0x1000000)) (UInt8.ofNat (n / 0x10000)) (UInt8.ofNat (n / 0x100))
      (UInt8.ofNat n) = n := by
  simp only [lengthOf, UInt8.toNat_ofNat']
  omega

/-- A payload is one field: its key, the length of the text in base 128, and the text. -/
theorem envelope_encode (m : Message) :
    Envelope.encode m.encode = 0x0a :: (Varint.encode m.encode.length ++ m.encode) := by
  obtain ⟨inner, hinner⟩ := m.encode_eq
  rw [Envelope.encode, if_neg (by simp [hinner])]
  rfl

theorem encode_eq_ok_iff {frame : Octets} : encode limit m = .ok frame ↔
    (Envelope.encode m.encode).length ≤ limit ∧
      frame = header (Envelope.encode m.encode).length ++ Envelope.encode m.encode := by
  simp only [encode]
  by_cases hlimit : limit < (Envelope.encode m.encode).length
  · simp [hlimit, Nat.not_le.mpr hlimit]
  · simp [hlimit, Nat.le_of_not_lt hlimit, eq_comm]

theorem length_encode_le (m : Message) : m.encode.length ≤ (Envelope.encode m.encode).length := by
  rw [envelope_encode]
  simp only [List.length_cons, List.length_append]
  omega

theorem read_encode (h : m.toJson.Fits Json.Reader.maxNesting)
    (hlength : (Envelope.encode m.encode).length < 2 ^ 32) :
    read (Envelope.encode m.encode) = .ok m.reread := by
  have hle := length_encode_le m
  have hparse : parse m.encode = .ok m.reread := parse_encode h
  rw [read, Envelope.decode_encode _ (by omega)]
  simp only [hparse]

/-- A reference reads a payload behind its header and goes on with what follows. -/
theorem Framed.header_append {f : Nat → Octets → List (Except FrameError Message)} (hf : Framed f)
    {payload : Octets} (hfits : payload.length ≤ limit) (hshort : payload.length < 2 ^ 32)
    (rest : Octets) :
    f limit (header payload.length ++ payload ++ rest) = read payload :: f limit rest := by
  have hlength := lengthOf_header hshort
  simp only [header, List.cons_append, List.nil_append]
  refine (hf.frame ?_ ?_).trans ?_
  · rwa [hlength]
  · rw [hlength, List.length_append]
    exact Nat.le_add_right _ _
  · rw [hlength, List.take_left, List.drop_left]

/-- A reference finds the messages in their frames and goes on with what follows. -/
theorem Framed.flatten_encode {f : Nat → Octets → List (Except FrameError Message)}
    (hf : Framed f) (hlimit : limit < 2 ^ 32) (h : ∀ m ∈ ms, m.toJson.Fits Json.Reader.maxNesting)
    {frames : List Octets} (hframes : ms.map (encode limit) = frames.map .ok) (tail : Octets) :
    f limit (frames.flatten ++ tail) = (ms.map fun m => .ok m.reread) ++ f limit tail := by
  induction ms generalizing frames with
  | nil =>
    cases frames with
    | nil => rfl
    | cons frame frames => cases hframes
  | cons m ms ih =>
    cases frames with
    | nil => cases hframes
    | cons frame frames =>
      rw [List.forall_mem_cons] at h
      obtain ⟨hframe, hrest⟩ := List.cons.inj hframes
      obtain ⟨hfits, rfl⟩ := encode_eq_ok_iff.mp hframe
      have hshort := Nat.lt_of_le_of_lt hfits hlimit
      rw [List.flatten_cons, List.append_assoc, hf.header_append hfits hshort, ih h.2 hrest,
        read_encode h.1 hshort]
      rfl

/-- Frames that carry messages are decoded to these messages and nothing else. -/
theorem exists_feeds_encode (hlimit : limit < 2 ^ 32)
    (h : ∀ m ∈ ms, m.toJson.Fits Json.Reader.maxNesting) {frames : List Octets}
    (hframes : ms.map (encode limit) = frames.map .ok) {chunks : List Octets}
    (hchunks : chunks.flatten = frames.flatten) :
    ∃ d, Decoder.decoding.Feeds { limit } chunks (ms.map fun m => .ok m.reread) false d ∧
      d.buffer = [] := by
  obtain ⟨rs, halted, d, feeds, leaves⟩ := Decoder.exists_feeds framed_outcomes limit chunks
  simp only [hchunks, framed_outcomes.flatten_encode hlimit h hframes] at leaves
  have hnone : outcomes limit [] = [] := by rw [outcomes]
  cases halted with
  | true =>
    -- a halted decoder would have given the same in front of a refused header
    have hnil : _ = rs := leaves []
    have hflagged : _ = rs := leaves [1, 0, 0, 0, 0]
    rw [← hnil, hnone, List.append_cancel_left_eq,
      framed_outcomes.compressed limit (by decide) 0 0 0 0 []] at hflagged
    cases hflagged
  | false =>
    obtain ⟨rfl, rests, howed⟩ := leaves []
    simp only [hnone, Decoder.account, List.append_nil] at howed
    by_cases hbuffer : d.buffer = []
    · rw [hbuffer, hnone, List.append_nil] at howed
      exact ⟨d, howed ▸ feeds, hbuffer⟩
    · rw [rests.outcomes_eq hbuffer] at howed
      have hfault : .error .leftover ∈ ms.map fun m => (.ok m.reread : Except FrameError Message) := by
        rw [howed, List.mem_append]
        exact .inr List.mem_cons_self
      obtain ⟨m, -, hm⟩ := List.mem_map.mp hfault
      cases hm

theorem frames_eq {frames : List Octets} (h : ms.map (encode limit) = frames.map .ok) :
    frames = ms.map fun m =>
      let payload := 0x0a :: (Varint.encode m.encode.length ++ m.encode)
      header payload.length ++ payload := by
  induction ms generalizing frames with
  | nil =>
    cases frames with
    | nil => rfl
    | cons frame frames => cases h
  | cons m ms ih =>
    cases frames with
    | nil => cases h
    | cons frame frames =>
      obtain ⟨hframe, hrest⟩ := List.cons.inj h
      obtain ⟨-, rfl⟩ := encode_eq_ok_iff.mp hframe
      rw [List.map_cons, ← ih hrest, envelope_encode]

end Grpc

/-! ## Either framing -/

/-- Messages that can be read back from their texts come back in order, whichever way they are
framed and however the stream is cut, and nothing is left over. A line ends with its only newline;
a gRPC frame has one field, which its length precedes. -/
theorem framings_carry_messages (ms : List Message)
    (h : ∀ m ∈ ms, m.toJson.Fits Json.Reader.maxNesting) :
    (∀ limit, (∀ m ∈ ms, m.encode.length ≤ limit) →
      (∀ m ∈ ms, Lines.encode m = m.encode ++ [Lines.newline] ∧ Lines.newline ∉ m.encode) ∧
      ∀ chunks : List Octets, chunks.flatten = (ms.map Lines.encode).flatten →
        (∃ d, Lines.Decoder.decoding.Feeds { limit } chunks (ms.map fun m => .ok m.reread) false d ∧
          d.buffer = []) ∧
        Lines.Decoder.decoding.Reads { limit } chunks (ms.map fun m => .ok m.reread)) ∧
    (∀ limit frames, limit < 2 ^ 32 → ms.map (Grpc.encode limit) = frames.map .ok →
      frames = (ms.map fun m =>
        let payload := 0x0a :: (Varint.encode m.encode.length ++ m.encode)
        Grpc.header payload.length ++ payload) ∧
      ∀ chunks : List Octets, chunks.flatten = frames.flatten →
        (∃ d, Grpc.Decoder.decoding.Feeds { limit } chunks (ms.map fun m => .ok m.reread) false d ∧
          d.buffer = []) ∧
        Grpc.Decoder.decoding.Reads { limit } chunks (ms.map fun m => .ok m.reread)) := by
  refine ⟨fun limit hlimit => ⟨fun m hm => ⟨rfl, ?_⟩, fun chunks hchunks => ⟨?_, ?_⟩⟩,
    fun limit frames hlimit hframes => ⟨?_, fun chunks hchunks => ⟨?_, ?_⟩⟩⟩
  · exact Lines.newline_not_mem_encode (h m hm).canonical
  · exact Lines.exists_feeds_encode h hlimit hchunks
  · have hread := Lines.segmental_outcomes.flatten_encode h hlimit []
    rw [List.append_nil, Lines.segmental_outcomes.nil, List.append_nil] at hread
    rw [Lines.Decoder.reads_iff, hchunks, hread]
  · exact Grpc.frames_eq hframes
  · exact Grpc.exists_feeds_encode hlimit h hframes hchunks
  · have hread := Grpc.framed_outcomes.flatten_encode hlimit h hframes []
    have hnone : Grpc.outcomes limit [] = [] := by rw [Grpc.outcomes]
    rw [List.append_nil, hnone, List.append_nil] at hread
    rw [Grpc.Decoder.reads_iff, hchunks, hread]

/-- A name with a newline, and one beyond ASCII with a trace identifier. -/
def salutations : List Message :=
  [.notify "a\nb" .empty, { content := .notify "é" .empty, traceId := "t" }]

def salutationLines : Octets := (salutations.map Lines.encode).flatten

def salutationFrames : List Octets := salutations.map fun m =>
  Grpc.header (Envelope.encode m.encode).length ++ Envelope.encode m.encode

theorem framings_carry_messages_salutations :
    (∀ m ∈ salutations, m.toJson.Fits Json.Reader.maxNesting) ∧
    (∃ d, Lines.Decoder.decoding.Feeds { limit := 64 }
      [salutationLines.take 7, salutationLines.drop 7] (salutations.map fun m => .ok m.reread) false d ∧
      d.buffer = []) ∧
    ∃ d, Grpc.Decoder.decoding.Feeds { limit := 64 }
      [salutationFrames.flatten.take 3, salutationFrames.flatten.drop 3]
      (salutations.map fun m => .ok m.reread) false d ∧ d.buffer = [] := by
  have hfits : ∀ m ∈ salutations, m.toJson.Fits Json.Reader.maxNesting := by
    have hparams : Params.empty.toJson.Fits 126 := .arr_nil
    simp only [salutations, List.forall_mem_cons]
    exact ⟨Message.fits_toJson hparams, Message.fits_toJson hparams, by simp⟩
  have hlines : ∀ m ∈ salutations, m.encode.length ≤ 64 := by decide +kernel
  have hpayloads : ∀ m ∈ salutations, (Envelope.encode m.encode).length ≤ 64 := by decide +kernel
  have hframes : salutations.map (Grpc.encode 64) = salutationFrames.map .ok := by
    rw [salutationFrames, List.map_map]
    exact List.map_congr_left fun m hm => Grpc.encode_eq_ok_iff.mpr ⟨hpayloads m hm, rfl⟩
  obtain ⟨hcarryLines, hcarryFrames⟩ := framings_carry_messages salutations hfits
  refine ⟨hfits, ((hcarryLines 64 hlines).2 _ ?_).1,
    ((hcarryFrames 64 salutationFrames (by decide) hframes).2 _ ?_).1⟩
  · simp [salutationLines]
  · simp

end Switchboard
