-- SUMMARY: What a client reads from the body of a stream, and how it takes the end of it.
import Switchboard.Client.Stream
import Switchboard.Client.Watch
import Switchboard.Proofs.Frame.Holding

/-!
# Reading a body to its end

A client reads a body through a decoder, chunk by chunk, and when there are no more chunks
it looks at how the body ended. What it reads is what the stream carries, wherever the
chunks were cut: up to the end if this is in order, and else only what was shown before it
(`StreamEnd.extent`). `readFrom_cases` says so of one message and `readAll_comes` of all of
them. `Comes` is the reference: the messages before the first bad frame, and one error.

What the error says is settled by where it comes from: no fault of a frame looks like the
end of a session (`Bears.fault`), so a client that reconnects when the session has ended
does so after an end in order, and only then (`Comes.readOut`).
-/

namespace Switchboard

/-! ## Ends -/

namespace StreamEnd

/-- Nothing is wrong with the end itself: there is no gRPC status, or none that can be read, or it
is 0. -/
def InOrder : StreamEnd → Prop
  | .clean => True
  | .trailers h => h.text? "grpc-status" = none ∨ h.text? "grpc-status" = some "0"
  | .broken _ => False

theorem fault?_eq_none_iff (ending : StreamEnd) : ending.fault? = none ↔ ending.InOrder := by
  cases ending with
  | clean => simp [fault?, InOrder]
  | broken text => simp [fault?, InOrder]
  | trailers h =>
    simp only [fault?, InOrder, statusFault?, Option.map_eq_none_iff]
    cases h.text? "grpc-status" with
    | none => simp
    | some status => by_cases hs : status = "0" <;> simp [hs]

theorem toClient_of_fault? {ending : StreamEnd} {e : FrameError} (h : ending.fault? = some e) :
    e.toClient = .transport e.message := by
  cases ending with
  | clean => cases h
  | broken text =>
    cases h
    rfl
  | trailers h' =>
    obtain ⟨text, -, rfl⟩ := Option.map_eq_some_iff.mp h
    rfl

/-- How much of a stream is read before an end: an end in order makes its last line whole. -/
def extent (ending : StreamEnd) : Extent :=
  match ending.fault? with
  | none => .whole
  | some _ => .soFar

/-- What is told of an end. -/
def error (ending : StreamEnd) : ClientError :=
  match ending.fault? with
  | none => .transportClosed
  | some e => e.toClient

end StreamEnd

/-- What is read of a body that carries `rs` and ends so. -/
inductive Comes (rs : List (Except FrameError Message)) (ending : StreamEnd) :
    List Message → ClientError → Prop
  /-- Up to the first bad frame. -/
  | bad {ms : List Message} {e : FrameError} {rest : List (Except FrameError Message)}
      (frames : rs = ms.map .ok ++ .error e :: rest) : Comes rs ending ms e.toClient
  | ended {ms : List Message} (frames : rs = ms.map .ok) : Comes rs ending ms ending.error

variable {rs : List (Except FrameError Message)} {ending : StreamEnd} {ms : List Message} {m : Message}
  {e : ClientError} {d : FrameDecoder} {i : Incoming} {x : Extent} {limit fuel : Nat}

theorem Comes.cons (h : Comes rs ending ms e) : Comes (.ok m :: rs) ending (m :: ms) e := by
  cases h with
  | bad frames => exact .bad (by rw [frames]; rfl)
  | ended frames => exact .ended (by rw [frames]; rfl)

/-! ## Reading -/

namespace Incoming

/-- What is left of a body to be read. -/
def left (i : Incoming) : List (Except FrameError Message) :=
  i.decoder.owed i.ending.extent i.chunks.flatten

/-- One message is the first of what is left, and where there is none, the first bad frame or the end
says why. -/
theorem readFrom_cases (ending : StreamEnd) (chunks : List Octets) (h : d.Sound) :
    (∃ m i, readFrom ending d chunks = (i, .ok m) ∧ i.decoder.Sound ∧ i.ending = ending ∧
      d.owed ending.extent chunks.flatten = .ok m :: i.left) ∨
    (∃ e rest i, readFrom ending d chunks = (i, .error e.toClient) ∧
      d.owed ending.extent chunks.flatten = .error e :: rest) ∨
    ∃ i, readFrom ending d chunks = (i, .error ending.error) ∧
      d.owed ending.extent chunks.flatten = [] := by
  induction chunks generalizing d with
  | nil =>
    obtain ⟨m, d', hdecode, sound, owed⟩ | ⟨e, d', hdecode, owed⟩ | ⟨d', hdecode, sound, owed, rests⟩ :=
      FrameDecoder.decode_cases h
    · exact .inl ⟨m, ⟨d', [], ending⟩, by rw [readFrom, hdecode], sound, rfl, owed _ _⟩
    · obtain ⟨rest, owed⟩ := owed ending.extent []
      exact .inr (.inl ⟨e, rest, _, by rw [readFrom, hdecode], owed⟩)
    · cases hfault : ending.fault? with
      | some e =>
        -- Before an end that is not in order nothing more is asked of the decoder.
        have hextent : ending.extent = .soFar := by rw [StreamEnd.extent, hfault]
        refine .inr (.inr ⟨⟨d', [], ending⟩, ?_, ?_⟩)
        · simp only [readFrom, hdecode, hfault, StreamEnd.error]
        · rw [hextent, ← owed]
          exact rests
      | none =>
        have hextent : ending.extent = .whole := by rw [StreamEnd.extent, hfault]
        rw [hextent, List.flatten_nil, ← owed]
        obtain ⟨m, d'', hend, sound', owed'⟩ | ⟨e, d'', rest, hend, owed'⟩ | ⟨d'', hend, owed'⟩ :=
          FrameDecoder.decodeEnd_cases sound
        · refine .inl ⟨m, ⟨d'', [], ending⟩, ?_, sound', rfl, ?_⟩
          · simp only [readFrom, hdecode, hfault, hend]
          · rw [owed', left, hextent]
            rfl
        · exact .inr (.inl ⟨e, rest, ⟨d'', [], ending⟩, by simp only [readFrom, hdecode, hfault, hend], owed'⟩)
        · refine .inr (.inr ⟨⟨d'', [], ending⟩, ?_, owed'⟩)
          simp only [readFrom, hdecode, hfault, hend, StreamEnd.error]
  | cons chunk chunks ih =>
    obtain ⟨m, d', hdecode, sound, owed⟩ | ⟨e, d', hdecode, owed⟩ | ⟨d', hdecode, sound, owed, -⟩ :=
      FrameDecoder.decode_cases h
    · exact .inl ⟨m, ⟨d', chunk :: chunks, ending⟩, by rw [readFrom, hdecode], sound, rfl, owed _ _⟩
    · obtain ⟨rest, owed⟩ := owed ending.extent (chunk :: chunks).flatten
      exact .inr (.inl ⟨e, rest, _, by rw [readFrom, hdecode], owed⟩)
    · have hread : readFrom ending d (chunk :: chunks) = readFrom ending (d'.feed chunk) chunks := by
        rw [readFrom, hdecode]
      rw [hread, List.flatten_cons, ← owed, ← FrameDecoder.owed_feed]
      exact ih (sound.feed chunk)

/-- All messages are what is left, with one error after them. -/
theorem readAll_comes (h : i.decoder.Sound) (hfuel : i.left.length < fuel) :
    ∃ ms e, readAll fuel i = (ms, some e) ∧ Comes i.left i.ending ms e := by
  induction fuel generalizing i with
  | zero => exact absurd hfuel (Nat.not_lt_zero _)
  | succ fuel ih =>
    obtain ⟨m, i', hread, sound, hending, hleft⟩ | ⟨e, rest, i', hread, hleft⟩ | ⟨i', hread, hleft⟩ :=
      readFrom_cases i.ending i.chunks h
    · rw [left, hleft, List.length_cons] at hfuel
      obtain ⟨ms, e, hall, comes⟩ := ih sound (Nat.lt_of_succ_lt_succ hfuel)
      refine ⟨m :: ms, e, by simp only [readAll, read, hread, hall], ?_⟩
      rw [left, hleft]
      exact (hending ▸ comes).cons
    · refine ⟨[], e.toClient, by simp only [readAll, read, hread], ?_⟩
      rw [left, hleft]
      exact .bad rfl
    · refine ⟨[], i.ending.error, by simp only [readAll, read, hread], ?_⟩
      rw [left, hleft]
      exact .ended rfl

end Incoming

/-! ## Faults of frames -/

/-- What a stretch of a stream can carry: an octet or more for each frame, and no fault that could
be taken for the end of the session. -/
structure Bears (s : Octets) (rs : List (Except FrameError Message)) : Prop where
  length : rs.length ≤ s.length
  fault : ∀ e, .error e ∈ rs → (∃ d, e = .decode d) ∨ e.toClient = .transport e.message

variable {s t : Octets} {rs' : List (Except FrameError Message)}

theorem Bears.nil (s : Octets) : Bears s [] := ⟨Nat.zero_le _, fun _ h => nomatch h⟩

theorem Bears.append (h : Bears s rs) (h' : Bears t rs') : Bears (s ++ t) (rs ++ rs') where
  length := by
    rw [List.length_append, List.length_append]
    exact Nat.add_le_add h.length h'.length
  fault e he := (List.mem_append.mp he).elim (h.fault e) (h'.fault e)

theorem Bears.single {r : Except FrameError Message} (hs : 0 < s.length)
    (h : ∀ e, r = .error e → (∃ d, e = .decode d) ∨ e.toClient = .transport e.message) : Bears s [r] :=
  ⟨hs, fun e he => h e (List.mem_singleton.mp he).symm⟩

namespace Lines

theorem fault_of_outcome? {line : Octets} {e : FrameError} (h : outcome? limit line = some (.error e)) :
    (∃ d, e = .decode d) ∨ e.toClient = .transport e.message := by
  unfold outcome? at h
  split at h
  · cases h
    exact .inr rfl
  · split at h
    · cases h
    · cases h
    · next hread =>
      cases h
      obtain ⟨t, -, meaning⟩ := says_read line
      rw [hread] at meaning
      cases meaning with
      | notText => exact .inr rfl
      | garbled => exact .inl ⟨_, rfl⟩

theorem bears_outcome? (line : Octets) (hs : 0 < s.length) : Bears s (outcome? limit line).toList := by
  cases h : outcome? limit line with
  | none => exact .nil s
  | some r => exact .single hs fun e he => fault_of_outcome? (he ▸ h)

/-- What a stream of lines carries, whatever is made of its last line. -/
theorem Segmental.bears {f : Nat → Octets → List (Except FrameError Message)} (hf : Segmental f)
    (last : ∀ line, newline ∉ line → Bears line (f limit line)) (s : Octets) : Bears s (f limit s) := by
  induction hn : s.length using Nat.strongRecOn generalizing s with
  | ind n ih =>
    rcases exists_segment s with ⟨hmem, -⟩ | ⟨line, hmem, hs⟩
    · exact last s hmem
    · have hshorter : (afterNewline s).length < n := by
        rw [← hn, hs, List.length_append, List.length_cons, ← hs]
        omega
      have hsegment : Bears (line ++ [newline] ++ afterNewline s)
          ((outcome? limit line).toList ++ f limit (afterNewline s)) :=
        (bears_outcome? line (by simp)).append (ih _ hshorter _ rfl)
      rw [← hf.segment limit hmem, List.append_assoc, List.singleton_append, ← hs] at hsegment
      exact hsegment

theorem bears_lines (x : Extent) (s : Octets) : Bears s (x.lines limit s) := by
  apply x.segmental.bears
  intro line hmem
  cases x with
  | whole =>
    show Bears line (outcomes limit line)
    cases line with
    | nil =>
      rw [segmental_outcomes.nil]
      exact .nil []
    | cons b line =>
      rw [outcomes_of_not_mem limit hmem]
      exact bears_outcome? _ (Nat.succ_pos _)
  | soFar =>
    show Bears line (outcomesSoFar limit line)
    rw [outcomesSoFar_of_not_mem limit hmem]
    split
    · next hlong => exact .single (Nat.zero_lt_of_lt hlong) fun e he => by cases he; exact .inr rfl
    · exact .nil line

end Lines

namespace Grpc

theorem fault_of_read {payload : Octets} {e : FrameError} (h : read payload = .error e) :
    (∃ d, e = .decode d) ∨ e.toClient = .transport e.message := by
  rcases read_eq_error h with ⟨f, rfl⟩ | ⟨f, rfl⟩
  · exact .inr rfl
  · exact .inl ⟨f, rfl⟩

/-- What a stream of gRPC frames carries, whatever is made of a frame that is not complete. -/
theorem Framed.bears {f : Nat → Octets → List (Except FrameError Message)} (hf : Framed f)
    (last : ∀ s, Incomplete limit s → Bears s (f limit s)) (s : Octets) : Bears s (f limit s) := by
  induction hn : s.length using Nat.strongRecOn generalizing s with
  | ind n ih =>
    cases header_cases limit s with
    | incomplete incomplete => exact last s incomplete
    | compressed flagged a b c d rest =>
      rw [hf.compressed limit flagged]
      exact .single (Nat.succ_pos _) fun e he => by cases he; exact .inr rfl
    | tooLarge exceeds rest =>
      rw [hf.tooLarge exceeds]
      exact .single (Nat.succ_pos _) fun e he => by cases he; exact .inr rfl
    | @whole a b c d rest fits whole =>
      have hshorter : (rest.drop (lengthOf a b c d)).length < n := by
        rw [← hn, List.length_drop]
        simp only [List.length_cons]
        omega
      have hframe : Bears (0 :: a :: b :: c :: d :: rest.take (lengthOf a b c d) ++
          rest.drop (lengthOf a b c d)) ([read (rest.take (lengthOf a b c d))] ++
          f limit (rest.drop (lengthOf a b c d))) :=
        (Bears.single (by simp) fun e he => fault_of_read he).append (ih _ hshorter _ rfl)
      rw [hf.frame fits whole]
      simpa using hframe

theorem bears_grpc (x : Extent) (s : Octets) : Bears s (x.grpc limit s) := by
  apply x.framed.bears
  intro s incomplete
  cases x with
  | whole =>
    show Bears s (outcomes limit s)
    cases s with
    | nil =>
      rw [outcomes]
      exact .nil []
    | cons b s =>
      rw [incomplete.outcomes_eq (List.cons_ne_nil b s)]
      exact .single (Nat.succ_pos _) fun e he => by cases he; exact .inr rfl
  | soFar =>
    show Bears s (outcomesSoFar limit s)
    rw [incomplete.outcomesSoFar_eq]
    exact .nil s

end Grpc

theorem bears_carries (f : Framing) (x : Extent) (s : Octets) : Bears s (f.carries limit x s) := by
  cases f with
  | lines => exact Lines.bears_lines x s
  | grpc => exact Grpc.bears_grpc x s

/-! ## The error -/

/-- No good frame comes after the messages that were read. -/
theorem frames_inj {fault fault' : FrameError} {rest rest' : List (Except FrameError Message)}
    (h : rs = ms.map .ok ++ .error fault :: rest) (h' : rs = ms.map .ok ++ .error fault' :: rest') :
    fault = fault' := by
  have heq := List.append_cancel_left (h.symm.trans h')
  exact Except.error.inj (List.cons.inj heq).1

theorem not_all_good {fault : FrameError} {rest : List (Except FrameError Message)}
    (h : rs = ms.map .ok ++ .error fault :: rest) : rs ≠ ms.map .ok := by
  intro hgood
  have heq := List.append_cancel_left ((List.append_nil _).trans (hgood.symm.trans h))
  cases heq

theorem afterWait_failed_iff (e : ClientError) :
    Watch.afterWait (.failed e) = .connecting 0 ↔ e = .transportClosed := by
  cases e <;> simp [Watch.afterWait]

/-- How a body is read to its end that carries `rs`. -/
structure ReadOut (rs : List (Except FrameError Message)) (ending : StreamEnd) (ms : List Message)
    (e : ClientError) : Prop where
  /-- The messages are those before the first bad frame, and the error is one. -/
  comes : Comes rs ending ms e
  /-- The frame after them holds no message. -/
  undecodable : (∃ d, e = .decode d) ↔ ∃ d rest, rs = ms.map .ok ++ .error (.decode d) :: rest
  /-- The frame after them is bad in another way, or there is none and the end is not in order. -/
  broken : (∃ text, e = .transport text) ↔
    (∃ fault rest, (∀ d, fault ≠ .decode d) ∧ rs = ms.map .ok ++ .error fault :: rest) ∨
      rs = ms.map .ok ∧ ¬ ending.InOrder
  closed : e = .transportClosed ↔ rs = ms.map .ok ∧ ending.InOrder
  /-- Whoever keeps a client connected connects again. -/
  reconnects : Watch.afterWait (.failed e) = .connecting 0 ↔ rs = ms.map .ok ∧ ending.InOrder

theorem Comes.readOut (h : Comes rs ending ms e)
    (faults : ∀ e, .error e ∈ rs → (∃ d, e = .decode d) ∨ e.toClient = .transport e.message) :
    ReadOut rs ending ms e := by
  have readOut (undecodable) (broken) (closed) : ReadOut rs ending ms e :=
    ⟨h, undecodable, broken, closed, (afterWait_failed_iff e).trans closed⟩
  cases h with
  | @bad fault rest frames =>
    have ungood := not_all_good frames
    rcases faults fault (by rw [frames]; simp) with ⟨d, rfl⟩ | htransport
    · apply readOut
      · exact ⟨fun _ => ⟨d, rest, frames⟩, fun _ => ⟨d, rfl⟩⟩
      · refine ⟨fun ⟨_, h⟩ => (nomatch h), ?_⟩
        rintro (⟨fault', rest', other, frames'⟩ | ⟨good, -⟩)
        · exact absurd (frames_inj frames' frames) (other d)
        · exact absurd good ungood
      · exact ⟨fun h => (nomatch h), fun h => absurd h.1 ungood⟩
    · rw [htransport] at readOut ⊢
      have other (d : DecodeError) : fault ≠ .decode d := by
        rintro rfl
        cases htransport
      apply readOut
      · refine ⟨fun ⟨_, h⟩ => (nomatch h), ?_⟩
        rintro ⟨d, rest', frames'⟩
        exact absurd (frames_inj frames frames') (other d)
      · exact ⟨fun _ => .inl ⟨fault, rest, other, frames⟩, fun _ => ⟨_, rfl⟩⟩
      · exact ⟨fun h => (nomatch h), fun h => absurd h.1 ungood⟩
  | ended good =>
    have whole (fault rest) : rs ≠ ms.map .ok ++ .error fault :: rest := fun frames =>
      not_all_good frames good
    cases hfault : ending.fault? with
    | none =>
      have inOrder := (StreamEnd.fault?_eq_none_iff ending).mp hfault
      have herror : ending.error = .transportClosed := by rw [StreamEnd.error, hfault]
      rw [herror] at readOut ⊢
      apply readOut
      · exact ⟨fun ⟨_, h⟩ => (nomatch h), fun ⟨_, _, h⟩ => absurd h (whole _ _)⟩
      · refine ⟨fun ⟨_, h⟩ => (nomatch h), ?_⟩
        rintro (⟨fault, rest, -, h⟩ | ⟨-, h⟩)
        · exact absurd h (whole fault rest)
        · exact absurd inOrder h
      · exact ⟨fun _ => ⟨good, inOrder⟩, fun _ => rfl⟩
    | some fault =>
      have disorder : ¬ ending.InOrder := by
        rw [← StreamEnd.fault?_eq_none_iff, hfault]
        exact fun h => nomatch h
      have herror : ending.error = .transport fault.message := by
        rw [StreamEnd.error, hfault]
        exact StreamEnd.toClient_of_fault? hfault
      rw [herror] at readOut ⊢
      apply readOut
      · exact ⟨fun ⟨_, h⟩ => (nomatch h), fun ⟨_, _, h⟩ => absurd h (whole _ _)⟩
      · exact ⟨fun _ => .inr ⟨good, disorder⟩, fun _ => ⟨_, rfl⟩⟩
      · exact ⟨fun h => (nomatch h), fun h => absurd h.2 disorder⟩

/-- However the body of a response is cut into chunks, a client reads the messages of its frames up to
the first bad one or to the end, and then one error. -/
theorem bodies_read_to_the_end (f : Framing) (limit : Nat) (chunks : List Octets) (ending : StreamEnd) :
    ∃ ms e, Incoming.messages f limit chunks ending = (ms, some e) ∧
      ReadOut (f.carries limit ending.extent chunks.flatten) ending ms e := by
  have bears : Bears chunks.flatten (f.carries limit ending.extent chunks.flatten) :=
    bears_carries f ending.extent chunks.flatten
  have hleft : Incoming.left ⟨f.decoder limit, chunks, ending⟩ =
      f.carries limit ending.extent chunks.flatten := FrameDecoder.owed_decoder f limit _ _
  obtain ⟨ms, e, hread, comes⟩ := Incoming.readAll_comes (i := ⟨f.decoder limit, chunks, ending⟩)
    (FrameDecoder.sound_decoder f limit) (hleft ▸ Nat.lt_succ_of_le bears.length)
  rw [hleft] at comes
  exact ⟨ms, e, hread, comes.readOut bears.fault⟩

end Switchboard
