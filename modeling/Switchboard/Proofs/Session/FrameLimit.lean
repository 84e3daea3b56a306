-- SUMMARY: Which frames a session writes, and which of them a peer with the same limit takes.
import Switchboard.Proofs.History
import Switchboard.Proofs.Session.Reading

/-!
# The frame limit of a session

What a session has written is its greeting and the frames of the messages that it has
taken off its queue (`Sent`). The limit of the gateway is for what comes in: a line is
written however long it is, and a gRPC frame if it is within the default limit. So the
messages that have a frame are those within the gateway's limit exactly when the two
bounds do not tell the messages of the session apart, and a peer that holds frames to the
gateway's limit refuses what is written beyond it (`frame_limit_of_session`).
-/

namespace Switchboard

/-- A decoder gives the first of what has been shown to it. -/
theorem FrameDecoder.decode_of_owed {d : FrameDecoder} {r : Except FrameError Message}
    {rs : List (Except FrameError Message)} (hsound : d.Sound) (howed : d.owed .soFar [] = r :: rs) :
    d.decode.2 = r.map some := by
  rcases decode_cases hsound with ⟨m, d', hdecode, -, hfirst⟩ | ⟨e, d', hdecode, hfirst⟩ | ⟨d', -, -, hsame, hnone⟩
  · rw [hfirst] at howed
    cases howed
    rw [hdecode]
    rfl
  · obtain ⟨rs', hfirst⟩ := hfirst .soFar []
    rw [hfirst] at howed
    cases howed
    rw [hdecode]
    rfl
  · rw [← hsame, hnone] at howed
    cases howed

/-- A decoder takes a frame within its limit and refuses any other. -/
theorem Framing.decode_frame {limit : Nat} {m : Message} {framing : Framing} {frame : Octets}
    (hm : m.toJson.Fits Json.Reader.maxNesting) (hframe : framing.encode defaultLimit m = .ok frame) :
    ((framing.decoder limit).feed frame).decode.2 =
      if framing.Bounds limit m then .ok (some m.reread) else .error (framing.excess m) := by
  have hsound := (FrameDecoder.sound_decoder framing limit).feed frame
  have howed : ((framing.decoder limit).feed frame).owed .soFar [] = framing.carries limit .soFar frame := by
    rw [FrameDecoder.owed_feed, List.append_nil, FrameDecoder.owed_decoder]
  split
  · next hlimit =>
    have hcarries := carries_of_bounds hm hframe .soFar hlimit []
    rw [List.append_nil, ← howed] at hcarries
    exact FrameDecoder.decode_of_owed hsound hcarries
  · next hlimit =>
    obtain ⟨rest, hcarries⟩ := exists_carries_of_not_bounds hm hframe .soFar hlimit
    rw [← howed] at hcarries
    exact FrameDecoder.decode_of_owed hsound hcarries

namespace Session

/-! ## What is taken off the queue -/

/-- The messages that a run takes off the queue to write them, in order. -/
def taken (u : Setup) (s : State) (as : List Action) : List Message :=
  Step.history (step u) (fun s a => if a = .write then s.queue.take 1 else []) s as

/-- The send half has written the frames of the messages taken, and its greeting before them if it
came to that. -/
inductive Sent (u : Setup) (es : List Event) (sender : Sender) (ms : List Message) : Prop where
  | going : Wrote u es sender ms → Sent u es sender ms
  | stopped (greeted : List Event) : sender = .trailing ∨ sender = .ended →
      greeted = [] ∨ greeted = opening u.kind → written es = greeted ++ framesOf u.kind ms → Sent u es sender ms

section Steps

variable {u : Setup} {s s' : State} {a : Action} {es fs : List Event} {sender : Sender} {ms : List Message}

theorem Wrote.exists_greeted (h : Wrote u es sender ms) :
    ∃ greeted, (greeted = [] ∨ greeted = opening u.kind) ∧ written es = greeted ++ framesOf u.kind ms := by
  cases h with
  | greeting _ hes => exact ⟨[], .inl rfl, hes⟩
  | streaming hes => exact ⟨opening u.kind, .inr rfl, hes⟩

theorem Sent.exists_greeted (h : Sent u es sender ms) :
    ∃ greeted, (greeted = [] ∨ greeted = opening u.kind) ∧ written es = greeted ++ framesOf u.kind ms := by
  cases h with
  | going h => exact h.exists_greeted
  | stopped greeted _ hgreeted hes => exact ⟨greeted, hgreeted, hes⟩

theorem Sent.go_on (h : Sent u es sender ms) (hfs : written fs = []) : Sent u (es ++ fs) sender ms := by
  cases h with
  | going h => exact .going (h.go_on hfs)
  | stopped greeted hsender hgreeted hes =>
    refine .stopped greeted hsender hgreeted ?_
    rw [written_append, hfs, List.append_nil, hes]

theorem Sent.stop {sender' : Sender} (h : Sent u es sender ms) (hfs : written fs = [])
    (hsender : sender' = .trailing ∨ sender' = .ended) : Sent u (es ++ fs) sender' ms := by
  obtain ⟨greeted, hgreeted, hes⟩ := h.exists_greeted
  refine .stopped greeted hsender hgreeted ?_
  rw [written_append, hfs, List.append_nil, hes]

theorem Sent.wrote (h : Sent u es sender ms) (hsender : sender = .greeting ∨ sender = .streaming) :
    Wrote u es sender ms := by
  cases h with
  | going h => exact h
  | stopped _ hstopped => rcases hsender with rfl | rfl <;> rcases hstopped with h | h <;> cases h

/-- A message that is taken off the queue is written as its frame, if it has one. -/
theorem Sent.step (h : Sent u es s.sender ms) (ha : Effect u s a s' fs) :
    Sent u (es ++ fs) s'.sender (ms ++ if a = .write then s.queue.take 1 else []) := by
  have hkeep (ha : a ≠ .write) (hfs : written fs = []) (hsender : s'.sender = s.sender) :
      Sent u (es ++ fs) s'.sender (ms ++ if a = .write then s.queue.take 1 else []) := by
    rw [if_neg ha, List.append_nil, hsender]
    exact h.go_on hfs
  have hstop (ha : a ≠ .write) (hfs : written fs = []) (hsender : s'.sender = .trailing ∨ s'.sender = .ended) :
      Sent u (es ++ fs) s'.sender (ms ++ if a = .write then s.queue.take 1 else []) := by
    rw [if_neg ha, List.append_nil]
    exact h.stop hfs hsender
  cases ha with
  | write hsender hqueue =>
    have hwrote := h.wrote (.inr hsender)
    rw [hsender] at hwrote
    rw [if_pos rfl, hqueue]
    exact hsender ▸ .going (hwrote.write _)
  | greet hsender =>
    have hwrote := h.wrote (.inl hsender)
    rw [hsender] at hwrote
    rw [if_neg nofun, List.append_nil]
    exact .going hwrote.greet
  | hangUp | finish | trail => exact hstop nofun rfl (.inr rfl)
  | finishStream => exact hstop nofun rfl (.inl rfl)
  | run _ hrun => exact hkeep nofun rfl (by rw [State.sender_withTask, (Task.run_sender hrun).1])
  | dropAnswer => exact hkeep nofun rfl (State.sender_withTask ..)
  | _ => exact hkeep nofun rfl rfl

theorem sent_of_run {i : Inbound} {as : List Action} (hrun : run u (opened u i) as = some (s, es)) :
    Sent u es s.sender (taken u (opened u i) as) := by
  refine Step.reach_induction (R := fun s as es => Sent u es s.sender (taken u (opened u i) as))
    (.going (Wrote.start u)) ?_ hrun
  intro t t' a as es fs hrun ih hstep
  have htaken : taken u (opened u i) (as ++ [a]) = taken u (opened u i) as ++ _ :=
    Step.history_concat _ hrun a
  rw [htaken]
  exact ih.step (effect_of_step hstep)

end Steps

/-! ## The limit -/

/-- A session of lines or of gRPC frames on a gateway with any frame limit, after any run. It has
written its greeting, if it came to that, and the frames of those messages taken off its queue that
have one: on lines all of them, on gRPC those within the default limit. So these are the messages
within the gateway's limit exactly if the messages within that limit are those within the default
limit, on gRPC, or all messages, on lines. A peer that holds frames to the gateway's limit takes the
frame of a message within it and refuses every other frame. -/
theorem frame_limit_of_session (g : Gateway) {kind : Kind} {framing : Framing}
    (hkind : kind.framing? = some framing) (c : Connection) (b : Body) {as : List Action} {t : State}
    {es : List Event} {limit : Nat} {ms : List Message} (hlimit : g.config.maxFrameSize = limit)
    (hrun : run (g.setup kind c) (g.openSession kind c b) as = some (t, es))
    (hms : taken (g.setup kind c) (g.openSession kind c b) as = ms) :
    (∃ greeted, (greeted = [] ∨ greeted = opening kind) ∧ written es = greeted ++ framesOf kind ms) ∧
    (∀ m ∈ ms, (∃ frame, kind.encode m = .ok frame) ↔ (framing = .grpc → framing.Bounds Framing.defaultLimit m)) ∧
    ((∀ m ∈ ms, (∃ frame, kind.encode m = .ok frame) ↔ framing.Bounds limit m) ↔
      ∀ m ∈ ms, framing.Bounds limit m ↔ (framing = .grpc → framing.Bounds Framing.defaultLimit m)) ∧
    ∀ m ∈ ms, m.toJson.Fits Json.Reader.maxNesting → ∀ frame, kind.encode m = .ok frame →
      ((framing.decoder limit).feed frame).decode.2 =
        if framing.Bounds limit m then .ok (some m.reread) else .error (framing.excess m) := by
  subst hlimit hms
  have hencode (m : Message) : (∃ frame, kind.encode m = .ok frame) ↔
      (framing = .grpc → framing.Bounds Framing.defaultLimit m) := by
    rw [kind.encode_of_framing hkind]
    exact Framing.exists_encode_iff
  refine ⟨(sent_of_run hrun).exists_greeted, fun m _ => hencode m, ?_, fun m _ hm frame hframe => ?_⟩
  · refine forall₂_congr fun m _ => ?_
    rw [hencode m]
    exact Iff.comm
  · rw [kind.encode_of_framing hkind] at hframe
    exact Framing.decode_frame hm hframe

/-- A gateway whose frames may have 60 octets. -/
def narrow : Gateway := { actor := .empty, config := { maxFrameSize := 60 } }

/-- The answer to a request for which no handler is registered: 77 octets. -/
def soleRefusal : Message := { content := .error (.number ⟨"1"⟩) ErrorCode.methodNotFound.toError }

/-- The request as its sender frames it: a payload of 50 octets. -/
def soleFrame : Octets :=
  Grpc.header (Envelope.encode soleRequest.encode).length ++ Envelope.encode soleRequest.encode

theorem frame_limit_of_session_narrow :
    ∃ t es, run (narrow.setup .grpc .detached) (narrow.openSession .grpc .detached { chunks := [soleFrame] })
        [.receive, .run none, .run none, .write] = some (t, es) ∧
      written es = framesOf .grpc [soleRefusal] ∧ soleRefusal.toJson.Fits Json.Reader.maxNesting ∧
      ∃ frame, Kind.grpc.encode soleRefusal = .ok frame ∧
        ((Framing.grpc.decoder 60).feed frame).decode.2 = .error (.tooLarge 79) := by
  have hrun : (run (narrow.setup .grpc .detached) (narrow.openSession .grpc .detached { chunks := [soleFrame] })
      [.receive, .run none, .run none, .write]).map (fun _ => ()) = some () := by
    decide +kernel
  obtain ⟨⟨t, es⟩, hrun, -⟩ := Option.map_eq_some_iff.mp hrun
  have htaken : taken (narrow.setup .grpc .detached) (narrow.openSession .grpc .detached { chunks := [soleFrame] })
      [.receive, .run none, .run none, .write] = [soleRefusal] := by
    decide +kernel
  have hbounds : Framing.grpc.Bounds Framing.defaultLimit soleRefusal ∧ ¬Framing.grpc.Bounds 60 soleRefusal ∧
      Framing.grpc.excess soleRefusal = .tooLarge 79 := by
    decide +kernel
  have hfits : soleRefusal.toJson.Fits Json.Reader.maxNesting := by
    have hid : (RequestId.number ⟨"1"⟩).toJson.Fits 126 := .num (JsonNumber.isNumeral_ofInt 1)
    exact Message.fits_toJson ⟨hid, RpcError.fits_toJson (by simp [ErrorCode.toError])⟩
  have hlimit : narrow.config.maxFrameSize = 60 := rfl
  obtain ⟨⟨greeted, hgreeted, hwritten⟩, hframed, -, hpeer⟩ :=
    frame_limit_of_session narrow rfl .detached { chunks := [soleFrame] } hlimit hrun htaken
  have hnone : greeted = [] := hgreeted.elim id id
  obtain ⟨frame, hframe⟩ := (hframed soleRefusal (by simp)).mpr fun _ => hbounds.1
  refine ⟨t, es, hrun, by rw [hwritten, hnone]; rfl, hfits, frame, hframe, ?_⟩
  have hrefused := hpeer soleRefusal (by simp) hfits frame hframe
  rwa [if_neg hbounds.2.1, hbounds.2.2] at hrefused

/-- Both kinds of stream write an answer that is beyond the limit of their gateway. -/
theorem oversized_frames_written :
    (∃ t es, run (narrow.setup (.lines true) .detached)
        (narrow.openSession (.lines true) .detached { chunks := [soleLine] })
        [.greet, .receive, .run none, .run none, .write] = some (t, es) ∧
      written es = [.frame greetingLine, .frame (Lines.encode soleRefusal)] ∧
      ¬Framing.lines.Bounds narrow.config.maxFrameSize soleRefusal) ∧
    ∃ t es, run (narrow.setup .grpc .detached) (narrow.openSession .grpc .detached { chunks := [soleFrame] })
        [.receive, .run none, .run none, .write] = some (t, es) ∧
      written es = framesOf .grpc [soleRefusal] ∧ framesOf .grpc [soleRefusal] ≠ [] ∧
      ¬Framing.grpc.Bounds narrow.config.maxFrameSize soleRefusal := by
  have hlines : (run (narrow.setup (.lines true) .detached)
      (narrow.openSession (.lines true) .detached { chunks := [soleLine] })
      [.greet, .receive, .run none, .run none, .write]).map (fun r => written r.2) =
        some [.frame greetingLine, .frame (Lines.encode soleRefusal)] := by
    decide +kernel
  have hgrpc : (run (narrow.setup .grpc .detached) (narrow.openSession .grpc .detached { chunks := [soleFrame] })
      [.receive, .run none, .run none, .write]).map (fun r => written r.2) = some (framesOf .grpc [soleRefusal]) := by
    decide +kernel
  have hbounds : ¬Framing.lines.Bounds 60 soleRefusal ∧ ¬Framing.grpc.Bounds 60 soleRefusal ∧
      framesOf .grpc [soleRefusal] ≠ [] := by
    decide +kernel
  obtain ⟨⟨t, es⟩, hrun, hes⟩ := Option.map_eq_some_iff.mp hlines
  obtain ⟨⟨t', es'⟩, hrun', hes'⟩ := Option.map_eq_some_iff.mp hgrpc
  exact ⟨⟨t, es, hrun, hes, hbounds.1⟩, t', es', hrun', hes', hbounds.2.2, hbounds.2.1⟩

end Session

end Switchboard
