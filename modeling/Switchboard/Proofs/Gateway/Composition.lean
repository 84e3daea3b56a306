-- SUMMARY: A unary call and the gateway that serves it compose to what the actor does.
import Switchboard.Proofs.Client.Unary
import Switchboard.Proofs.Gateway.Parity

/-!
# Unary calls, served

The client takes the trace identifier out of a request and puts it into a header, the
gateway takes it from there and puts it back; the same happens to the reply on its way
to the caller. `UnaryClient.call_served` says that nothing else happens: the actor is
handed the request, and the caller gets the reply, if the reply can be written and read
at all. HTTP lies between the two. It carries the octets of a body in any chunks, may
add headers, and loses the blanks at the ends of a header value.
-/

namespace Switchboard

/-! ## Header values -/

namespace Headers

def isPadding (c : Char) : Bool := c == ' ' || c == '\t'

/-- What HTTP carries of a header value: all but the blanks at its ends. -/
def fieldValue (s : String) : String :=
  String.ofList ((s.toList.dropWhile isPadding).reverse.dropWhile isPadding).reverse

variable {s : String}

theorem all_dropWhile {p q : Char → Bool} (hpq : ∀ c, p c = true → q c = true) (cs : List Char) :
    (cs.dropWhile p).all q = cs.all q := by
  induction cs with
  | nil => rfl
  | cons c cs ih =>
    rw [List.dropWhile_cons]
    split
    · next hc => rw [ih, List.all_cons, hpq c hc, Bool.true_and]
    · rfl

theorem isVisible_fieldValue (s : String) : isVisible (fieldValue s) = isVisible s := by
  have hpadding (c : Char) (hc : isPadding c = true) :
      (c == '\t' || (0x20 ≤ c.toNat && c.toNat < 0x7f)) = true := by
    rw [isPadding, Bool.or_eq_true, beq_iff_eq, beq_iff_eq] at hc
    rcases hc with rfl | rfl <;> decide
  simp only [isVisible, fieldValue, String.toList_ofList, List.all_reverse, all_dropWhile hpadding]

theorem isValue_of_isVisible (hs : isVisible s = true) : isValue s = true := by
  simp only [isVisible, isValue, List.all_eq_true, Bool.or_eq_true, Bool.and_eq_true, beq_iff_eq,
    decide_eq_true_eq, bne_iff_ne] at hs ⊢
  intro c hc
  exact (hs c hc).imp_right fun hrange => ⟨hrange.1, Nat.ne_of_lt hrange.2⟩

theorem text?_eq (name : String) (h : Headers) : h.text? name = (h.getAll name).head?.filter isVisible := rfl

end Headers

/-! ## What HTTP carries -/

/-- A request as it arrives: the same method and octets, and of the trace header what HTTP carries. -/
structure HttpRequest.Arrives (sent got : HttpRequest) : Prop where
  method : got.method = sent.method
  complete : got.body.ending = .complete
  octets : got.body.chunks.flatten = sent.body.chunks.flatten
  trace : got.headers.getAll traceHeader = (sent.headers.getAll traceHeader).map Headers.fieldValue

/-- A response as it arrives. -/
structure HttpResponse.Arrives (sent got : HttpResponse) : Prop where
  status : got.status = sent.status
  octets : got.body = sent.body
  trace : got.headers.getAll traceHeader = (sent.headers.getAll traceHeader).map Headers.fieldValue

/-- The body is the text of an object without a trace identifier. -/
def UntracedBody (body : Octets) : Prop :=
  ∃ members, body = Text.octets (Json.obj members).compact ∧ Keyed.find? "traceid" members = none

theorem untracedBody_encode (m : Message) : UntracedBody (m.withTraceId "").encode := by
  refine ⟨(m.withTraceId "").members, ?_, Unary.find?_traceid_members m⟩
  obtain ⟨content, traceId, raw⟩ := m
  cases content <;> rfl

/-! ## The way there -/

/-- A request as it comes out of a unary request: as it is, but read from its own text. -/
def Message.handed (m : Message) : Message := { m with raw := some (m.withTraceId "").members }

variable {c : UnaryClient} {callHeaders : Headers} {m : Message} {r : HttpRequest}

section
variable (hextra : c.extraHeaders.getAll traceHeader = []) (hcall : callHeaders.getAll traceHeader = [])
include hextra hcall

theorem UnaryClient.getAll_request :
    (c.request callHeaders m).headers.getAll traceHeader =
      if m.traceId ≠ "" ∧ Headers.isValue m.traceId = true then [m.traceId] else [] := by
  have hgiven : callHeaders.overlay c.extraHeaders traceHeader = [] := by
    rw [Headers.overlay_eq, if_pos hcall, hextra]
  have husual : usualHeaders.getAll traceHeader = [] := by decide
  rw [getAll_request_headers, hgiven, if_pos rfl, husual]
  simp only [traceValues, true_and, List.nil_append]

/-- The gateway gives a request back the trace identifier that the client took from it. -/
theorem Unary.traced_of_arrives (hvisible : Headers.isVisible m.traceId = true)
    (hvalue : Headers.fieldValue m.traceId = m.traceId) (harrives : (c.request callHeaders m).Arrives r) :
    Unary.traced r (m.withTraceId "").reread = m.handed := by
  have htrace : (r.headers.text? traceHeader).getD "" = m.traceId := by
    rw [Headers.text?_eq, harrives.trace, UnaryClient.getAll_request hextra hcall]
    by_cases hempty : m.traceId = ""
    · simp [hempty]
    · rw [if_pos ⟨hempty, Headers.isValue_of_isVisible hvisible⟩]
      simp [hvalue, hvisible, Option.filter_some]
  obtain ⟨content, traceId, raw⟩ := m
  simp only [Unary.traced, Message.reread, Message.handed, Message.withTraceId, if_true, htrace]

/-- The gateway takes a request in as the client was given it. -/
theorem Unary.intake_of_arrives (config : GatewayConfig) (hrequest : m.isRequest = true)
    (hfits : m.toJson.Fits Json.Reader.maxNesting)
    (hsize : (m.withTraceId "").encode.length ≤ config.maxBodySize)
    (hvisible : Headers.isVisible m.traceId = true) (hvalue : Headers.fieldValue m.traceId = m.traceId)
    (harrives : (c.request callHeaders m).Arrives r) :
    Unary.intake config r = .accepted m.handed := by
  have hbody : r.body.chunks.flatten = (m.withTraceId "").encode :=
    harrives.octets.trans (List.append_nil _)
  have hcarries : Unary.Carries config r (m.withTraceId "").reread := by
    refine ⟨harrives.complete, by rwa [hbody], ?_, ?_⟩
    · rw [hbody]
      exact Message.parse_encode (Message.fits_untraced hfits)
    · show (m.isRequest || m.isNotify) = true
      rw [hrequest, Bool.true_or]
  -- What the gate can carry has one way out of it only.
  have htaken := Unary.intake_taken config r
  generalize Unary.intake config r = intake at htaken
  cases htaken with
  | method hmethod => exact absurd harrives.method hmethod
  | unfit _ _ hnone => exact absurd hcarries (hnone _)
  | waiting _ hpending => cases hpending.symm.trans harrives.complete
  | @call m' _ hcarries' =>
    obtain rfl := Except.ok.inj (hcarries'.parsed.symm.trans hcarries.parsed)
    rw [Unary.traced_of_arrives hextra hcall hvisible hvalue harrives]

end

/-! ## The way back -/

/-- The trace identifier with which a caller gets a reply: that of the reply, as HTTP carries it, if
it is text, and else that of the request. -/
def returnedTrace (m reply : Message) : String :=
  if reply.traceId ≠ "" ∧ Headers.isVisible reply.traceId = true then Headers.fieldValue reply.traceId
  else m.traceId

variable {reply : Message} {got : HttpResponse}

theorem text?_of_arrives (harrives : (Unary.respond (.ok (some reply))).Arrives got) :
    (got.headers.text? traceHeader).getD m.traceId = returnedTrace m reply := by
  have hcarried := Headers.isVisible_fieldValue reply.traceId
  rw [Headers.text?_eq, harrives.trace, (Unary.replies_respond reply).traced, returnedTrace]
  cases hvisible : Headers.isVisible reply.traceId with
  | true =>
    by_cases hempty : reply.traceId = ""
    · simp [hempty]
    · simp [hempty, Headers.isValue_of_isVisible hvisible, Option.filter_some, hcarried, hvisible]
  | false =>
    split <;> simp [Option.filter_some, hcarried, hvisible]

theorem UnaryClient.answer_of_arrives (hfits : reply.toJson.Fits Json.Reader.maxNesting)
    (harrives : (Unary.respond (.ok (some reply))).Arrives got) :
    UnaryClient.answer m got = .ok ((reply.withTraceId "").reread.withTraceId (returnedTrace m reply)) := by
  have hstatus : got.status = 200 := harrives.status.trans (Unary.status_respond _)
  have hparse : Message.parse got.body = .ok (reply.withTraceId "").reread := by
    rw [harrives.octets, (Unary.replies_respond reply).body]
    exact Message.parse_encode (Message.fits_untraced hfits)
  simp only [UnaryClient.answer, UnaryClient.accepted, if_pos hstatus, bind, Except.bind, hparse, pure,
    Except.pure, text?_of_arrives harrives]

/-! ## Both ways -/

/-- A unary call that the gateway serves. The actor is handed the request as the caller made it, in
every respect but the object that it was read from. However its handler goes, there is a reply, and if it
is within the limits of the codec the call returns it. No body tells a trace identifier. -/
theorem UnaryClient.call_served (a : Actor) (config : GatewayConfig) (hrequest : m.isRequest = true)
    (hfits : m.toJson.Fits Json.Reader.maxNesting)
    (hsize : (m.withTraceId "").encode.length ≤ config.maxBodySize)
    (hvisible : Headers.isVisible m.traceId = true) (hvalue : Headers.fieldValue m.traceId = m.traceId)
    (hextra : c.extraHeaders.getAll traceHeader = []) (hcall : callHeaders.getAll traceHeader = [])
    (harrives : (c.request callHeaders m).Arrives r) :
    UntracedBody (c.request callHeaders m).body.chunks.flatten ∧
    ∃ received, Unary.intake config r = .accepted received ∧ received.same m = true ∧
      received.traceId = m.traceId ∧ ∀ connection,
      (∃ pushed answer, (a.feed ⟨received, connection⟩).Runs pushed answer) ∧
      ∀ pushed answer, (a.feed ⟨received, connection⟩).Runs pushed answer →
        ∃ reply, answer = .ok (some reply) ∧
          UntracedBody (Unary.serve a ⟨received, connection⟩ answer).2.body ∧
          (reply.toJson.Fits Json.Reader.maxNesting → ∀ got exchange,
            (Unary.serve a ⟨received, connection⟩ answer).2.Arrives got →
            exchange (c.request callHeaders m) = .ok got →
            ∃ returned, c.call exchange callHeaders m = .ok returned ∧ returned.same reply = true ∧
              returned.traceId = returnedTrace m reply) := by
  refine ⟨by simpa [UnaryClient.request] using untracedBody_encode m, m.handed,
    Unary.intake_of_arrives hextra hcall config hrequest hfits hsize hvisible hvalue harrives,
    decide_eq_true rfl, rfl, fun connection => ⟨?_, fun pushed answer hruns => ?_⟩⟩
  · obtain ⟨pushed, hruns⟩ := Script.exists_runs_perform true (a.feed ⟨_, connection⟩)
    exact ⟨pushed, _, hruns⟩
  obtain ⟨reply, rfl⟩ := (Actor.answer_of_runs hruns).1 hrequest
  refine ⟨reply, rfl, ?_, fun hreply got exchange hgot hexchange => ?_⟩
  · show UntracedBody (Unary.respond _).body
    rw [(Unary.replies_respond reply).body]
    exact untracedBody_encode reply
  · refine ⟨(reply.withTraceId "").reread.withTraceId (returnedTrace m reply), ?_, decide_eq_true rfl, rfl⟩
    simp only [UnaryClient.call, hrequest, if_true, bind, Except.bind, hexchange]
    exact UnaryClient.answer_of_arrives hreply hgot

def localClient : UnaryClient := { url := { scheme := "http" }, extraHeaders := [("x-test", "1")] }

/-- The gateway's response to a call that its actor is handed. -/
def served (a : Actor) (received : Message) : HttpResponse :=
  (Unary.serve a ⟨received, .detached⟩ ((a.feed ⟨received, .detached⟩).perform true).2).2

theorem UnaryClient.call_served_tracedEcho :
    ∃ received returned,
      Unary.intake {} (localClient.request [] Gateway.tracedEcho) = .accepted received ∧
      received.same Gateway.tracedEcho = true ∧ received.traceId = "t" ∧
      localClient.call (fun _ => .ok (served Gateway.echoActor received)) [] Gateway.tracedEcho =
        .ok returned ∧
      returned.same Gateway.tracedReply = true ∧ returned.traceId = "t" := by
  have hcall : Message.ContentFits 126 Gateway.tracedEcho.content := ⟨.str "x", .arr_nil⟩
  have hresult : Message.ContentFits 126 Gateway.tracedReply.content := ⟨.str "x", .arr_nil⟩
  have harrives : (localClient.request [] Gateway.tracedEcho).Arrives
      (localClient.request [] Gateway.tracedEcho) :=
    ⟨rfl, rfl, rfl, by decide +kernel⟩
  obtain ⟨-, received, hintake, hsame, htrace, hfeed⟩ :=
    UnaryClient.call_served Gateway.echoActor {} rfl (Message.fits_toJson hcall)
      (by decide +kernel) (by decide +kernel) (by decide +kernel) (by decide +kernel) rfl harrives
  have hreceived := Unary.intake_of_arrives (c := localClient) (by decide +kernel) rfl {} rfl
    (Message.fits_toJson hcall) (by decide +kernel) (by decide +kernel) (by decide +kernel) harrives
  obtain rfl := Unary.Intake.accepted.inj (hintake.symm.trans hreceived)
  have hreply : ((Gateway.echoActor.feed ⟨Gateway.tracedEcho.handed, .detached⟩).perform true).2 =
      .ok (some Gateway.tracedReply) := by
    decide +kernel
  obtain ⟨pushed, hruns⟩ :=
    Script.exists_runs_perform true (Gateway.echoActor.feed ⟨Gateway.tracedEcho.handed, .detached⟩)
  obtain ⟨reply, hanswer, -, hreturned⟩ := (hfeed .detached).2 pushed _ hruns
  obtain rfl := Option.some.inj (Except.ok.inj (hanswer.symm.trans hreply))
  obtain ⟨returned, hok, hsame', htrace'⟩ := hreturned (Message.fits_toJson hresult)
    (served Gateway.echoActor Gateway.tracedEcho.handed)
    (fun _ => .ok (served Gateway.echoActor Gateway.tracedEcho.handed))
    ⟨rfl, rfl, by decide +kernel⟩ rfl
  exact ⟨_, returned, hintake, hsame, htrace, hok, hsame', htrace'.trans (by decide +kernel)⟩

/-- Arrays within arrays. -/
def nested : Nat → Json
  | 0 => .arr []
  | n + 1 => .arr [nested n]

theorem fits_nested (n : Nat) : (nested n).Fits (n + 1) := by
  induction n with
  | zero => exact .arr_nil
  | succ n ih => exact .arr (by simpa using ih)

/-- As deep as a message can be that is read. -/
def deepEcho : Message := .request (.text "x") "echo" (.keyed [("a", nested 124)])

/-- The answer with the parameters of such a message, which are one parameter in an array. -/
def deepReply : Message := .result (.text "x") (.arr [.obj [("a", nested 124)]])

def spacedReply : Message := { content := .result (.text "x") .null, traceId := " t " }

/-- An actor that answers with a complete message, whose trace identifier has blanks at its ends. -/
def spacedActor : Actor where
  entries := [("echo", { handler := fun _ _ => .done (.returned (.message spacedReply)) })]

/-- A request that can be read may have a reply that cannot. And of the trace identifier of a reply,
which may have blanks at its ends as a header value, HTTP does not carry these. -/
theorem UnaryClient.call_served_deepEcho :
    (deepEcho.isRequest = true ∧ deepEcho.toJson.Fits Json.Reader.maxNesting ∧
      (deepEcho.withTraceId "").encode.length ≤ ({} : GatewayConfig).maxBodySize ∧ deepEcho.traceId = "" ∧
      ∃ received, Unary.intake {} (localClient.request [] deepEcho) = .accepted received ∧
        ((Gateway.echoActor.feed ⟨received, .detached⟩).perform true).2 = .ok (some deepReply) ∧
        localClient.call (fun _ => .ok (served Gateway.echoActor received)) [] deepEcho =
          .error (.decode (.json ⟨.tooDeep, ⟨1, 166⟩⟩))) ∧
    ∃ received got returned,
      Unary.intake {} (localClient.request [] Gateway.tracedEcho) = .accepted received ∧
      ((spacedActor.feed ⟨received, .detached⟩).perform true).2 = .ok (some spacedReply) ∧
      (served spacedActor received).headers.getAll traceHeader = [" t "] ∧
      Headers.isVisible spacedReply.traceId = true ∧ (served spacedActor received).Arrives got ∧
      localClient.call (fun _ => .ok got) [] Gateway.tracedEcho = .ok returned ∧
      returned.traceId = "t" := by
  have intake {m : Message} (hrequest : m.isRequest = true) (hfits : m.toJson.Fits Json.Reader.maxNesting)
      (hsize : (m.withTraceId "").encode.length ≤ ({} : GatewayConfig).maxBodySize)
      (hvisible : Headers.isVisible m.traceId = true) (hvalue : Headers.fieldValue m.traceId = m.traceId)
      (htrace : (localClient.request [] m).headers.getAll traceHeader =
        ((localClient.request [] m).headers.getAll traceHeader).map Headers.fieldValue) :
      Unary.intake {} (localClient.request [] m) = .accepted m.handed :=
    Unary.intake_of_arrives (by decide +kernel) rfl {} hrequest hfits hsize hvisible hvalue
      ⟨rfl, rfl, rfl, htrace⟩
  have hparams : (Json.obj [("a", nested 124)]).Fits 126 :=
    .obj (List.pairwise_singleton _ _) (by simpa using ⟨by decide, fits_nested 124⟩)
  have hdeep : Message.ContentFits 126 deepEcho.content := ⟨.str "x", hparams⟩
  have hecho : Message.ContentFits 126 Gateway.tracedEcho.content := ⟨.str "x", .arr_nil⟩
  refine ⟨⟨rfl, Message.fits_toJson hdeep, by decide +kernel, rfl, _,
    intake rfl (Message.fits_toJson hdeep) (by decide +kernel) (by decide +kernel) (by decide +kernel)
      (by decide +kernel), by decide +kernel, by decide +kernel⟩, ?_⟩
  exact ⟨_, { served spacedActor Gateway.tracedEcho.handed with headers := [(traceHeader, "t")] },
    (spacedReply.withTraceId "").reread.withTraceId "t",
    intake rfl (Message.fits_toJson hecho) (by decide +kernel) (by decide +kernel) (by decide +kernel)
      (by decide +kernel), by decide +kernel, by decide +kernel, by decide +kernel,
    ⟨rfl, rfl, by decide +kernel⟩, by decide +kernel, rfl⟩

end Switchboard
