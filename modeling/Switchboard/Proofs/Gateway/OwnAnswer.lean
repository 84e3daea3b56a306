-- SUMMARY: When the message that a unary call returns is the answer to its request.
import Switchboard.Proofs.Gateway.Composition

/-!
# Own answers

A unary call returns the message in the body of the response, whatever message it is. So it
returns an answer to its request, a result or an error under the same identifier, if the
server has put one there, and only then. A gateway does so however the handler ends, unless the
handler hands over a complete message: this the gateway passes on as it is, and so does the
client (`UnaryClient.call_returns_foreign_message`).
-/

namespace Switchboard

/-- A result or an error under the identifier of the request. -/
def Message.AnswersTo (reply m : Message) : Prop := reply.isAnswer = true ∧ reply.id? = m.id?

instance (reply m : Message) : Decidable (reply.AnswersTo m) := inferInstanceAs (Decidable (_ ∧ _))

namespace Actor

/-- A handler that returns a complete message for this one returns an answer to it. -/
def AnswersFor (a : Actor) (m : Message) : Prop :=
  ∀ source h connection pushed reply, a.Claims m source h →
    (h ⟨m, connection⟩ m.positional).Runs pushed (.returned (.message reply)) → reply.AnswersTo m

variable {a : Actor} {m reply : Message} {id : RequestId} {connection : Connection}
  {pushed : List Message}

theorem Answers.answersTo {o : Outcome Reply} (h : Answers m id o reply) (hid : m.id? = some id)
    (complete : ∀ reply, o = .returned (.message reply) → reply.AnswersTo m) : reply.AnswersTo m := by
  cases h with
  | message => exact complete reply rfl
  | value | rpc | other | crashed => exact ⟨rfl, hid.symm⟩

/-- Whatever handlers do otherwise, the answer to a request is one. -/
theorem answersTo_of_runs (hrequest : m.isRequest = true) (own : a.AnswersFor m)
    (h : (a.feed ⟨m, connection⟩).Runs pushed (.ok (some reply))) : reply.AnswersTo m := by
  obtain ⟨id, method, params, hcontent⟩ : ∃ id method params, m.content = .request id method params := by
    cases hm : m.content with
    | request id method params => exact ⟨id, method, params, rfl⟩
    | _ => simp [Message.isRequest, hm] at hrequest
  have hid : m.id? = some id := by simp only [Message.id?, hcontent]
  -- A request that no handler gets is refused under its identifier.
  have refused {e : RpcError} (hreply : some (answerWith m (.error id e)) = some reply) :
      reply.AnswersTo m := by
    cases hreply
    exact ⟨rfl, hid.symm⟩
  obtain ⟨source, handler, hclaims, -, htarget, -⟩ | ⟨f, -, htarget, -⟩ | ⟨-, htarget, -⟩ :=
    a.target_marked (fun _ => m) m
  · simp only [feed, htarget] at h
    obtain ⟨o, ho, hanswer⟩ := h.of_map
    obtain ⟨reply', hreply', hanswers⟩ := conclude_of_request hcontent o
    rw [hreply'] at hanswer
    cases hanswer
    apply hanswers.answersTo hid
    rintro reply' rfl
    exact own source handler connection pushed reply' hclaims ho
  · simp only [feed, htarget] at h
    obtain ⟨-, hanswer⟩ := Script.runs_done_iff.mp h
    simp only [reject, refuse?_of_request hcontent] at hanswer
    exact refused (Except.ok.inj hanswer).symm
  · simp only [feed, htarget] at h
    obtain ⟨-, hanswer⟩ := Script.runs_done_iff.mp h
    rw [refuse?_of_request hcontent] at hanswer
    exact refused (Except.ok.inj hanswer).symm

end Actor

variable {c : UnaryClient} {callHeaders : Headers} {m r received reply : Message} {a : Actor}
  {got : HttpResponse} {exchange : HttpRequest → Except ClientError HttpResponse}

namespace UnaryClient

/-- A gateway that has accepted the request has received it as it was sent. -/
theorem content_of_accepted {config : GatewayConfig} {arrived : HttpRequest}
    (hfits : m.toJson.Fits Json.Reader.maxNesting) (harrives : (c.request callHeaders m).Arrives arrived)
    (haccepted : Unary.intake config arrived = .accepted received) : received.content = m.content := by
  have hbody : arrived.body.chunks.flatten = (m.withTraceId "").encode :=
    harrives.octets.trans (List.append_nil _)
  have htaken := Unary.intake_taken config arrived
  rw [haccepted] at htaken
  cases htaken with
  | call _ hcarries =>
    have hparsed := hcarries.parsed
    rw [hbody, Message.parse_encode (Message.fits_untraced hfits)] at hparsed
    cases hparsed
    rfl

/-- The response is that of a gateway which has accepted the request, and whose actor has answered it
with this reply. -/
structure Served (c : UnaryClient) (callHeaders : Headers) (m : Message) (a : Actor)
    (received reply : Message) (got : HttpResponse) : Prop where
  accepted : ∃ config arrived, (c.request callHeaders m).Arrives arrived ∧
    Unary.intake config arrived = .accepted received
  answered : ∃ connection pushed, (a.feed ⟨received, connection⟩).Runs pushed (.ok (some reply))
  returned : (Unary.respond (.ok (some reply))).Arrives got

/-- What a call returns is what the body says. -/
theorem said_of_call (h : c.call exchange callHeaders m = .ok r) :
    m.isRequest = true ∧ ∃ got said, exchange (c.request callHeaders m) = .ok got ∧ got.status = 200 ∧
      Message.parse got.body = .ok said ∧ r.content = said.content := by
  unfold call at h
  split at h
  · next hrequest =>
    cases hexchange : exchange (c.request callHeaders m) with
    | error e =>
      rw [hexchange] at h
      cases h
    | ok got =>
      rw [hexchange] at h
      simp only [bind, Except.bind, answer, accepted] at h
      split at h
      · cases h
      · next got' haccepted =>
        split at haccepted
        · next hstatus =>
          cases haccepted
          split at h
          · next said hparse =>
            cases h
            exact ⟨hrequest, got, said, rfl, hstatus, hparse, rfl⟩
          · cases h
        · cases haccepted
  · cases h

theorem answersTo_congr {said : Message} (h : r.content = said.content)
    (hm : received.content = m.content) : r.AnswersTo m ↔ said.AnswersTo received := by
  simp only [Message.AnswersTo, Message.isAnswer, Message.isResult, Message.isError, Message.id?, h, hm]

/-- What the client reads in the response of a gateway is the reply of its actor. -/
theorem content_of_served {said : Message} (hfits : reply.toJson.Fits Json.Reader.maxNesting)
    (harrives : (Unary.respond (.ok (some reply))).Arrives got)
    (hparse : Message.parse got.body = .ok said) : said.content = reply.content := by
  rw [harrives.octets, (Unary.replies_respond reply).body,
    Message.parse_encode (Message.fits_untraced hfits)] at hparse
  cases hparse
  rfl

/-- A unary call that returns a message returns the one in the body of a response with status 200. It is
a result or an error under the identifier of the request just when the server has put such a message
there. A gateway has, if its handler does not hand over a complete message that is none, and if the
request and the reply are within the limits of the codec. -/
theorem call_returns_own_answer (h : c.call exchange callHeaders m = .ok r) :
    ∃ got said, exchange (c.request callHeaders m) = .ok got ∧ got.status = 200 ∧
      Message.parse got.body = .ok said ∧ r.content = said.content ∧
      (r.AnswersTo m ↔ said.AnswersTo m) ∧
      ∀ a received reply, c.Served callHeaders m a received reply got →
        m.toJson.Fits Json.Reader.maxNesting → reply.toJson.Fits Json.Reader.maxNesting →
        a.AnswersFor received → r.AnswersTo m := by
  obtain ⟨hrequest, got, said, hexchange, hstatus, hparse, hcontent⟩ := said_of_call h
  refine ⟨got, said, hexchange, hstatus, hparse, hcontent, answersTo_congr hcontent rfl, ?_⟩
  rintro a received reply ⟨⟨config, arrived, harrives, haccepted⟩, ⟨connection, pushed, hruns⟩, hreturned⟩
    hfits hreply own
  have hreceived := content_of_accepted hfits harrives haccepted
  have hrequest' : received.isRequest = true := by
    simpa only [Message.isRequest, hreceived] using hrequest
  have hreplied : r.content = reply.content :=
    hcontent.trans (content_of_served hreply hreturned hparse)
  exact (answersTo_congr hreplied hreceived).mpr (Actor.answersTo_of_runs hrequest' own hruns)

theorem echoActor_answersFor (m : Message) : Gateway.echoActor.AnswersFor m := by
  intro source h connection pushed reply hclaims hruns
  cases hclaims with
  | method _ hfind =>
    obtain ⟨-, rfl⟩ := by simpa [Gateway.echoActor, Keyed.find?] using hfind
    cases (Script.runs_done_iff.mp hruns).2
  | missing _ hmissing => cases hmissing

/-- A request that its actor answers with this reply, over an HTTP that changes nothing. -/
theorem served_of_perform (hrequest : m.isRequest = true) (hfits : m.toJson.Fits Json.Reader.maxNesting)
    (hsize : (m.withTraceId "").encode.length ≤ ({} : GatewayConfig).maxBodySize)
    (hvisible : Headers.isVisible m.traceId = true) (hvalue : Headers.fieldValue m.traceId = m.traceId)
    (hextra : c.extraHeaders.getAll traceHeader = [])
    (hcarried : (c.request [] m).headers.getAll traceHeader =
      ((c.request [] m).headers.getAll traceHeader).map Headers.fieldValue)
    (hreply : ((a.feed ⟨m.handed, .detached⟩).perform true).2 = .ok (some reply))
    (hreturned : (Unary.respond (.ok (some reply))).headers.getAll traceHeader =
      ((Unary.respond (.ok (some reply))).headers.getAll traceHeader).map Headers.fieldValue) :
    c.Served [] m a m.handed reply (Unary.respond (.ok (some reply))) := by
  have harrives : (c.request [] m).Arrives (c.request [] m) := ⟨rfl, rfl, rfl, hcarried⟩
  refine ⟨⟨{}, c.request [] m, harrives, ?_⟩, ⟨.detached, ?_⟩, ⟨rfl, rfl, hreturned⟩⟩
  · exact Unary.intake_of_arrives hextra rfl {} hrequest hfits hsize hvisible hvalue harrives
  · rw [← hreply]
    exact Script.exists_runs_perform true _

theorem call_returns_own_answer_tracedEcho :
    ∃ got r, localClient.Served [] Gateway.tracedEcho Gateway.echoActor Gateway.tracedEcho.handed
        Gateway.tracedReply got ∧
      localClient.call (fun _ => .ok got) [] Gateway.tracedEcho = .ok r ∧
      r.AnswersTo Gateway.tracedEcho := by
  have hcall : Message.ContentFits 126 Gateway.tracedEcho.content := ⟨.str "x", .arr_nil⟩
  have hresult : Message.ContentFits 126 Gateway.tracedReply.content := ⟨.str "x", .arr_nil⟩
  have hserved : localClient.Served [] Gateway.tracedEcho Gateway.echoActor Gateway.tracedEcho.handed
      Gateway.tracedReply (Unary.respond (.ok (some Gateway.tracedReply))) :=
    served_of_perform rfl (Message.fits_toJson hcall) (by decide +kernel) (by decide +kernel)
      (by decide +kernel) (by decide +kernel) (by decide +kernel) (by decide +kernel) (by decide +kernel)
  have hreturns : localClient.call (fun _ => .ok (Unary.respond (.ok (some Gateway.tracedReply)))) []
      Gateway.tracedEcho = .ok ((Gateway.tracedReply.withTraceId "").reread.withTraceId "t") := by
    decide +kernel
  obtain ⟨got, _, hgot, -, -, -, -, own⟩ := call_returns_own_answer hreturns
  cases hgot
  exact ⟨_, _, hserved, hreturns, own _ _ _ hserved (Message.fits_toJson hcall)
    (Message.fits_toJson hresult) (echoActor_answersFor _)⟩

/-- Hands over complete messages: a notify, and a result under an identifier of its own. -/
def relayActor : Actor where
  entries := [("notify", { handler := fun _ _ => .done (.returned (.message (.notify "other" .empty))) }),
    ("stale", { handler := fun _ _ => .done (.returned (.message (.result (.text "y") .null))) })]

/-- What a handler hands over the caller gets, be it no answer at all or one to another request. -/
theorem call_returns_foreign_message :
    (∃ got r, localClient.Served [] (.request (.text "x") "notify" .empty) relayActor
        (Message.request (.text "x") "notify" .empty).handed (.notify "other" .empty) got ∧
      localClient.call (fun _ => .ok got) [] (.request (.text "x") "notify" .empty) = .ok r ∧
      r.isNotify = true) ∧
    ∃ got r, localClient.Served [] (.request (.text "x") "stale" .empty) relayActor
        (Message.request (.text "x") "stale" .empty).handed (.result (.text "y") .null) got ∧
      localClient.call (fun _ => .ok got) [] (.request (.text "x") "stale" .empty) = .ok r ∧
      r.id? = some (.text "y") := by
  have hfits (method : String) :
      (Message.request (.text "x") method .empty).toJson.Fits Json.Reader.maxNesting := by
    have hcontent : Message.ContentFits 126 (.request (.text "x") method .empty) := ⟨.str "x", .arr_nil⟩
    exact Message.fits_toJson hcontent
  constructor
  · refine ⟨_, (Message.notify "other" .empty).reread,
      served_of_perform rfl (hfits _) ?_ ?_ ?_ ?_ ?_ ?_ ?_, ?_, rfl⟩
    all_goals decide +kernel
  · refine ⟨_, (Message.result (.text "y") .null).reread,
      served_of_perform rfl (hfits _) ?_ ?_ ?_ ?_ ?_ ?_ ?_, ?_, rfl⟩
    all_goals decide +kernel

end UnaryClient

end Switchboard
