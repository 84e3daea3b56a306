-- SUMMARY: The status of a unary request says how far it got, and only a call reaches the actor.
import Switchboard.Gateway.Basic
import Switchboard.Proofs.Actor.Dispatch
import Switchboard.Proofs.Message.RoundTrip

/-!
# Unary requests

What a unary request comes to, however its body is cut into chunks.
`Unary.Carries` says when a request holds a call, and `Gateway.Exchange` relates a
request to what the actor saw of it and to its response, for every way in which the
handler can go. The status tells the four cases apart: nobody may send the request,
it is no POST, it holds no call, it was dispatched. Only the last one involves the
actor, and there the status is 200 whatever became of the call.
-/

namespace Switchboard

/-! ## Bodies -/

namespace Unary

theorem collect_of_le {limit : Nat} {ending : BodyEnd} {got : Octets} {chunks : List Octets}
    (h : got.length + chunks.flatten.length ≤ limit) :
    collect limit ending got chunks = collect limit ending (got ++ chunks.flatten) [] := by
  induction chunks generalizing got with
  | nil => rw [List.flatten_nil, List.append_nil]
  | cons chunk rest ih =>
    rw [List.flatten_cons, List.length_append] at h
    have hrest : (got ++ chunk).length + rest.flatten.length ≤ limit := by
      rw [List.length_append]
      omega
    rw [collect, if_neg (by omega), ih hrest, List.flatten_cons, List.append_assoc]

theorem collect_of_lt {limit : Nat} {ending : BodyEnd} {got : Octets} {chunks : List Octets}
    (hgot : got.length ≤ limit) (h : limit < got.length + chunks.flatten.length) :
    collect limit ending got chunks = .unreadable := by
  induction chunks generalizing got with
  | nil =>
    rw [List.flatten_nil, List.length_nil] at h
    omega
  | cons chunk rest ih =>
    rw [List.flatten_cons, List.length_append] at h
    rw [collect]
    split
    · rfl
    · next hchunk =>
      refine ih ?_ ?_ <;> rw [List.length_append] <;> omega

/-- What is read of a body depends on the octets, not on the chunks that bring them. -/
theorem collect_eq (limit : Nat) (ending : BodyEnd) (chunks : List Octets) :
    collect limit ending [] chunks =
      if limit < chunks.flatten.length then .unreadable else collect limit ending chunks.flatten [] := by
  split
  · next h => exact collect_of_lt (Nat.zero_le limit) (by simpa using h)
  · next h => exact collect_of_le (by simpa using h)

/-- The body of the request arrives whole, within the limit, and holds this call. -/
structure Carries (config : GatewayConfig) (r : HttpRequest) (m : Message) : Prop where
  complete : r.body.ending = .complete
  fits : r.body.chunks.flatten.length ≤ config.maxBodySize
  parsed : Message.parse r.body.chunks.flatten = .ok m
  isCall : m.isCall = true

/-- The call as it is dispatched: its own trace identifier, or else the one of the header. -/
def traced (r : HttpRequest) (m : Message) : Message :=
  m.withTraceId (if m.traceId = "" then (r.headers.text? traceHeader).getD "" else m.traceId)

/-- A document that is no call is refused for its body or for what it holds, not for the method. -/
theorem call_eq (r : HttpRequest) (body : Octets) :
    (∃ m, Message.parse body = .ok m ∧ m.isCall = true ∧
      call (r.headers.text? traceHeader) body = .ok (traced r m)) ∨
    ((∀ m, Message.parse body = .ok m → m.isCall = false) ∧
      ∃ e, call (r.headers.text? traceHeader) body = .error e ∧ e ≠ .method) := by
  cases hparse : Message.parse body with
  | error e => exact .inr ⟨fun m hm => (by cases hm), .body, by simp only [call, hparse], by decide⟩
  | ok m =>
    cases hcall : m.isCall with
    | false =>
      refine .inr ⟨fun m' hm => (by cases hm; exact hcall), .notCall, ?_, by decide⟩
      simp only [call, hparse, hcall, Bool.not_false, if_true]
    | true =>
      refine .inl ⟨m, rfl, hcall, ?_⟩
      obtain ⟨content, traceId, raw⟩ := m
      simp only [call, hparse, hcall, Bool.not_true, Bool.false_eq_true, if_false]
      cases htrace : r.headers.text? traceHeader <;> by_cases hown : traceId = "" <;>
        simp [traced, htrace, hown, Message.withTraceId]

/-- What can become of a request before it is dispatched, and when. -/
inductive Taken (config : GatewayConfig) (r : HttpRequest) : Intake → Prop where
  | method : r.method ≠ "POST" → Taken config r (.refused .method)
  | unfit {e : Refusal} : r.method = "POST" → e ≠ .method → (∀ m, ¬ Carries config r m) →
      Taken config r (.refused e)
  | waiting : r.method = "POST" → r.body.ending = .pending → Taken config r .unfinished
  | call {m : Message} : r.method = "POST" → Carries config r m → Taken config r (.accepted (traced r m))

theorem intake_taken (config : GatewayConfig) (r : HttpRequest) : Taken config r (intake config r) := by
  unfold intake
  split
  · next hmethod => exact .method hmethod
  · next hpost =>
    have hpost : r.method = "POST" := not_not.mp hpost
    rw [collect_eq]
    by_cases hsize : config.maxBodySize < r.body.chunks.flatten.length
    · rw [if_pos hsize]
      exact .unfit hpost (by decide) fun m hm => absurd hsize (Nat.not_lt.mpr hm.fits)
    · rw [if_neg hsize]
      cases hending : r.body.ending with
      | pending => exact .waiting hpost hending
      | broken => exact .unfit hpost (by decide) fun m hm => (by cases hending.symm.trans hm.complete)
      | complete =>
        simp only [collect]
        obtain ⟨m, hparse, hcall, hok⟩ | ⟨hnone, e, herror, he⟩ := call_eq r r.body.chunks.flatten
        · rw [hok]
          exact .call hpost ⟨hending, Nat.not_lt.mp hsize, hparse, hcall⟩
        · rw [herror]
          refine .unfit hpost he fun m hm => ?_
          exact absurd hm.isCall (by rw [hnone m hm.parsed]; exact Bool.false_ne_true)

/-! ## Responses -/

theorem Refusal.status_response {e : Refusal} :
    e.response.status = if e = .method then 405 else 400 := by
  cases e <;> rfl

theorem status_respond (answer : Answer) : (respond answer).status = 200 := by
  rcases answer with e | _ | reply
  · rfl
  · rfl
  · simp only [respond]
    split <;> rfl

/-- The response carries this reply: the message in its body, its trace identifier in a header. -/
structure Replies (reply : Message) (response : HttpResponse) : Prop where
  body : response.body = (reply.withTraceId "").encode
  untraced : Keyed.find? "traceid" (reply.withTraceId "").members = none
  traced : response.headers.getAll traceHeader =
    if reply.traceId ≠ "" ∧ Headers.isValue reply.traceId = true then [reply.traceId] else []

theorem find?_traceid_members (m : Message) : Keyed.find? "traceid" (m.withTraceId "").members = none := by
  obtain ⟨content, traceId, raw⟩ := m
  cases content <;> rfl

theorem replies_respond (reply : Message) : Replies reply (respond (.ok (some reply))) := by
  refine ⟨?_, find?_traceid_members reply, ?_⟩
  · simp only [respond]
    split <;> rfl
  · by_cases h : reply.traceId ≠ "" ∧ Headers.isValue reply.traceId = true
    · have hbool : (decide (reply.traceId ≠ "") && Headers.isValue reply.traceId) = true := by
        simpa using h
      rw [if_pos h]
      simp only [respond]
      rw [if_pos hbool]
      rfl
    · have hbool : ¬ (decide (reply.traceId ≠ "") && Headers.isValue reply.traceId) = true := by
        simpa using h
      rw [if_neg h]
      simp only [respond]
      rw [if_neg hbool]
      rfl

/-- An answer without a reply is not told from any other. -/
theorem respond_of_silent {answer : Answer} (h : ∀ reply, answer ≠ .ok (some reply)) :
    respond answer = {} := by
  rcases answer with e | _ | reply
  · rfl
  · rfl
  · exact absurd rfl (h reply)

end Unary

/-! ## Exchanges -/

namespace Gateway

/-- A unary request, what the actor saw of it, and its response. The handler of a call can go in any
way in which its script runs. -/
inductive Exchange (g : Gateway) (streamId : String) (remote : Option SocketAddress) (r : HttpRequest) :
    List Unary.Event → HttpResponse → Prop where
  | answered {response : HttpResponse} :
      g.handle streamId remote r = .answered response → Exchange g streamId remote r [] response
  | served {c : Call} {pushed : List Message} {answer : Answer} :
      g.handle streamId remote r = .call c → (g.actor.feed c).Runs pushed answer →
      Exchange g streamId remote r (Unary.serve g.actor c answer).1 (Unary.serve g.actor c answer).2

/-- The connection of a unary request. -/
def unaryConnection (streamId : String) (remote : Option SocketAddress) (r : HttpRequest)
    (identity : Option String) : Connection :=
  { transport := .http, streamId, remote, headers := r.headers, identity }

variable {g : Gateway} {streamId : String} {remote : Option SocketAddress} {r : HttpRequest}

theorem handle_of_refused (h : g.authenticate r remote = none) :
    g.handle streamId remote r = .answered unauthorized := by
  simp only [handle, h]

theorem handle_of_admitted {identity : Option String} (hroute : Route.of r = .unary)
    (h : g.authenticate r remote = some identity) :
    g.handle streamId remote r = g.serveUnary r (unaryConnection streamId remote r identity) := by
  simp only [handle, h, hroute]
  rfl

/-- What serves a unary request does not depend on the actor. -/
theorem handle_withActor (g : Gateway) (actor : Actor) (hroute : Route.of r = .unary) :
    { g with actor }.handle streamId remote r = g.handle streamId remote r := by
  unfold handle
  rw [hroute]
  rfl

/-- What serves a unary request, and when. -/
inductive UnaryService (g : Gateway) (streamId : String) (remote : Option SocketAddress) (r : HttpRequest) :
    Service → Prop where
  | unauthorized : g.authenticate r remote = none → UnaryService g streamId remote r (.answered unauthorized)
  | method {identity : Option String} : g.authenticate r remote = some identity → r.method ≠ "POST" →
      UnaryService g streamId remote r (.answered Unary.Refusal.method.response)
  | unfit {identity : Option String} {e : Unary.Refusal} : g.authenticate r remote = some identity →
      r.method = "POST" → e ≠ .method → (∀ m, ¬ Unary.Carries g.config r m) →
      UnaryService g streamId remote r (.answered e.response)
  | waiting : r.body.ending = .pending → UnaryService g streamId remote r .unfinished
  | call {identity : Option String} {m : Message} : g.authenticate r remote = some identity →
      r.method = "POST" → Unary.Carries g.config r m →
      UnaryService g streamId remote r (.call ⟨Unary.traced r m, unaryConnection streamId remote r identity⟩)

theorem unaryService_handle (g : Gateway) (streamId : String) (remote : Option SocketAddress)
    (hroute : Route.of r = .unary) : UnaryService g streamId remote r (g.handle streamId remote r) := by
  cases hauth : g.authenticate r remote with
  | none =>
    rw [handle_of_refused hauth]
    exact .unauthorized hauth
  | some identity =>
    rw [handle_of_admitted hroute hauth, serveUnary]
    have htaken := Unary.intake_taken g.config r
    generalize Unary.intake g.config r = intake at htaken
    cases htaken with
    | method hmethod => exact .method hauth hmethod
    | unfit hpost he hnone => exact .unfit hauth hpost he hnone
    | waiting hpost hpending => exact .waiting hpending
    | call hpost hcarries => exact .call hauth hpost hcarries

theorem exists_exchange (g : Gateway) (streamId : String) (remote : Option SocketAddress)
    (hroute : Route.of r = .unary) (hending : r.body.ending ≠ .pending) :
    ∃ events response, g.Exchange streamId remote r events response := by
  have hservice := g.unaryService_handle streamId remote hroute
  generalize hhandle : g.handle streamId remote r = service at hservice
  cases hservice with
  | unauthorized => exact ⟨_, _, .answered hhandle⟩
  | method => exact ⟨_, _, .answered hhandle⟩
  | unfit => exact ⟨_, _, .answered hhandle⟩
  | waiting hpending => exact absurd hpending hending
  | call =>
    obtain ⟨pushed, hruns⟩ := Script.exists_runs_perform true (g.actor.feed _)
    exact ⟨_, _, .served hhandle hruns⟩

/-- A unary request is answered once its body has ended. A request that nobody may send gets 401;
otherwise one that is no POST gets 405; otherwise one whose body holds a call gets 200, and one
whose body does not gets 400. Short of 200 the actor has no part in the response and sees nothing of
the request. With 200 it has dispatched the call, once, and then noted that the connection is
closed; the response carries the reply to a request, however its handler went, and nothing for a
notify. -/
theorem status_of_exchange (g : Gateway) (streamId : String) (remote : Option SocketAddress)
    {r : HttpRequest} (hroute : Route.of r = .unary) :
    (r.body.ending ≠ .pending → ∃ events response, g.Exchange streamId remote r events response) ∧
    ∀ events response, g.Exchange streamId remote r events response →
      (response.status = 401 ↔ g.authenticate r remote = none) ∧
      (response.status = 405 ↔ g.authenticate r remote ≠ none ∧ r.method ≠ "POST") ∧
      (response.status = 400 ↔
        g.authenticate r remote ≠ none ∧ r.method = "POST" ∧ ∀ m, ¬ Unary.Carries g.config r m) ∧
      (response.status = 200 ↔
        g.authenticate r remote ≠ none ∧ r.method = "POST" ∧ ∃ m, Unary.Carries g.config r m) ∧
      (response.status ≠ 200 → events = [] ∧
        ∀ actor, { g with actor }.handle streamId remote r = .answered response) ∧
      (response.status = 200 → ∃ m identity pushed answer,
        Unary.Carries g.config r m ∧ g.authenticate r remote = some identity ∧
        events = [.dispatched (Unary.traced r m),
          .closed (g.actor.close (unaryConnection streamId remote r identity))] ∧
        (g.actor.feed ⟨Unary.traced r m, unaryConnection streamId remote r identity⟩).Runs pushed answer ∧
        (m.isRequest = true → ∃ reply, answer = .ok (some reply) ∧ Unary.Replies reply response) ∧
        (m.isNotify = true → response.body = [])) := by
  refine ⟨g.exists_exchange streamId remote hroute, ?_⟩
  intro events response hexchange
  have hservice := g.unaryService_handle streamId remote hroute
  cases hexchange with
  | answered hhandle =>
    have hactor : ∀ actor, { g with actor }.handle streamId remote r = .answered response := fun actor =>
      (g.handle_withActor actor hroute).trans hhandle
    rw [hhandle] at hservice
    cases hservice with
    | unauthorized hauth =>
      have hstatus : unauthorized.status = 401 := rfl
      simp [hstatus, hauth, hactor]
    | method hauth hmethod =>
      have hstatus : Unary.Refusal.method.response.status = 405 := rfl
      simp [hstatus, hauth, hmethod, hactor]
    | unfit hauth hpost he hnone =>
      have hstatus := Unary.Refusal.status_response.trans (if_neg he)
      simp [hstatus, hauth, hpost, hnone, hactor]
  | @served c pushed answer hhandle hruns =>
    rw [hhandle] at hservice
    cases hservice with
    | @call identity m hauth hpost hcarries =>
      have hstatus : (Unary.respond answer).status = 200 := Unary.status_respond answer
      have hfit : ∃ m, Unary.Carries g.config r m := ⟨m, hcarries⟩
      refine ⟨?_, ?_, ?_, ?_, ?_, ?_⟩
      · simp [Unary.serve, hstatus, hauth]
      · simp [Unary.serve, hstatus, hpost]
      · simp [Unary.serve, hstatus, hfit]
      · simp [Unary.serve, hstatus, hauth, hpost, hfit]
      · exact fun h => absurd hstatus h
      · intro _
        obtain ⟨hanswered, hsilent⟩ := Actor.answer_of_runs hruns
        refine ⟨m, identity, pushed, answer, hcarries, hauth, rfl, hruns, ?_, ?_⟩
        · intro hrequest
          obtain ⟨reply, rfl⟩ := hanswered hrequest
          exact ⟨reply, rfl, Unary.replies_respond reply⟩
        · intro hnotify
          have hnone : m.isRequest = false := by
            unfold Message.isNotify at hnotify
            unfold Message.isRequest
            split at hnotify <;> simp_all
          show (Unary.respond answer).body = []
          rw [Unary.respond_of_silent (hsilent hnone)]

/-- An actor with one method, which answers with the trace identifier of the call. -/
def tracingActor : Actor where
  entries := [("a", { handler := fun c _ => .done (.returned (.value (.str c.traceId))) })]
  onClose := some fun c => c.transport.name

/-- A request in two chunks, with its trace identifier in the header. -/
def chunkedPost : HttpRequest where
  headers := [("x-trace-id", "t")]
  body.chunks := [Text.octets "\x7b\"id\":1,\"met", Text.octets "hod\":\"a\"\x7d"]

theorem status_of_exchange_chunkedPost :
    Route.of chunkedPost = .unary ∧ ∃ events response,
      Exchange { actor := tracingActor } "" none chunkedPost events response ∧ response.status = 200 ∧
        (∃ m, m.traceId = "t" ∧ events = [.dispatched m, .closed ["http"]]) ∧
        response.body = (Message.result (.number ⟨"1"⟩) (.str "t")).encode ∧
        response.headers.getAll traceHeader = ["t"] := by
  have hroute : Route.of chunkedPost = .unary := by decide +kernel
  obtain ⟨hexists, hevery⟩ := status_of_exchange { actor := tracingActor } "" none hroute
  obtain ⟨events, response, hexchange⟩ := hexists (by decide)
  obtain ⟨-, -, -, hstatus, -, hserved⟩ := hevery events response hexchange
  let m : Message :=
    { content := .request (.number ⟨"1"⟩) "a" .empty
      raw := some [("id", .num ⟨"1"⟩), ("method", .str "a")] }
  have hm : Message.parse chunkedPost.body.chunks.flatten = .ok m := by decide +kernel
  have htraced : Unary.traced chunkedPost m = m.withTraceId "t" := by decide +kernel
  have hok : response.status = 200 := hstatus.mpr ⟨by decide, rfl, m, rfl, by decide +kernel, hm, rfl⟩
  obtain ⟨m', identity, pushed, answer, hcarries, -, hevents, hruns, hreply, -⟩ := hserved hok
  obtain rfl : m = m' := Except.ok.inj (hm.symm.trans hcarries.parsed)
  rw [htraced] at hevents hruns
  -- The handler runs in one step, so there is one answer.
  obtain ⟨-, rfl⟩ := Script.runs_done_iff.mp hruns
  obtain ⟨reply, hanswer, replies⟩ := hreply rfl
  cases hanswer
  have hvalue : Headers.isValue "t" = true := by decide +kernel
  have hheader := replies.traced.trans (if_pos ⟨show "t" ≠ "" by decide, hvalue⟩)
  exact ⟨hroute, events, response, hexchange, hok, ⟨_, rfl, hevents⟩, replies.body, hheader⟩

end Gateway

end Switchboard
