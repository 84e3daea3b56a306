-- SUMMARY: The four transports dispatch the same call and bring back the same response.
import Switchboard.Proofs.Actor.Oblivious
import Switchboard.Proofs.Gateway.Unary
import Switchboard.Proofs.Session.Reading

/-!
# Parity of the transports

A call reaches the actor as itself on every transport that carries it: as the body of a
unary request (`Gateway.handle_post`) and in the frame of a session of each kind
(`Session.Kind.found_of_sends`). An oblivious actor has one response to it, or none,
whatever brought it. `Gateway.transports_agree` puts this together: the same message is
dispatched everywhere, and the peer reads the same response from each transport.
-/

namespace Switchboard

open Session (Kind Setup State Action transcript delivered given written frames greetings opening)

/-! ## Unary requests -/

namespace Message

theorem fits_untraced {m : Message} (h : m.toJson.Fits Json.Reader.maxNesting) :
    (m.withTraceId "").toJson.Fits Json.Reader.maxNesting := by
  obtain ⟨content, traceId, raw⟩ := m
  cases content with
  | request | notify | result | error => exact h.sublist (List.sublist_append_left _ _)

end Message

/-- A request that posts this message, in any chunks, and names no trace identifier. -/
structure Unary.Posts (m : Message) (r : HttpRequest) : Prop where
  route : Route.of r = .unary
  method : r.method = "POST"
  untraced : r.headers.text? traceHeader = none
  complete : r.body.ending = .complete
  octets : r.body.chunks.flatten = m.encode

namespace Gateway

variable {g : Gateway} {m : Message} {streamId : String} {remote : Option SocketAddress} {r : HttpRequest}
  {identity : Option String}

/-- A posted call is dispatched as it is read from its own text. -/
theorem handle_post (hr : Unary.Posts m r) (hauth : g.authenticate r remote = some identity)
    (hcall : m.isCall = true) (hfits : m.toJson.Fits Json.Reader.maxNesting)
    (hsize : m.encode.length ≤ g.config.maxBodySize) :
    g.handle streamId remote r = .call ⟨m.reread, unaryConnection streamId remote r identity⟩ := by
  have hparse : Message.parse r.body.chunks.flatten = .ok m.reread := by
    rw [hr.octets]
    exact Message.parse_encode hfits
  have hcarries : Unary.Carries g.config r m.reread :=
    ⟨hr.complete, by rwa [hr.octets], hparse, hcall⟩
  have hservice := g.unaryService_handle streamId remote hr.route
  generalize g.handle streamId remote r = service at hservice
  cases hservice with
  | unauthorized hnone => cases hnone.symm.trans hauth
  | method _ hmethod => exact absurd hr.method hmethod
  | unfit _ _ _ hnone => exact absurd hcarries (hnone m.reread)
  | waiting hpending => cases hpending.symm.trans hr.complete
  | @call identity' m' hauth' _ hcarries' =>
    obtain rfl := Option.some.inj (hauth'.symm.trans hauth)
    obtain rfl := Except.ok.inj (hcarries'.parsed.symm.trans hparse)
    have hsame : Unary.traced r m.reread = m.reread := by
      unfold Unary.traced
      rw [hr.untraced]
      split
      · next hempty => rw [← hempty]; rfl
      · rfl
    rw [hsame]

/-- What a posted call comes to: it is dispatched, once, and the response carries the one reply that
the actor has for it, if any. -/
theorem exchange_post (hactor : g.actor.Oblivious) (hr : Unary.Posts m r)
    (hauth : g.authenticate r remote = some identity) (hcall : m.isCall = true)
    (hfits : m.toJson.Fits Json.Reader.maxNesting) (hsize : m.encode.length ≤ g.config.maxBodySize)
    {events : List Unary.Event} {response : HttpResponse} (h : g.Exchange streamId remote r events response) :
    events = [.dispatched m.reread, .closed (g.actor.close (unaryConnection streamId remote r identity))] ∧
    (g.actor.response? m.reread = none → response.body = []) ∧
    ∀ reply, g.actor.response? m.reread = some reply → Unary.Replies reply response := by
  have hhandle : g.handle streamId remote r = .call ⟨m.reread, unaryConnection streamId remote r identity⟩ :=
    handle_post hr hauth hcall hfits hsize
  cases h with
  | answered hanswered => cases hanswered.symm.trans hhandle
  | @served c pushed answer hserved hruns =>
    cases hserved.symm.trans hhandle
    have hresponse := hactor.response?_of_runs hruns
    refine ⟨rfl, ?_, ?_⟩
    · intro hnone
      have hsilent : ∀ reply, answer ≠ .ok (some reply) := by
        rintro reply rfl
        cases hresponse.symm.trans hnone
      show (Unary.respond answer).body = []
      rw [Unary.respond_of_silent hsilent]
    · intro reply hreply
      have hanswer : answer = .ok (some reply) := by
        rw [hresponse] at hreply
        rcases answer with e | reply'
        · cases hreply
        · exact congrArg Except.ok hreply
      rw [hanswer]
      exact Unary.replies_respond reply

/-! ## Sessions -/

variable {kind : Kind} {c : Connection} {b : Body} {as : List Action} {t : State} {es : List Session.Event}

/-- A session whose peer sends a message and reads on serves this message and nothing else. -/
theorem serves_of_sends (hm : m.Within g.config.maxFrameSize)
    (hrun : Session.run (g.setup kind c) (g.openSession kind c b) as = some (t, es))
    (hcalm : ∀ a ∈ as, a.disturbs = false) (hsends : kind.Sends m (as.foldl delivered (b.chunks, b.ending))) :
    Session.Serves (g.setup kind c) m.reread t es := by
  have hfound := Session.Kind.found_of_sends hm hsends
  have hends : (as.foldl delivered (b.chunks, b.ending)).2 = .pending ∨
      ∃ framing, kind.framing? = some framing ∧ (as.foldl delivered (b.chunks, b.ending)).2 = .complete := by
    cases kind with
    | webSocket => exact .inl (congrArg Prod.snd hsends)
    | lines greeting => exact hsends.2.imp_right fun hcomplete => ⟨.lines, rfl, hcomplete⟩
    | grpc => exact hsends.2.imp_right fun hcomplete => ⟨.grpc, rfl, hcomplete⟩
  rcases hends with hpending | ⟨framing, hframing, hcomplete⟩
  · exact Session.serves_of_pending (g.capacity_pos kind c) hrun hcalm hpending hfound
  · exact Session.serves_of_complete (g.capacity_pos kind c) hframing hrun hcalm hcomplete hfound

theorem responses_eq (hactor : g.actor.Oblivious) (kind : Kind) (c : Connection) (m : Message) :
    Session.responses (g.setup kind c) m = (g.actor.response? m).toList :=
  hactor.outgoing_feed m _

/-- A call is served alike on all transports, by an actor that does not look at the connection, if
all of them carry the call and its response. The actor has a response to a request and none to a
notify. A unary request that posts the call dispatches it, once, and its response carries the reply,
with the trace identifier in the header if it can stand there, and not in the body; or the body is
empty. A session on which the peer sends the call, in any chunks, and which nobody disturbs, has
dispatched the same message or nothing so far and written nothing else than leads to its transcript;
and by itself it gets to where the message is dispatched and the peer reads the same reply, with its
trace identifier, after the greeting; or nothing but the greeting. -/
theorem transports_agree (g : Gateway) (hactor : g.actor.Oblivious) {m : Message} {peerLimit : Nat}
    (hcall : m.isCall = true) (hm : m.Within g.config.maxFrameSize)
    (hsize : m.encode.length ≤ g.config.maxBodySize)
    (hreply : ∀ reply, g.actor.response? m.reread = some reply → reply.Within peerLimit) :
    (g.actor.response? m.reread).isSome = m.isRequest ∧
    (∀ (streamId : String) (remote : Option SocketAddress) (r : HttpRequest) (identity : Option String),
      Unary.Posts m r → g.authenticate r remote = some identity →
      (∃ events response, g.Exchange streamId remote r events response) ∧
      ∀ events response, g.Exchange streamId remote r events response →
        events = [.dispatched m.reread, .closed (g.actor.close (unaryConnection streamId remote r identity))] ∧
        (g.actor.response? m.reread = none → response.body = []) ∧
        ∀ reply, g.actor.response? m.reread = some reply → Unary.Replies reply response ∧
          ∃ read, Message.parse response.body = .ok read ∧ read.same reply.reread = true ∧ read.traceId = "") ∧
    (∀ (kind : Kind) (c : Connection) (b : Body) (as : List Action) (t : State) (es : List Session.Event),
      Session.run (g.setup kind c) (g.openSession kind c b) as = some (t, es) →
      (∀ a ∈ as, a.disturbs = false) → kind.Sends m (as.foldl delivered (b.chunks, b.ending)) →
      given es <+: [m.reread] ∧ written es <+: transcript (g.setup kind c) [m.reread] ∧
      ∃ bs t' fs, (∀ a ∈ bs, a.isOwn = true) ∧ Session.run (g.setup kind c) t bs = some (t', fs) ∧
        given (es ++ fs) = [m.reread] ∧
        (g.actor.response? m.reread = none → written (es ++ fs) = opening kind) ∧
        ∀ reply, g.actor.response? m.reread = some reply → ∀ ending, ending ≠ .broken →
          kind.found peerLimit (frames (es ++ fs), ending) = greetings kind ++ [some reply.reread]) := by
  refine ⟨g.actor.isSome_response? m.reread, ?_, ?_⟩
  · intro streamId remote r identity hr hauth
    have hended : r.body.ending ≠ .pending := by
      rw [hr.complete]
      exact BodyEnd.noConfusion
    refine ⟨g.exists_exchange streamId remote hr.route hended, fun events response hexchange => ?_⟩
    obtain ⟨hevents, hsilent, hreplies⟩ := exchange_post hactor hr hauth hcall hm.fits hsize hexchange
    refine ⟨hevents, hsilent, fun reply hresponse => ⟨hreplies reply hresponse, ?_⟩⟩
    refine ⟨(reply.withTraceId "").reread, ?_, decide_eq_true rfl, rfl⟩
    rw [(hreplies reply hresponse).body]
    exact Message.parse_encode (Message.fits_untraced (hreply reply hresponse).fits)
  · intro kind c b as t es hrun hcalm hsends
    obtain ⟨hgiven, hwritten, bs, t', fs, hown, hrun', hall, htranscript⟩ := serves_of_sends hm hrun hcalm hsends
    have hresponses := responses_eq hactor kind c m.reread
    refine ⟨hgiven, hwritten, bs, t', fs, hown, hrun', hall, fun hnone => ?_, fun reply hsome ending hending => ?_⟩
    · rw [hnone] at hresponses
      rw [htranscript]
      exact Session.written_of_silent hresponses
    · rw [hsome] at hresponses
      exact Session.found_of_transcript hresponses (hreply reply hsome) htranscript hending

/-- An actor with one method, which answers with its parameters. -/
def echoActor : Actor where
  entries := [("echo", { handler := fun _ params => .done (.returned (.value (.arr params))) })]

def tracedEcho : Message := { content := .request (.text "x") "echo" .empty, traceId := "t" }

def tracedReply : Message := { content := .result (.text "x") (.arr []), traceId := "t" }

def echoPost : HttpRequest := { body := { chunks := [tracedEcho.encode] } }

theorem transports_agree_tracedEcho :
    (∃ events response, Exchange { actor := echoActor } "" none echoPost events response ∧
      events = [.dispatched tracedEcho.reread, .closed []] ∧
      response.headers.getAll traceHeader = ["t"] ∧
      ∃ read, Message.parse response.body = .ok read ∧ read.same tracedReply.reread = true) ∧
    ∀ kind : Kind, ∃ frame, kind.encode tracedEcho = .ok frame ∧ ∃ as t es,
      Session.run (Gateway.setup { actor := echoActor } kind .detached)
        (Gateway.openSession { actor := echoActor } kind .detached { chunks := [frame], ending := .pending }) as =
          some (t, es) ∧
      given es = [tracedEcho.reread] ∧
      kind.found Framing.defaultLimit (frames es, .pending) = greetings kind ++ [some tracedReply.reread] := by
  have hactor : echoActor.Oblivious := by
    refine ⟨fun e he => ?_, fun h hmissing => by cases hmissing⟩
    rw [List.mem_singleton.mp he]
    exact ⟨fun _ _ _ _ => rfl, fun _ _ => .done _⟩
  have hcall : Message.ContentFits 126 tracedEcho.content := ⟨.str "x", .arr_nil⟩
  have hecho : tracedEcho.Within ({} : GatewayConfig).maxFrameSize :=
    ⟨Message.fits_toJson hcall, by decide +kernel, by decide +kernel⟩
  have hresult : Message.ContentFits 126 tracedReply.content := ⟨.str "x", .arr_nil⟩
  have hreply : tracedReply.Within Framing.defaultLimit :=
    ⟨Message.fits_toJson hresult, by decide +kernel, by decide +kernel⟩
  have hresponse : echoActor.response? tracedEcho.reread = some tracedReply := by decide +kernel
  have hreplies : ∀ reply, echoActor.response? tracedEcho.reread = some reply →
      reply.Within Framing.defaultLimit := by
    intro reply hsome
    obtain rfl := Option.some.inj (hresponse.symm.trans hsome)
    exact hreply
  obtain ⟨-, hunary, hstreams⟩ :=
    transports_agree { actor := echoActor } hactor rfl hecho (by decide +kernel) hreplies
  refine ⟨?_, fun kind => ?_⟩
  · have hposts : Unary.Posts tracedEcho echoPost :=
      ⟨by decide +kernel, rfl, by decide +kernel, rfl, List.append_nil _⟩
    obtain ⟨⟨events, response, hexchange⟩, hevery⟩ := hunary "" none echoPost none hposts rfl
    obtain ⟨hevents, -, hreads⟩ := hevery events response hexchange
    obtain ⟨hcarried, read, hread, hsame, -⟩ := hreads tracedReply hresponse
    have hlegal : tracedReply.traceId ≠ "" ∧ Headers.isValue tracedReply.traceId = true := by decide +kernel
    refine ⟨events, response, hexchange, hevents, ?_, read, hread, hsame⟩
    rw [hcarried.traced, if_pos hlegal]
    rfl
  · obtain ⟨frame, hframe⟩ := Kind.exists_frame hecho kind
    have hsends : kind.Sends tracedEcho ([frame], .pending) := by
      cases kind with
      | webSocket =>
        cases hframe
        rfl
      | lines | grpc => exact ⟨by simpa using hframe, .inl rfl⟩
    obtain ⟨-, -, bs, t', fs, -, hrun, hgiven, -, hreads⟩ := hstreams kind .detached
      { chunks := [frame], ending := .pending } [] _ [] rfl (by simp) hsends
    exact ⟨frame, hframe, bs, t', fs, hrun, hgiven, hreads tracedReply hresponse .pending BodyEnd.noConfusion⟩

end Gateway

end Switchboard
