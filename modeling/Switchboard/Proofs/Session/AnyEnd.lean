-- SUMMARY: What holds of a session on any input, however it is brought to an end.
import Switchboard.Proofs.Session.Progress

/-!
# Any end of a session

`session_any_end` collects what holds of a session that serves one message after the
other, after any run: whatever has come in, and whoever has shut it down, broken off or
stopped reading, at whatever step. It asks for one thing on a WebSocket: that no message
is taken any more after an answer was dropped. Without that the peer can get the second
answer and not the first (`transcript_with_gap`), since a cancelled receive half may
still take a message, and a cancelled send half may still write.
-/

namespace Switchboard

/-- A session of this kind as the gateway starts it on what has come in. -/
def Gateway.openSession (g : Gateway) (kind : Session.Kind) (c : Connection) (b : Body) : Session.State :=
  Session.opened (g.setup kind c) (kind.inbound g.config.maxFrameSize b)

theorem Gateway.capacity_pos (g : Gateway) (kind : Session.Kind) (c : Connection) :
    0 < (g.setup kind c).capacity :=
  Nat.lt_of_lt_of_le Nat.one_pos (Nat.le_max_right _ 1)

theorem Gateway.openStream_eq (g : Gateway) {kind : Session.Kind} {framing : Framing}
    (hkind : kind.framing? = some framing) (c : Connection) (b : Body) :
    g.openStream kind framing c b = (g.setup kind c, g.openSession kind c b) := by
  unfold openSession Session.Kind.inbound
  rw [hkind]
  rfl

namespace Session

/-- What the peer is to read of a session that is given these messages one after the other. -/
def transcript (u : Setup) (ms : List Message) : List Event :=
  opening u.kind ++ framesOf u.kind (ms.flatMap (responses u))

theorem transcript_mono (u : Setup) {ms ns : List Message} (h : ms <+: ns) :
    transcript u ms <+: transcript u ns := by
  obtain ⟨rest, rfl⟩ := h
  refine opening_append_framesOf_mono u.kind ?_
  rw [List.flatMap_append]
  exact List.prefix_append _ _

section Runs

variable {u : Setup} {limit : Nat} {b : Body} {as : List Action} {s : State} {es : List Event}

theorem Course.of_run (hrun : run u (opened u (u.kind.inbound limit b)) as = some (s, es)) :
    Course u limit b as s es :=
  Step.run_induction (R := fun s as es => Course u limit b as s es) (Course.start u limit b)
    (fun h hstep => h.step (effect_of_step hstep)) hrun

theorem Orderly.of_append {as bs : List Action} (h : Orderly (as ++ bs)) : Orderly as := by
  intro before after has
  refine h before (after ++ bs) ?_
  rw [has, List.append_assoc, List.cons_append]

theorem Told.of_run {i : Inbound} (hspawn : u.spawn = false) (hrun : run u (opened u i) as = some (s, es))
    (horderly : u.kind = .webSocket → Orderly as) : Told u as es s := by
  refine Step.run_induction (R := fun s as es => (u.kind = .webSocket → Orderly as) → Told u as es s)
    ?_ ?_ hrun horderly
  · exact fun _ => .current (Current.start u i)
  · intro s₁ s₂ a as es fs ih hstep horderly
    have hbefore := ih fun hkind => (horderly hkind).of_append
    exact hbefore.step hspawn (effect_of_step hstep) horderly

theorem Course.given_isPrefix (h : Course u limit b as s es) {found : List (Option Message)}
    (hfound : u.kind.found limit (as.foldl delivered (b.chunks, b.ending)) = found) :
    given es <+: decoded found := by
  obtain ⟨rs, hrs⟩ := h.fed.taken []
  rw [List.append_nil, Kind.held_inbound, hfound] at hrs
  rw [hrs, decoded_append]
  exact List.prefix_append _ _

/-- The close handler has run once, after all messages that were dispatched. -/
theorem Shut.of_ended {r : Receiver} (h : Shut u es r) (hended : r = .ended) :
    ∃ pre post, es = pre ++ .closed (u.actor.close u.connection) :: post ∧
      (∀ notes, .closed notes ∉ pre ++ post) ∧ given post = [] := by
  subst hended
  cases h with
  | before hr => cases hr
  | after pre post _ hes hclosed hgiven => exact ⟨pre, post, hes, hclosed, hgiven⟩

theorem Undisturbed.verdict (h : Undisturbed u limit b as s es) (hended : s.receiver = .ended)
    {found : List (Option Message)} (hfound : u.kind.found limit (as.foldl delivered (b.chunks, b.ending)) = found) :
    decoded found = given es ∧ faulty found = s.failed := by
  have hverdict := (h.calm.of_ended hended).2.found
  rwa [Kind.held_inbound, hfound] at hverdict

/-- The body of an undisturbed session ends as soon as its send half has, and says whether there
was a fault. -/
theorem Undisturbed.endings_eq (h : Undisturbed u limit b as s es) {found : List (Option Message)}
    (hfound : u.kind.found limit (as.foldl delivered (b.chunks, b.ending)) = found) :
    endings es = if s.sender = .ended then u.kind.signOff (faulty found) else [] := by
  cases h.calm with
  | going _ _ _ _ hsender hes =>
    rw [hes, if_neg]
    rcases hsender with hsender | hsender <;> simp [hsender]
  | closed _ _ _ hended _ _ _ hsigned =>
    rw [(h.verdict hended hfound).2]
    generalize s.sender = sender at hsigned
    cases hsigned with
    | greeting hes | streaming hes | trailing _ hes => exact hes
    | ended hes => exact hes

/-- The body of an undisturbed session ends after its close handler has run. -/
theorem Undisturbed.closed_first (h : Undisturbed u limit b as s es) (hends : endings es ≠ []) :
    ∃ pre post, es = pre ++ .closed (u.actor.close u.connection) :: post ∧ endings pre = [] := by
  cases h.calm with
  | going _ _ _ _ _ hes => exact absurd hes hends
  | closed pre post notes hended _ hes hpre =>
    obtain ⟨pre', post', hes', honce, -⟩ := h.shut.of_ended hended
    refine ⟨pre, post, ?_, hpre⟩
    have hmem : .closed notes ∈ pre' ++ .closed (u.actor.close u.connection) :: post' := by
      rw [← hes', hes]
      simp
    rcases List.mem_append.mp hmem with hmem | hmem
    · exact absurd (List.mem_append_left _ hmem) (honce notes)
    · rcases List.mem_cons.mp hmem with hsame | hmem
      · rw [hes, hsame]
      · exact absurd (List.mem_append_right _ hmem) (honce notes)

/-- An undisturbed session goes on by itself until all messages before the first fault have been
dispatched, and if there is a fault or the input has ended, until both halves have ended. -/
theorem Undisturbed.exists_rest (h : Undisturbed u limit b as s es) (hcapacity : 0 < u.capacity)
    {found : List (Option Message)} {ending : BodyEnd}
    (hfound : u.kind.found limit (as.foldl delivered (b.chunks, b.ending)) = found)
    (hending : (as.foldl delivered (b.chunks, b.ending)).2 = ending) :
    ∃ bs s' fs, (∀ a ∈ bs, a.isOwn = true) ∧ run u s bs = some (s', fs) ∧ given (es ++ fs) = decoded found ∧
      (ending ≠ .pending ∨ faulty found = true → s'.receiver = .ended ∧ s'.sender = .ended) := by
  obtain ⟨bs, s', fs, hown, hrun, hrest⟩ := h.reaches_rest hcapacity
  refine ⟨bs, s', fs, hown, hrun, ?_⟩
  have hlater := h.of_run (fun a ha => Action.disturbs_of_isOwn (hown a ha)) hrun
  have hsame : (as ++ bs).foldl delivered (b.chunks, b.ending) = as.foldl delivered (b.chunks, b.ending) := by
    rw [List.foldl_append]
    exact foldl_delivered_own hown _
  rcases hrest with hidle | ⟨hreceiver, hsender⟩
  · obtain ⟨hheld, hpending⟩ := hlater.of_idle hidle
    rw [Kind.held_inbound, hsame, hfound] at hheld
    rw [hsame, hending] at hpending
    refine ⟨?_, ?_⟩
    · rw [hheld, decoded_map_some]
    · rintro (hended | hfaulty)
      · exact absurd hpending hended
      · rw [hheld, faulty_map_some] at hfaulty
        cases hfaulty
  · exact ⟨(hlater.verdict hreceiver (hsame ▸ hfound)).1.symm, fun _ => ⟨hreceiver, hsender⟩⟩

end Runs

/-- A session that serves one message after the other, on any input and after any run. The messages
dispatched are the first of those that come before the first fault in the input. What was written is
the beginning of the transcript of these; on a WebSocket it is as long as no message is taken after an
answer was dropped. Once the receive half has ended, the close handler has run once, after the last
dispatch. If nobody shut the session down and the peer did not stop reading, then besides: a receive
half that has ended has dispatched all messages before the first fault; the body has its end, and its
trailers say whether there was a fault, when the send half has ended, and only after the close handler
has run; and the session can go on by itself until all these messages have been dispatched and, if the
input has ended or has a fault, until both halves have ended. -/
theorem session_any_end (g : Gateway) (kind : Kind) (c : Connection) (b : Body) {as : List Action} {t : State}
    {es : List Event} {found : List (Option Message)} {ending : BodyEnd}
    (hspawn : g.config.spawnPerMessage = false)
    (hrun : run (g.setup kind c) (g.openSession kind c b) as = some (t, es))
    (hfound : kind.found g.config.maxFrameSize (as.foldl delivered (b.chunks, b.ending)) = found)
    (hending : (as.foldl delivered (b.chunks, b.ending)).2 = ending) :
    given es <+: decoded found ∧
    ((kind = .webSocket → Orderly as) → written es <+: transcript (g.setup kind c) (decoded found)) ∧
    (t.receiver = .ended → ∃ pre post,
      es = pre ++ .closed (g.actor.close (g.setup kind c).connection) :: post ∧
      (∀ notes, .closed notes ∉ pre ++ post) ∧ given post = []) ∧
    ((∀ a ∈ as, a.disturbs = false) →
      (t.receiver = .ended → given es = decoded found) ∧
      (endings es = if t.sender = .ended then kind.signOff (faulty found) else []) ∧
      (endings es ≠ [] → ∃ pre post,
        es = pre ++ .closed (g.actor.close (g.setup kind c).connection) :: post ∧ endings pre = []) ∧
      ∃ bs t' fs, (∀ a ∈ bs, a.isOwn = true) ∧ run (g.setup kind c) t bs = some (t', fs) ∧
        given (es ++ fs) = decoded found ∧
        (ending ≠ .pending ∨ faulty found = true → t'.receiver = .ended ∧ t'.sender = .ended)) := by
  have hcourse : Course (g.setup kind c) g.config.maxFrameSize b as t es := .of_run hrun
  have hgiven := hcourse.given_isPrefix hfound
  refine ⟨hgiven, fun horderly => ?_, hcourse.shut.of_ended, fun hcalm => ?_⟩
  · have htold : Told (g.setup kind c) as es t := .of_run hspawn hrun horderly
    exact (htold.isPrefix hspawn).trans (transcript_mono _ hgiven)
  · have hundisturbed : Undisturbed (g.setup kind c) g.config.maxFrameSize b as t es :=
      (Undisturbed.start _ _ _).of_run hcalm hrun
    exact ⟨fun hended => (hundisturbed.verdict hended hfound).1.symm, hundisturbed.endings_eq hfound,
      hundisturbed.closed_first, hundisturbed.exists_rest (g.capacity_pos kind c) hfound hending⟩

def sampled : Gateway := { actor := Sample.actor }

def socket : Connection := { Connection.detached with transport := .webSocket }

/-- A request whose handler pushes an event. -/
def pushRequest : Message := .request (.text "x") "push" (.list [.str "a"])

/-- A WebSocket on which the request comes first and then a packet that is no message. -/
def pushThenBad : Body := { chunks := [pushRequest.encode, Text.octets "\x7b"], ending := .pending }

theorem session_any_end_pushThenBad :
    ∃ t es, run (sampled.setup .webSocket socket) (sampled.openSession .webSocket socket pushThenBad)
        [.receive, .run none, .run none, .write, .run none, .receive, .noteFailure, .write, .close, .release,
          .finish] = some (t, es) ∧
      t.receiver = .ended ∧ given es = [pushRequest.reread] ∧ endings es = [.ended] ∧
      written es = framesOf .webSocket
        [.notify "event" (.list [.str "a"]), .result (.text "x") (.ofInt 1)] ∧
      written es <+: transcript (sampled.setup .webSocket socket) [pushRequest.reread] ∧
      ∃ pre post, es = pre ++ .closed ["websocket"] :: post ∧
        (∀ notes, .closed notes ∉ pre ++ post) ∧ given post = [] := by
  have hrun : (run (sampled.setup .webSocket socket) (sampled.openSession .webSocket socket pushThenBad)
      [.receive, .run none, .run none, .write, .run none, .receive, .noteFailure, .write, .close, .release,
        .finish]).map (fun r => (r.1.receiver.isShut, r.1.receiver.work, r.1.sender, written r.2)) =
      some (true, 0, .ended, framesOf .webSocket
        [.notify "event" (.list [.str "a"]), .result (.text "x") (.ofInt 1)]) := by
    decide +kernel
  obtain ⟨⟨t, es⟩, hrun, hends⟩ := Option.map_eq_some_iff.mp hrun
  simp only [Prod.mk.injEq] at hends
  obtain ⟨hshut, hwork, hsender, hbody⟩ := hends
  have hreceiver : t.receiver = .ended := by
    cases hr : t.receiver with
    | ended => rfl
    | releasing => rw [hr] at hwork; cases hwork
    | _ => rw [hr] at hshut; cases hshut
  have hfound : Kind.webSocket.found sampled.config.maxFrameSize (pushThenBad.chunks, .pending) =
      [some pushRequest.reread, none] := by
    decide +kernel
  have hnote : sampled.actor.close (sampled.setup .webSocket socket).connection = ["websocket"] := by
    decide +kernel
  obtain ⟨-, hwritten, hclosed, hundisturbed⟩ :=
    session_any_end sampled .webSocket socket pushThenBad rfl hrun hfound rfl
  obtain ⟨hgiven, hendings, -⟩ := hundisturbed (by simp [Action.disturbs])
  rw [hnote] at hclosed
  refine ⟨t, es, hrun, hreceiver, hgiven hreceiver, ?_, hbody,
    hwritten fun _ before after has task => ?_, hclosed hreceiver⟩
  · rw [hendings, hsender]
    rfl
  · intro hmem
    have hall : Action.dropAnswer task ∈ before ++ .receive :: after := List.mem_append_left _ hmem
    rw [← has] at hall
    simp at hall

/-- A request for which no handler is registered. -/
def soleRequest : Message :=
  { content := .request (.number ⟨"1"⟩) "a" (.list [])
    raw := some [("id", .num ⟨"1"⟩), ("method", .str "a")] }

def soleLine : Octets := Text.octets "\x7b\"id\":1,\"method\":\"a\"\x7d\n"

def secondRequest : Message :=
  { content := .request (.number ⟨"2"⟩) "a" (.list [])
    raw := some [("id", .num ⟨"2"⟩), ("method", .str "a")] }

/-- A WebSocket on which two requests come. -/
def bothRequests : Body :=
  { chunks := [soleLine, Text.octets "\x7b\"id\":2,\"method\":\"a\"\x7d"], ending := .pending }

/-- The receive half of a WebSocket drops an answer because the session is cancelled, takes the next
message all the same, and the send half writes the answer to that. -/
theorem transcript_with_gap :
    Kind.webSocket.found ({} : GatewayConfig).maxFrameSize (bothRequests.chunks, bothRequests.ending) =
      [some soleRequest, some secondRequest] ∧
    ∃ t es, run (Gateway.setup { actor := .empty } .webSocket .detached)
        (Gateway.openSession { actor := .empty } .webSocket .detached bothRequests)
        [.receive, .run none, .shutdown, .dropAnswer none, .receive, .run none, .run none, .write] =
          some (t, es) ∧
      given es = [soleRequest, secondRequest] ∧
      ¬ written es <+: transcript (Gateway.setup { actor := .empty } .webSocket .detached)
        [soleRequest, secondRequest] := by
  refine ⟨by decide +kernel, ?_⟩
  have hrun : (run (Gateway.setup { actor := .empty } .webSocket .detached)
      (Gateway.openSession { actor := .empty } .webSocket .detached bothRequests)
      [.receive, .run none, .shutdown, .dropAnswer none, .receive, .run none, .run none, .write]).map
        (fun r => (given r.2, decide (written r.2 <+: transcript
          (Gateway.setup { actor := .empty } .webSocket .detached) [soleRequest, secondRequest]))) =
      some ([soleRequest, secondRequest], false) := by
    decide +kernel
  obtain ⟨⟨t, es⟩, hrun, hgap⟩ := Option.map_eq_some_iff.mp hrun
  obtain ⟨hgiven, hgap⟩ := Prod.mk.inj hgap
  exact ⟨t, es, hrun, hgiven, of_decide_eq_false hgap⟩

end Session

end Switchboard
