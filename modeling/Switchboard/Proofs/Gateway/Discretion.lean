-- SUMMARY: Neither a response nor a session tells the peer how a handler failed internally.
import Switchboard.Proofs.Actor.Discretion
import Switchboard.Proofs.Gateway.Unary
import Switchboard.Proofs.Session.Task

/-!
# Discretion of the gateway

Two gateways whose actors are alike serve everybody alike. A unary request gets the
same response from both. Their sessions go in lockstep: what one of them can do in a
state, the other can do in a state that is alike, and both show the same
(`Session.step_alike`). So the runs of one are those of the other, event by event
(`Session.run_alike`), and no peer can tell the two apart.
-/

namespace Switchboard

theorem rel_bind {α β α' β' : Type} {R : α → β → Prop} {S : α' → β' → Prop} {x : Option α} {y : Option β}
    {f : α → Option α'} {g : β → Option β'} (h : Option.Rel R x y)
    (hfg : ∀ {a b}, R a b → Option.Rel S (f a) (g b)) : Option.Rel S (x.bind f) (y.bind g) := by
  cases h with
  | some hab => exact hfg hab
  | none => exact .none

namespace Session

/-! ## States -/

inductive Task.Alike : Task → Task → Prop where
  | running {s s' : Script Answer} : s.Alike Answer.Alike s' → Alike (.running s) (.running s')
  | sleeping (deadline : Nat) {s s' : Script Answer} :
      s.Alike Answer.Alike s' → Alike (.sleeping deadline s) (.sleeping deadline s')
  | answering (m : Message) : Alike (.answering m) (.answering m)
  | finished : Alike .finished .finished

inductive Receiver.Alike : Receiver → Receiver → Prop where
  | reading : Alike .reading .reading
  | serving {t t' : Task} : t.Alike t' → Alike (.serving t) (.serving t')
  | refused : Alike .refused .refused
  | closing (clean : Bool) : Alike (.closing clean) (.closing clean)
  | releasing (clean : Bool) : Alike (.releasing clean) (.releasing clean)
  | ended : Alike .ended .ended

/-- The sessions are set up alike: on the same connection, with actors that are alike. -/
inductive Setup.Alike : Setup → Setup → Prop where
  | intro {u : Setup} {actor : Actor} : u.actor.Alike actor → Alike u { u with actor }

/-- The states are the same, but for scripts that are alike. -/
inductive State.Alike : State → State → Prop where
  | intro {s : State} {receiver : Receiver} {tasks : List Task} :
      s.receiver.Alike receiver → List.Forall₂ Task.Alike s.tasks tasks →
      Alike s { s with receiver, tasks }

/-- The steps show the same and lead to states that are alike. -/
def StepAlike (r r' : State × List Event) : Prop := r.1.Alike r'.1 ∧ r.2 = r'.2

theorem Task.Alike.isFinished {t t' : Task} (h : t.Alike t') : t.isFinished = t'.isFinished := by
  cases h <;> rfl

theorem all_isFinished_alike {ts ts' : List Task} (h : List.Forall₂ Task.Alike ts ts') :
    ts.all Task.isFinished = ts'.all Task.isFinished := by
  induction h with
  | nil => rfl
  | cons ht _ ih => rw [List.all_cons, List.all_cons, ht.isFinished, ih]

theorem getElem?_alike {ts ts' : List Task} (h : List.Forall₂ Task.Alike ts ts') (i : Nat) :
    Option.Rel Task.Alike ts[i]? ts'[i]? := by
  induction h generalizing i with
  | nil => exact .none
  | cons ht _ ih =>
    cases i with
    | zero => exact .some ht
    | succ i => exact ih i

theorem set_alike {ts ts' : List Task} (h : List.Forall₂ Task.Alike ts ts') {t t' : Task}
    (ht : t.Alike t') (i : Nat) : List.Forall₂ Task.Alike (ts.set i t) (ts'.set i t') := by
  induction h generalizing i with
  | nil => exact .nil
  | cons hhead htail ih =>
    cases i with
    | zero => exact .cons ht htail
    | succ i => exact .cons hhead (ih i)

theorem concat_alike {ts ts' : List Task} (h : List.Forall₂ Task.Alike ts ts') {t t' : Task}
    (ht : t.Alike t') : List.Forall₂ Task.Alike (ts ++ [t]) (ts' ++ [t']) :=
  List.rel_append h (.cons ht .nil)

namespace State.Alike

variable {s s' : State}

theorem task? (h : s.Alike s') (task : Option Nat) :
    Option.Rel Task.Alike (s.task? task) (s'.task? task) := by
  obtain ⟨hreceiver, htasks⟩ := h
  cases task with
  | some i => exact getElem?_alike htasks i
  | none =>
    unfold State.task?
    cases hs : s.receiver with
    | serving t =>
      rw [hs] at hreceiver
      cases hreceiver with
      | serving ht => exact .some ht
    | _ =>
      rw [hs] at hreceiver
      cases hreceiver
      exact .none

theorem withTask (h : s.Alike s') {t t' : Task} (ht : t.Alike t') (task : Option Nat) :
    (s.withTask t task).Alike (s'.withTask t' task) := by
  obtain ⟨hreceiver, htasks⟩ := h
  cases task with
  | some i => exact .intro hreceiver (set_alike htasks ht i)
  | none =>
    refine .intro ?_ htasks
    show Receiver.Alike (if t.isFinished then .reading else .serving t) _
    rw [ht.isFinished]
    split
    · exact .reading
    · exact .serving ht

theorem queued (h : s.Alike s') (m : Message) : (s.queued m).Alike (s'.queued m) := by
  obtain ⟨hreceiver, htasks⟩ := h
  exact .intro hreceiver htasks

end State.Alike

/-! ## Steps -/

theorem Task.run_alike {u u' : Setup} (hu : u.Alike u') {s s' : State} (hs : s.Alike s') {t t' : Task}
    (ht : t.Alike t') :
    Option.Rel (fun r r' => r.1.Alike r'.1 ∧ r.2.Alike r'.2) (t.run u s) (t'.run u' s') := by
  have hqueued := hs.queued
  have hself := hs
  obtain ⟨hreceiver, htasks⟩ := hs
  obtain ⟨-⟩ := hu
  cases ht with
  | running hscript =>
    cases hscript with
    | @done r _ hr =>
      cases hr with
      | refl =>
        rcases r with e | _ | m
        · exact .some ⟨hself, .finished⟩
        · exact .some ⟨hself, .finished⟩
        · exact .some ⟨hself, .answering m⟩
      | error e e' => exact .some ⟨hself, .finished⟩
    | push hnext =>
      simp only [run]
      split
      · exact .some ⟨hself, .running (hnext false)⟩
      · split
        · exact .some ⟨hqueued _, .running (hnext true)⟩
        · exact .none
    | askClosed hnext => exact .some ⟨hself, .running (hnext _)⟩
    | sleep hnext => exact .some ⟨hself, .sleeping _ hnext⟩
  | sleeping deadline hscript =>
    simp only [run]
    split
    · exact .some ⟨hself, .running hscript⟩
    · exact .none
  | answering m =>
    simp only [run]
    split
    · exact .some ⟨hself, .finished⟩
    · split
      · exact .some ⟨hqueued m, .finished⟩
      · exact .none
  | finished => exact .none

theorem Task.drop_alike {s s' : State} (hs : s.Alike s') {t t' : Task} (ht : t.Alike t') :
    Option.Rel Task.Alike (t.drop s) (t'.drop s') := by
  obtain ⟨-, -⟩ := hs
  cases ht with
  | answering m =>
    simp only [drop]
    split
    · exact .some .finished
    · exact .none
  | _ => exact .none

theorem receive_alike {u u' : Setup} (hu : u.Alike u') {s s' : State} (hs : s.Alike s') :
    Option.Rel StepAlike (receive u s) (receive u' s') := by
  obtain ⟨hactor⟩ := hu
  obtain ⟨hreceiver, htasks⟩ := hs
  unfold receive
  cases s.inbound.next with
  | none => exact .none
  | some r =>
    obtain ⟨inbound, m | _ | _⟩ := r
    · have ht : (Task.running _).Alike (Task.running _) := .running (hactor.feed ⟨m, u.connection⟩)
      refine .some ⟨?_, rfl⟩
      dsimp only
      split
      · exact .intro hreceiver (concat_alike htasks ht)
      · exact .intro (.serving ht) htasks
    · exact .some ⟨.intro .refused htasks, rfl⟩
    · exact .some ⟨.intro (.closing _) htasks, rfl⟩

theorem outside_alike (u u' : Setup) {s s' : State} (hs : s.Alike s') {a : Action}
    (ha : a.part = .outside) : Option.Rel StepAlike (step u s a) (step u' s' a) := by
  cases a with
  | arrive | endInput | shutdown | pass =>
    obtain ⟨hreceiver, htasks⟩ := hs
    exact .some ⟨.intro hreceiver htasks, rfl⟩
  | hangUp =>
    obtain ⟨hreceiver, htasks⟩ := hs
    simp only [step]
    split
    · exact .none
    · exact .some ⟨.intro hreceiver htasks, rfl⟩
  | _ => cases ha

theorem receiver_alike {u u' : Setup} (hu : u.Alike u') {s s' : State} (hs : s.Alike s') {a : Action}
    (ha : a.part = .receiver) : Option.Rel StepAlike (step u s a) (step u' s' a) := by
  cases a with
  | receive =>
    have hreceive := receive_alike hu hs
    obtain ⟨hreceiver, htasks⟩ := hs
    unfold step
    dsimp only
    generalize s.receiver = r at hreceiver
    cases hreceiver with
    | reading => exact hreceive
    | _ => exact .none
  | close =>
    obtain ⟨hactor⟩ := hu
    obtain ⟨hreceiver, htasks⟩ := hs
    simp only [step, all_isFinished_alike htasks, hactor.close]
    generalize s.receiver = r at hreceiver
    cases hreceiver with
    | closing clean =>
      dsimp only
      split
      · exact .none
      · exact .some ⟨.intro (.releasing clean) htasks, rfl⟩
    | _ => exact .none
  | release =>
    obtain ⟨hreceiver, htasks⟩ := hs
    simp only [step]
    generalize s.receiver = r at hreceiver
    cases hreceiver with
    | releasing clean => cases clean <;> exact .some ⟨.intro .ended htasks, rfl⟩
    | _ => exact .none
  | stopReading =>
    obtain ⟨-⟩ := hu
    obtain ⟨hreceiver, htasks⟩ := hs
    simp only [step]
    generalize s.receiver = r at hreceiver
    cases hreceiver with
    | reading =>
      cases s.cancelled with
      | true => exact .some ⟨.intro (.closing _) htasks, rfl⟩
      | false => exact .none
    | _ => exact .none
  | noteFailure =>
    obtain ⟨hreceiver, htasks⟩ := hs
    simp only [step]
    generalize s.receiver = r at hreceiver
    cases hreceiver with
    | refused => exact .some ⟨.intro (.closing false) htasks, rfl⟩
    | _ => exact .none
  | _ => cases ha

theorem task_alike {u u' : Setup} (hu : u.Alike u') {s s' : State} (hs : s.Alike s') {a : Action}
    (ha : a.part = .task) : Option.Rel StepAlike (step u s a) (step u' s' a) := by
  cases a with
  | run task =>
    refine rel_bind (hs.task? task) fun ht => rel_bind (Task.run_alike hu hs ht) fun hr => ?_
    exact .some ⟨hr.1.withTask hr.2 task, rfl⟩
  | dropAnswer task =>
    refine rel_bind (hs.task? task) fun ht => rel_bind (Task.drop_alike hs ht) fun hr => ?_
    exact .some ⟨hs.withTask hr task, rfl⟩
  | _ => cases ha

theorem sender_alike {u u' : Setup} (hu : u.Alike u') {s s' : State} (hs : s.Alike s') {a : Action}
    (ha : a.part = .sender) : Option.Rel StepAlike (step u s a) (step u' s' a) := by
  cases a with
  | greet | trail =>
    obtain ⟨hreceiver, htasks⟩ := hs
    simp only [step]
    split
    · exact .some ⟨.intro hreceiver htasks, rfl⟩
    · exact .none
  | write =>
    obtain ⟨-⟩ := hu
    obtain ⟨hreceiver, htasks⟩ := hs
    simp only [step]
    cases s.sender with
    | streaming =>
      cases s.queue with
      | nil => exact .none
      | cons m queue =>
        dsimp only
        split
        · exact .none
        · exact .some ⟨.intro hreceiver htasks, rfl⟩
    | _ => exact .none
  | finish =>
    obtain ⟨-⟩ := hu
    obtain ⟨hreceiver, htasks⟩ := hs
    simp only [step]
    split
    · cases u.kind <;> exact .some ⟨.intro hreceiver htasks, rfl⟩
    · exact .none
  | _ => cases ha

/-- Sessions that are alike go in lockstep. -/
theorem step_alike {u u' : Setup} (hu : u.Alike u') {s s' : State} (hs : s.Alike s') (a : Action) :
    Option.Rel StepAlike (step u s a) (step u' s' a) := by
  cases ha : a.part with
  | outside => exact outside_alike u u' hs ha
  | receiver => exact receiver_alike hu hs ha
  | task => exact task_alike hu hs ha
  | sender => exact sender_alike hu hs ha

/-- What one of two sessions that are alike can do and show, the other can too. -/
theorem run_alike {u u' : Setup} (hu : u.Alike u') {s s' : State} (hs : s.Alike s') (as : List Action) :
    Option.Rel StepAlike (run u s as) (run u' s' as) := by
  induction as generalizing s s' with
  | nil => exact .some ⟨hs, rfl⟩
  | cons a as ih =>
    have hstep := step_alike hu hs a
    show Option.Rel StepAlike (Step.run (step u) s (a :: as)) (Step.run (step u') s' (a :: as))
    unfold Step.run
    generalize step u s a = r at hstep
    generalize step u' s' a = r' at hstep
    cases hstep with
    | none => exact .none
    | @some r r' h =>
      obtain ⟨t, es⟩ := r
      obtain ⟨t', es'⟩ := r'
      obtain ⟨ht, rfl⟩ := h
      have hrest : Option.Rel StepAlike (Step.run (step u) t as) (Step.run (step u') t' as) := ih ht
      dsimp only
      generalize Step.run (step u) t as = q at hrest
      generalize Step.run (step u') t' as = q' at hrest
      cases hrest with
      | none => exact .none
      | @some q q' h => exact .some ⟨h.1, congrArg (es ++ ·) h.2⟩

theorem opened_alike {u u' : Setup} (hu : u.Alike u') (inbound : Inbound) :
    (opened u inbound).Alike (opened u' inbound) := by
  obtain ⟨-⟩ := hu
  exact .intro .reading .nil

/-- The session can take these steps, and it shows this. -/
def Shows (u : Setup) (s : State) (as : List Action) (es : List Event) : Prop :=
  ∃ t, run u s as = some (t, es)

theorem shows_iff_of_alike {u u' : Setup} (hu : u.Alike u') {s s' : State} (hs : s.Alike s')
    (as : List Action) (es : List Event) : Shows u s as es ↔ Shows u' s' as es := by
  unfold Shows
  have hrun := run_alike hu hs as
  generalize run u s as = r at hrun
  generalize run u' s' as = r' at hrun
  cases hrun with
  | none => simp
  | @some r r' h =>
    obtain ⟨t, es'⟩ := r
    obtain ⟨t', es''⟩ := r'
    obtain ⟨-, rfl⟩ := h
    simp

end Session

/-! ## Gateways -/

namespace Gateway

/-- The gateways differ in their actors alone, and these are alike. -/
inductive Alike : Gateway → Gateway → Prop where
  | intro {g : Gateway} {actor : Actor} : g.actor.Alike actor → Alike g { g with actor }

theorem Alike.symm {g g' : Gateway} (h : g.Alike g') : g'.Alike g := by
  obtain @⟨actor, hactor⟩ := h
  exact .intro (g := { g with actor }) hactor.symm

/-- Nobody can tell the services apart: there is the same response, the same call, or a session that
shows the same for every course of events. -/
inductive Service.Indistinct : Service → Service → Prop where
  | answered (r : HttpResponse) : Indistinct (.answered r) (.answered r)
  | unfinished : Indistinct .unfinished .unfinished
  | call (c : Call) : Indistinct (.call c) (.call c)
  | stream (head : ResponseHead) {u u' : Session.Setup} {s s' : Session.State} :
      (∀ as es, Session.Shows u s as es ↔ Session.Shows u' s' as es) →
      Indistinct (.stream head u s) (.stream head u' s')
  | upgrade (head : ResponseHead) {u u' : Session.Setup} :
      (∀ inbound as es, Session.Shows u (Session.opened u inbound) as es ↔
        Session.Shows u' (Session.opened u' inbound) as es) →
      Indistinct (.upgrade head u) (.upgrade head u')

theorem setup_alike {g g' : Gateway} (h : g.Alike g') (kind : Session.Kind) (c : Connection) :
    (g.setup kind c).Alike (g'.setup kind c) := by
  obtain ⟨hactor⟩ := h
  exact .intro (u := g.setup kind c) hactor

theorem handle_indistinct {g g' : Gateway} (h : g.Alike g') (streamId : String)
    (remote : Option SocketAddress) (r : HttpRequest) :
    Service.Indistinct (g.handle streamId remote r) (g'.handle streamId remote r) := by
  have hsetup := setup_alike h
  have hopened : ∀ head kind c inbound,
      Service.Indistinct (.stream head (g.setup kind c) (Session.opened (g.setup kind c) inbound))
        (.stream head (g'.setup kind c) (Session.opened (g'.setup kind c) inbound)) := fun head kind c inbound =>
    .stream head (Session.shows_iff_of_alike (hsetup kind c) (Session.opened_alike (hsetup kind c) inbound))
  obtain @⟨actor, -⟩ := h
  have hauth : { g with actor }.authenticate r remote = g.authenticate r remote := rfl
  unfold handle
  rw [hauth]
  cases g.authenticate r remote with
  | none => exact .answered unauthorized
  | some identity =>
    dsimp only
    cases Route.of r with
    | unary =>
      dsimp only [serveUnary]
      cases Unary.intake g.config r with
      | refused e => exact .answered e.response
      | unfinished => exact .unfinished
      | accepted m => exact .call _
    | lineStream => exact hopened _ _ _ _
    | grpc =>
      dsimp only [serveGrpc]
      split
      · exact .answered _
      · exact hopened _ _ _ _
    | webSocket =>
      dsimp only [serveWebSocket]
      split
      · exact .upgrade _ fun inbound => Session.shows_iff_of_alike (hsetup _ _)
          (Session.opened_alike (hsetup _ _) inbound)
      · exact .answered _

theorem serve_alike {a a' : Actor} (h : a.Alike a') (c : Call) {answer answer' : Answer}
    (hanswer : Answer.Alike answer answer') : Unary.serve a c answer = Unary.serve a' c answer' := by
  have hrespond : Unary.respond answer = Unary.respond answer' := by
    cases hanswer with
    | refl => rfl
    | error e e' => rfl
  unfold Unary.serve
  rw [h.close, hrespond]

theorem Exchange.of_alike {g g' : Gateway} (h : g.Alike g') {streamId : String}
    {remote : Option SocketAddress} {r : HttpRequest} {events : List Unary.Event} {response : HttpResponse}
    (hexchange : g.Exchange streamId remote r events response) :
    g'.Exchange streamId remote r events response := by
  have hservice := handle_indistinct h streamId remote r
  cases hexchange with
  | answered hhandle =>
    rw [hhandle] at hservice
    generalize hhandle' : g'.handle streamId remote r = service at hservice
    cases hservice
    exact .answered hhandle'
  | @served c pushed answer hhandle hruns =>
    rw [hhandle] at hservice
    generalize hhandle' : g'.handle streamId remote r = service at hservice
    cases hservice
    obtain ⟨hactor⟩ := h
    obtain ⟨answer', hruns', hanswer⟩ := (hactor.feed c).runs hruns
    rw [serve_alike hactor c hanswer]
    exact .served hhandle' hruns'

/-- Gateways whose actors differ in internal failures of their handlers serve everybody alike. They
give the same response or open sessions that show the same for every course of events; the actor
sees the same of a unary request and the response to it is the same. -/
theorem internal_failures_untold {g g' : Gateway} (h : g.Alike g') (streamId : String)
    (remote : Option SocketAddress) (r : HttpRequest) :
    Service.Indistinct (g.handle streamId remote r) (g'.handle streamId remote r) ∧
    (∀ events response, g.Exchange streamId remote r events response ↔
      g'.Exchange streamId remote r events response) ∧
    ∀ c closed, Unary.serve g.actor c ((g.actor.feed c).perform closed).2 =
      Unary.serve g'.actor c ((g'.actor.feed c).perform closed).2 := by
  refine ⟨handle_indistinct h streamId remote r, ?_, ?_⟩
  · exact fun events response => ⟨Exchange.of_alike h, Exchange.of_alike h.symm⟩
  · obtain ⟨hactor⟩ := h
    exact fun c closed => serve_alike hactor c ((hactor.feed c).perform closed).2

/-- A handler whose result cannot be written. -/
def speechless (o : Outcome Unit) : TypedHandler [] Unit where
  params := ()
  result := { type := .unit, write := fun _ => .error .badNumber }
  body := fun _ _ => .push (.notify "working" .empty) fun _ => .done o

/-- A gateway whose actor fails in one way under a method and in another way elsewhere. -/
def failing (o : Outcome Unit) (missing : Outcome Reply) : Gateway where
  actor.entries := [("a", { handler := (speechless o).toHandler, shape := some (speechless o).shape })]
  actor.missing := some fun _ _ => .done missing

theorem internal_failures_untold_failing :
    (failing (.returned ()) .crashed).Alike (failing .crashed (.failed (.other "disk full"))) ∧
    Service.Indistinct ((failing (.returned ()) .crashed).handle "" none chunkedPost)
      ((failing .crashed (.failed (.other "disk full"))).handle "" none chunkedPost) := by
  have hbody : Handler.Alike (speechless (.returned ())).toHandler (speechless .crashed).toHandler :=
    TypedHandler.toHandler_alike rfl fun _ _ => .push fun _ => .done (.internal rfl rfl)
  have halike : (failing (.returned ()) .crashed).Alike (failing .crashed (.failed (.other "disk full"))) :=
    .intro (g := failing (.returned ()) .crashed)
      { entries := .cons ⟨rfl, hbody, rfl, rfl⟩ .nil
        missing := .some fun _ _ => .done (.internal rfl rfl)
        onClose := rfl
        validator := rfl
        verify := rfl }
  exact ⟨halike, (internal_failures_untold halike "" none chunkedPost).1⟩

end Gateway

end Switchboard
