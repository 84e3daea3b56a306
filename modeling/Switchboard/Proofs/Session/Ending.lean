-- SUMMARY: A session with clean input never gets stuck, and its body holds all responses in order.
import Switchboard.Gateway.Basic
import Switchboard.Proofs.Frame.Carriage
import Switchboard.Proofs.Session.Clean
import Switchboard.Sample.Handlers

/-!
# Clean ends

`State.work` bounds the steps that a live session can still take, with the messages
that are left to give. In a live session whose input has ended some part can always go
on, if need be after a sleeping task has slept, and the work gets less (`Live.advance`);
so the body can always end. What it holds then is what `Done` says.
-/

namespace Switchboard

/-- A bound on the steps of a script on an open session; a push counts for its way through the
queue as well. -/
def Script.work {ρ : Type} : Script ρ → Nat
  | .done _ => 1
  | .push _ next => (next true).work + 2
  | .askClosed next => (next false).work + 1
  | .sleep _ next => next.work + 2

namespace Session

/-! ## Work -/

def Task.work : Task → Nat
  | .running s => s.work + 2
  | .sleeping _ s => s.work + 3
  | .answering _ => 2
  | .finished => 0

def Receiver.work : Receiver → Nat
  | .reading => 3
  | .serving t => t.work + 3
  | .refused => 0
  | .closing _ => 2
  | .releasing _ => 1
  | .ended => 0

def Sender.work : Sender → Nat
  | .greeting => 3
  | .streaming => 2
  | .trailing => 1
  | .ended => 0

def total (ns : List Nat) : Nat := ns.foldr (· + ·) 0

@[simp]
theorem total_cons (n : Nat) (ns : List Nat) : total (n :: ns) = n + total ns := rfl

theorem total_concat (ns : List Nat) (n : Nat) : total (ns ++ [n]) = total ns + n := by
  induction ns with
  | nil => exact Nat.add_comm n 0
  | cons m ns ih =>
    rw [List.cons_append, total_cons, total_cons, ih]
    omega

/-- The work of giving a message to a task and of serving it. -/
def messageWork (u : Setup) (m : Message) : Nat :=
  (Task.running (u.actor.feed ⟨m, u.connection⟩)).work + 1

/-- The work that a session has yet to do, with the messages that are left to give. -/
def State.work (u : Setup) (left : List Message) (s : State) : Nat :=
  total (left.map (messageWork u)) + total (s.tasks.map Task.work) + s.receiver.work
    + s.queue.length + s.sender.work

theorem total_work_set {tasks : List Task} {i : Nat} {t : Task} (hi : tasks[i]? = some t)
    (t' : Task) :
    total ((tasks.set i t').map Task.work) + t.work = total (tasks.map Task.work) + t'.work := by
  induction tasks generalizing i with
  | nil => cases hi
  | cons v tasks ih =>
    cases i with
    | zero =>
      cases hi
      simp only [List.set_cons_zero, List.map_cons, total_cons]
      omega
    | succ i =>
      have h := ih hi
      simp only [List.set_cons_succ, List.map_cons, total_cons]
      omega

/-- A task that is not finished goes on when there is room in the queue and time has passed. -/
theorem Task.advance {u : Setup} {t : Task} (hunfinished : t.isFinished = false) {s : State}
    (hopen : s.queueOpen = true) (hroom : s.queue.length < u.capacity) :
    ∃ elapsed s₁ t', t.run u { s with now := s.now + elapsed } = some (s₁, t') ∧
      t'.work + s₁.queue.length < t.work + s.queue.length := by
  cases t with
  | running script =>
    cases script with
    | done r =>
      cases r with
      | error e => exact ⟨0, _, _, rfl, by simp [work, Script.work]⟩
      | ok m? =>
        cases m? with
        | none => exact ⟨0, _, _, rfl, by simp [work, Script.work]⟩
        | some m => exact ⟨0, _, _, rfl, by simp [work, Script.work]⟩
    | push m next =>
      refine ⟨0, { s with queue := s.queue ++ [m] }, .running (next true), ?_, ?_⟩
      · simp [run, hopen, hroom, State.queued]
      · simp only [work, Script.work, List.length_append, List.length_singleton]
        omega
    | askClosed next => exact ⟨0, _, _, rfl, by simp [work, Script.work, hopen]⟩
    | sleep ms next => exact ⟨0, _, _, rfl, by simp [work, Script.work]⟩
  | sleeping deadline script =>
    have hdue : deadline ≤ s.now + (deadline - s.now) := by omega
    refine ⟨deadline - s.now, { s with now := s.now + (deadline - s.now) }, .running script, ?_, ?_⟩
    · simp only [run, hdue, if_true]
    · simp [work]
  | answering m =>
    refine ⟨0, { s with queue := s.queue ++ [m] }, .finished, ?_, ?_⟩
    · simp [run, hopen, hroom, State.queued]
    · simp only [work, List.length_append, List.length_singleton]
      omega
  | finished => cases hunfinished

/-! ## Going on -/

section Progress

variable {u : Setup} {ms left : List Message} {ending : BodyEnd} {tail : Octets} {s s' : State}
  {es fs : List Event}

theorem run_singleton {a : Action} (h : step u s a = some (s', fs)) : run u s [a] = some (s', fs) := by
  rw [run, Step.run_cons_eq_some_iff]
  exact ⟨s', fs, [], h, rfl, (List.append_nil fs).symm⟩

/-- Some steps of the session itself lead from here to a state with less work. -/
def Advances (u : Setup) (left : List Message) (s : State) (es : List Event) (ms : List Message) : Prop :=
  ∃ bs s' fs left', (∀ a ∈ bs, a.isOwn = true) ∧ run u s bs = some (s', fs) ∧
    given (es ++ fs) ++ left' = ms ∧ s'.work u left' < s.work u left

theorem Advances.of_step {a : Action} (hs : step u s a = some (s', fs)) (hown : a.isOwn = true)
    (left' : List Message) (hgiven : given (es ++ fs) ++ left' = ms)
    (hwork : s'.work u left' < s.work u left) : Advances u left s es ms :=
  ⟨[a], s', fs, left', by simpa using hown, run_singleton hs, hgiven, hwork⟩

/-- A task that is not finished goes on, after it has slept. -/
theorem Advances.of_task (task : Option Nat) {t : Task} (ht : s.task? task = some t)
    (hunfinished : t.isFinished = false) (hopen : s.queueOpen = true)
    (hroom : s.queue.length < u.capacity) (hgiven : given es ++ left = ms)
    (hwork : ∀ (s₁ : State) (t' : Task), s₁.tasks = s.tasks → s₁.receiver = s.receiver →
      s₁.sender = s.sender → t'.work + s₁.queue.length < t.work + s.queue.length →
      (s₁.withTask t' task).work u left < s.work u left) :
    Advances u left s es ms := by
  obtain ⟨elapsed, s₁, t', hrun, hless⟩ := Task.advance hunfinished hopen hroom
  have hpass : step u s (.pass elapsed) = some ({ s with now := s.now + elapsed }, []) := rfl
  have hstep : step u { s with now := s.now + elapsed } (.run task) = some (s₁.withTask t' task, []) := by
    have ht' : ({ s with now := s.now + elapsed } : State).task? task = some t := by
      cases task <;> exact ht
    simp only [step, ht', hrun, bind, Option.bind, pure]
  refine ⟨[.pass elapsed, .run task], s₁.withTask t' task, [], left, by simp [Action.isOwn], ?_, ?_, ?_⟩
  · rw [run, Step.run_cons_eq_some_iff]
    exact ⟨_, [], [], hpass, run_singleton hstep, rfl⟩
  · rw [List.append_nil, hgiven]
  · rcases Task.run_cases (s := { s with now := s.now + elapsed }) hopen hrun with
      ⟨rfl, -⟩ | ⟨m, rfl, -⟩ <;> exact hwork _ t' rfl rfl rfl hless

/-- A receive half that reads gives the next message to a task. -/
theorem Advances.of_message {m : Message} {left' : List Message} {i : Inbound} (hreceiver : s.receiver = .reading)
    (hnext : s.inbound.next = some (i, .message m)) (hleft : left = m :: left')
    (hgiven : given es ++ left = ms) : Advances u left s es ms := by
  have hgiven' : given (es ++ [.dispatched m]) ++ left' = ms := by
    rw [given_append, List.append_assoc, ← hgiven, hleft]
    rfl
  cases hspawn : u.spawn with
  | true =>
    refine .of_step (a := .receive)
      (by simp only [step, hreceiver, Session.receive, hnext, hspawn]; rfl) rfl left' hgiven' ?_
    simp only [State.work, hleft, messageWork, List.map_cons, total_cons, if_true,
      List.map_append, List.map_nil, total_concat, hreceiver]
    omega
  | false =>
    refine .of_step (a := .receive)
      (by simp only [step, hreceiver, Session.receive, hnext, hspawn]; rfl) rfl left' hgiven' ?_
    simp only [State.work, hleft, messageWork, List.map_cons, total_cons, if_false,
      Bool.false_eq_true, Receiver.work, hreceiver]
    omega

/-- A receive half that reads gives the next message to a task, or notices the end of the input. -/
theorem Advances.of_reading (hreceiver : s.receiver = .reading)
    (hawaits : s.inbound.Awaits .complete [] left) (hgiven : given es ++ left = ms) :
    Advances u left s es ms := by
  rcases hawaits.next_cases (.inr ⟨rfl, rfl⟩) with ⟨m, left', i', hleft, hnext, -⟩ | ⟨hpending, -⟩ |
    ⟨-, hleft, i', hnext, -⟩
  · exact .of_message hreceiver hnext hleft hgiven
  · cases hpending
  · refine .of_step (a := .receive) (by simp only [step, hreceiver, Session.receive, hnext]; rfl) rfl
      left ?_ ?_
    · simpa [given] using hgiven
    · simp [State.work, Receiver.work, hreceiver]

/-- A receive half that serves a message itself goes on with that. -/
theorem Advances.of_serving {t : Task} (hreceiver : s.receiver = .serving t)
    (hunfinished : t.isFinished = false) (hopen : s.queueOpen = true) (hqueue : s.queue = [])
    (hcapacity : 0 < u.capacity) (hgiven : given es ++ left = ms) : Advances u left s es ms := by
  refine .of_task none (by rw [State.task?, hreceiver]) hunfinished hopen (by simpa [hqueue]) hgiven ?_
  intro s₁ t' htasks _ hsender hless
  have hreceiverWork : (if t'.isFinished then Receiver.reading else .serving t').work ≤ t'.work + 3 := by
    split <;> simp [Receiver.work]
  simp only [State.work, State.withTask, htasks, hsender, hreceiver, hqueue, List.length_nil] at hless ⊢
  simp only [Receiver.work] at hreceiverWork ⊢
  omega

/-- A spawned task that is not finished goes on. -/
theorem Advances.of_spawned {i : Nat} {t : Task} (hi : s.tasks[i]? = some t)
    (hunfinished : t.isFinished = false) (hopen : s.queueOpen = true) (hqueue : s.queue = [])
    (hcapacity : 0 < u.capacity) (hgiven : given es ++ left = ms) : Advances u left s es ms := by
  refine .of_task (some i) hi hunfinished hopen (by simpa [hqueue]) hgiven ?_
  intro s₁ t' htasks hreceiver hsender hless
  have hsum := total_work_set hi t'
  simp only [State.work, State.withTask, htasks, hreceiver, hsender, hqueue, List.length_nil] at hless ⊢
  omega

/-- A receive half that closes does so when all tasks are finished, and until then one of them
goes on. -/
theorem Advances.of_closing (hreceiver : s.receiver = .closing true) (hopen : s.queueOpen = true)
    (hqueue : s.queue = []) (hcapacity : 0 < u.capacity) (hgiven : given es ++ left = ms) :
    Advances u left s es ms := by
  by_cases hall : ∀ t ∈ s.tasks, t.isFinished = true
  · have hclose : s.tasks.all Task.isFinished = true := List.all_eq_true.mpr hall
    refine .of_step (a := .close)
      (by simp only [step, hreceiver, hclose, Bool.not_true, Bool.and_false]; rfl) rfl left ?_ ?_
    · simpa [given] using hgiven
    · simp [State.work, Receiver.work, hreceiver]
  · obtain ⟨t, ht, hunfinished⟩ : ∃ t ∈ s.tasks, t.isFinished = false := by simpa using hall
    obtain ⟨i, hi⟩ := List.mem_iff_getElem?.mp ht
    exact .of_spawned hi hunfinished hopen hqueue hcapacity hgiven

/-- What is queued on a session that streams is written next. -/
theorem Advances.of_queue {m : Message} {queue : List Message} (hsender : s.sender = .streaming)
    (hcancelled : s.cancelled = false) (hqueue : s.queue = m :: queue)
    (hgiven : given es ++ left = ms) : Advances u left s es ms := by
  have hwrite : step u s .write = some ({ s with queue }, framesOf u.kind [m]) := by
    simp only [step, hsender, hqueue, hcancelled, Bool.false_and, Bool.false_eq_true, if_false]
    cases hencode : u.kind.encode m <;> simp only [framesOf, List.flatMap_singleton, hencode]
  refine .of_step hwrite rfl left ?_ ?_
  · rw [given_append, given_framesOf, List.append_nil, hgiven]
  · simp only [State.work, hqueue, List.length_cons]
    omega

/-- A live session whose input has ended goes on, or its send half stops. -/
theorem Live.advance (h : Live u ms .complete [] s es) (hkind : u.kind ≠ .webSocket)
    (hcapacity : 0 < u.capacity) (hgiven : given es ++ left = ms) :
    Advances u left s es ms ∨ ∃ s' fs, step u s .finish = some (s', fs) := by
  obtain ⟨⟨hcancelled, hopen, -⟩, left', written, hgiven', hawaits, hreads, hwrites, -⟩ := h
  have hleft : left = left' := List.append_cancel_left (hgiven.trans hgiven'.symm)
  subst hleft
  obtain ⟨inbound, receiver, tasks, queue, queueOpen, sender, cancelled, drained, failed, now⟩ := s
  cases hcancelled
  cases hwrites with
  | greeting hlines hbody =>
    refine .inl (.of_step (a := .greet) rfl rfl left ?_ ?_)
    · simpa [given] using hgiven
    · simp [State.work, Sender.work]
  | streaming hbody =>
    cases queue with
    | cons m queue => exact .inl (.of_queue rfl rfl rfl hgiven)
    | nil =>
      cases hreads with
      | reading => exact .inl (.of_reading rfl hawaits hgiven)
      | serving hspawn hunfinished =>
        exact .inl (.of_serving rfl hunfinished hopen rfl hcapacity hgiven)
      | closing => exact .inl (.of_closing rfl hopen rfl hcapacity hgiven)
      | releasing =>
        refine .inl (.of_step (a := .release) rfl rfl left ?_ ?_)
        · simpa [given] using hgiven
        · simp [State.work, Receiver.work]
      | ended =>
        refine .inr ?_
        cases hk : u.kind with
        | webSocket => exact absurd hk hkind
        | _ => exact ⟨_, _, by simp [step, hk]; exact ⟨rfl, rfl⟩⟩

/-- What every step of the session itself keeps, a run of them keeps. -/
theorem live_or_done_of_run (h : Live u ms ending tail s es ∨ Done u ms ending s es)
    (hend : EndsClean ending tail) (hkind : u.kind ≠ .webSocket) {bs : List Action}
    (hown : ∀ a ∈ bs, a.isOwn = true) (hrun : run u s bs = some (s', fs)) :
    Live u ms ending tail s' (es ++ fs) ∨ Done u ms ending s' (es ++ fs) := by
  refine Step.run_induction (R := fun s as fs => (∀ a ∈ as, a.isOwn = true) →
    Live u ms ending tail s (es ++ fs) ∨ Done u ms ending s (es ++ fs)) ?_ ?_ hrun hown
  · intro _
    rwa [List.append_nil]
  · intro s₁ s₂ a as fs gs ih hstep hown
    have hlast : a.isOwn = true := hown a (by simp)
    rw [← List.append_assoc]
    rcases ih fun b hb => hown b (List.mem_append_left _ hb) with hlive | hdone
    · exact hlive.of_step hend hkind hlast hstep
    · exact .inr (hdone.of_step hlast hstep)

theorem Done.exists_ending (h : Done u ms ending s es) :
    ∃ bs s' fs, (∀ a ∈ bs, a.isOwn = true) ∧ run u s bs = some (s', fs) ∧ s'.sender = .ended := by
  obtain ⟨-, -, out, -, ⟨hsender, -⟩ | ⟨hsender, -⟩⟩ := h
  · have htrail : step u s .trail = some ({ s with sender := .ended },
        [.trailers (statusTrailers s.failed), .ended]) := by
      simp only [step, hsender, if_true]
    exact ⟨[.trail], _, _, by simp [Action.isOwn], run_singleton htrail, rfl⟩
  · exact ⟨[], s, [], by simp, rfl, hsender⟩

/-- From a live session whose input has ended, steps of its own lead to the end of its body. -/
theorem Live.exists_ending (h : Live u ms .complete [] s es) (hkind : u.kind ≠ .webSocket)
    (hcapacity : 0 < u.capacity) (hgiven : given es ++ left = ms) :
    ∃ bs s' fs, (∀ a ∈ bs, a.isOwn = true) ∧ run u s bs = some (s', fs) ∧ s'.sender = .ended := by
  induction hn : s.work u left using Nat.strongRecOn generalizing s es left with
  | ind n ih =>
    rcases h.advance hkind hcapacity hgiven with hadvance | ⟨s₁, fs₁, hfinish⟩
    · obtain ⟨bs, s₁, fs₁, left₁, hown, hrun, hgiven₁, hless⟩ := hadvance
      have hrest : ∃ cs s₂ fs₂, (∀ a ∈ cs, a.isOwn = true) ∧ run u s₁ cs = some (s₂, fs₂) ∧
          s₂.sender = .ended := by
        rcases live_or_done_of_run (.inl h) (.inr ⟨rfl, rfl⟩) hkind hown hrun with hlive | hdone
        · exact ih _ (hn ▸ hless) hlive hgiven₁ rfl
        · exact hdone.exists_ending
      obtain ⟨cs, s₂, fs₂, howncs, hruncs, hsender⟩ := hrest
      refine ⟨bs ++ cs, s₂, fs₁ ++ fs₂, ?_, ?_, hsender⟩
      · intro a ha
        exact (List.mem_append.mp ha).elim (hown a) (howncs a)
      · exact Step.run_append_eq_some_iff.mpr ⟨s₁, fs₁, fs₂, hrun, hruncs, rfl⟩
    · obtain ⟨cs, s₂, fs₂, howncs, hruncs, hsender⟩ := (h.of_finish hkind hfinish).exists_ending
      refine ⟨.finish :: cs, s₂, fs₁ ++ fs₂, ?_, ?_, hsender⟩
      · intro a ha
        rcases List.mem_cons.mp ha with rfl | ha
        · rfl
        · exact howncs a ha
      · exact Step.run_cons_eq_some_iff.mpr ⟨s₁, fs₁, fs₂, hfinish, hruncs, rfl⟩

end Progress

/-! ## Whole sessions -/

/-- How the messages of a session of this kind are framed; packets need no frames. -/
def Kind.framing? : Kind → Option Framing
  | .lines _ => some .lines
  | .grpc => some .grpc
  | .webSocket => none

/-- What the peer has yet to do: to send the rest of the input and end it. -/
def supplyRest (ending : BodyEnd) (tail : Octets) : List Action :=
  if ending = .pending then [.arrive tail, .endInput .complete] else []

section Whole

variable {u : Setup} {ms : List Message} {ending : BodyEnd} {stream tail : Octets} {s s' : State}
  {es fs : List Event}

theorem Live.of_arrive {octets : Octets} (h : Live u ms .pending (octets ++ tail) s es) :
    Live u ms .pending tail { s with inbound := s.inbound.feed octets } es := by
  obtain ⟨hgoing, left, written, hgiven, ⟨d, hd, hawaits⟩, hreads, hwrites, haccounts⟩ := h
  refine ⟨hgoing, left, written, hgiven, ⟨d.feed octets, ?_, hawaits.feed⟩, hreads, hwrites, haccounts⟩
  simp only [hd, Inbound.feed]

theorem Live.of_endInput (h : Live u ms .pending [] s es) :
    Live u ms .complete [] { s with inbound := s.inbound.close .complete } es := by
  obtain ⟨hgoing, left, written, hgiven, ⟨d, hd, hawaits⟩, hreads, hwrites, haccounts⟩ := h
  refine ⟨hgoing, left, written, hgiven, ⟨d, ?_, hawaits⟩, ?_, hwrites, haccounts⟩
  · simp only [hd, Inbound.close]
  · obtain ⟨inbound, receiver, tasks, queue, queueOpen, sender, cancelled, drained, failed, now⟩ := s
    cases hreads with
    | reading => exact .reading
    | serving hspawn hunfinished => exact .serving hspawn hunfinished
    | closing hcomplete | releasing hcomplete | ended hcomplete => cases hcomplete

/-- Nothing counts after the end of the input. -/
theorem Live.of_inbound (h : Live u ms ending tail s es) {i : Inbound} (hi : i = s.inbound) :
    Live u ms ending tail { s with inbound := i } es := by
  subst hi
  exact h

theorem Live.feed_eq (h : Live u ms .complete tail s es) (octets : Octets) :
    s.inbound.feed octets = s.inbound := by
  obtain ⟨-, left, written, -, ⟨d, hd, -⟩, -⟩ := h
  rw [hd]
  rfl

theorem Live.close_eq (h : Live u ms ending tail s es) {e : BodyEnd}
    (he : ending = .complete ∨ e = .pending) : s.inbound.close e = s.inbound := by
  obtain ⟨-, left, written, -, ⟨d, hd, -⟩, -⟩ := h
  rw [hd]
  rcases he with rfl | rfl
  · rfl
  · cases ending <;> rfl

theorem Done.of_inbound (h : Done u ms ending s es) (i : Inbound) :
    Done u ms ending { s with inbound := i } es :=
  ⟨h.complete, h.idle, h.rest⟩

theorem Live.opened {framing : Framing} {limit : Nat} {octets : Octets}
    (hms : framing.outcomes limit (octets ++ tail) = ms.map .ok) :
    Live u ms ending tail (Session.opened u (.frames ((framing.decoder limit).feed octets) ending)) [] := by
  have hwrites : Writes u [] (if u.kind = .lines true then .greeting else .streaming) [] := by
    split
    · next hlines => exact .greeting hlines rfl
    · next hne =>
      refine .streaming ?_
      unfold opening
      split
      · next hlines => exact absurd hlines hne
      · rfl
  exact ⟨⟨rfl, rfl, rfl⟩, ms, [], rfl, ⟨_, rfl, FrameDecoder.awaits_decoder hms⟩, .reading, hwrites, .start⟩

section Supply

variable {framing : Framing} {limit : Nat} {stream' tail' : Octets} {ending' : BodyEnd}
  (ih : ∀ tail, EndsClean ending tail → framing.outcomes limit (stream ++ tail) = ms.map .ok →
    Live u ms ending tail s es ∨ Done u ms ending s es)
  (hend : EndsClean ending' tail') (hms : framing.outcomes limit (stream' ++ tail') = ms.map .ok)
include ih hend hms

/-- What arrives before the end of the input is part of it, and what arrives later does not count. -/
theorem live_or_done_of_arrive {octets : Octets}
    (hlast : supplied (stream, ending) (.arrive octets) = (stream', ending')) :
    Live u ms ending' tail' { s with inbound := s.inbound.feed octets } es ∨
      Done u ms ending' { s with inbound := s.inbound.feed octets } es := by
  cases ending with
  | pending =>
    cases hlast
    rw [List.append_assoc] at hms
    rcases ih (octets ++ tail') (.inl rfl) hms with hlive | hdone
    · exact .inl hlive.of_arrive
    · cases hdone.complete
  | complete =>
    cases hlast
    rcases ih tail' hend hms with hlive | hdone
    · exact .inl (hlive.of_inbound (hlive.feed_eq octets))
    · exact .inr (hdone.of_inbound _)
  | broken =>
    cases hlast
    rcases hend with hpending | ⟨hcomplete, -⟩
    · cases hpending
    · cases hcomplete

/-- The input ends once. -/
theorem live_or_done_of_endInput {e : BodyEnd}
    (hlast : supplied (stream, ending) (.endInput e) = (stream', ending')) :
    Live u ms ending' tail' { s with inbound := s.inbound.close e } es ∨
      Done u ms ending' { s with inbound := s.inbound.close e } es := by
  cases ending with
  | pending =>
    cases hlast
    rcases hend with rfl | ⟨rfl, rfl⟩
    · rcases ih tail' (.inl rfl) hms with hlive | hdone
      · exact .inl (hlive.of_inbound (hlive.close_eq (.inr rfl)))
      · cases hdone.complete
    · rcases ih [] (.inl rfl) hms with hlive | hdone
      · exact .inl hlive.of_endInput
      · cases hdone.complete
  | complete =>
    cases hlast
    rcases ih tail' hend hms with hlive | hdone
    · exact .inl (hlive.of_inbound (hlive.close_eq (.inl rfl)))
    · exact .inr (hdone.of_inbound _)
  | broken =>
    cases hlast
    rcases hend with hpending | ⟨hcomplete, -⟩
    · cases hpending
    · cases hcomplete

end Supply

/-- A session whose input so far is part of a clean one is live or done. -/
theorem live_or_done {framing : Framing} {limit : Nat} {b : Body} {as : List Action}
    (hkind : u.kind ≠ .webSocket)
    (hrun : run u (opened u (.frames ((framing.decoder limit).feed b.chunks.flatten) b.ending)) as =
      some (s, es))
    (hpeer : ∀ a ∈ as, a ≠ .shutdown ∧ a ≠ .hangUp)
    (hinput : input (b.chunks.flatten, b.ending) as = (stream, ending))
    (hend : EndsClean ending tail)
    (hms : framing.outcomes limit (stream ++ tail) = ms.map .ok) :
    Live u ms ending tail s es ∨ Done u ms ending s es := by
  refine Step.run_induction (R := fun s as es => ∀ stream ending tail,
    (∀ a ∈ as, a ≠ .shutdown ∧ a ≠ .hangUp) → input (b.chunks.flatten, b.ending) as = (stream, ending) →
    EndsClean ending tail → framing.outcomes limit (stream ++ tail) = ms.map .ok →
    Live u ms ending tail s es ∨ Done u ms ending s es) ?_ ?_ hrun stream ending tail hpeer hinput hend hms
  · intro stream ending tail _ hinput hend hms
    obtain ⟨rfl, rfl⟩ := Prod.mk.inj hinput
    exact .inl (Live.opened hms)
  · intro s₁ s₂ a as es fs ih hstep stream' ending' tail' hpeer hinput hend hms
    obtain ⟨stream, ending, hbefore⟩ : ∃ stream ending,
        input (b.chunks.flatten, b.ending) as = (stream, ending) := ⟨_, _, rfl⟩
    have hlast : supplied (stream, ending) a = (stream', ending') := by
      rw [← hinput, input, List.foldl_append, ← hbefore]
      rfl
    have ih := fun tail => ih stream ending tail (fun c hc => hpeer c (List.mem_append_left _ hc)) hbefore
    have ha := hpeer a (by simp)
    cases hown : a.isOwn with
    | true =>
      have hsame : (stream, ending) = (stream', ending') := by
        rw [← hlast]
        cases a <;> first | rfl | cases hown
      obtain ⟨rfl, rfl⟩ := Prod.mk.inj hsame
      rcases ih tail' hend hms with hlive | hdone
      · exact hlive.of_step hend hkind hown hstep
      · exact .inr (hdone.of_step hown hstep)
    | false =>
      cases a with
      | arrive octets =>
        cases hstep
        rw [List.append_nil]
        exact live_or_done_of_arrive ih hend hms hlast
      | endInput e =>
        cases hstep
        rw [List.append_nil]
        exact live_or_done_of_endInput ih hend hms hlast
      | shutdown => exact absurd rfl ha.1
      | hangUp => exact absurd rfl ha.2
      | _ => cases hown

theorem Live.of_supplyRest (h : Live u ms ending tail s es) (hend : EndsClean ending tail) :
    ∃ s', run u s (supplyRest ending tail) = some (s', []) ∧ Live u ms .complete [] s' es := by
  rcases hend with rfl | ⟨rfl, rfl⟩
  · have harrived : Live u ms .pending ([] : Octets) { s with inbound := s.inbound.feed tail } es := by
      refine Live.of_arrive ?_
      rwa [List.append_nil]
    exact ⟨_, rfl, harrived.of_endInput⟩
  · exact ⟨s, rfl, h⟩

theorem Done.of_supplyRest (h : Done u ms ending s es) :
    run u s (supplyRest ending tail) = some (s, []) := by
  rw [h.complete]
  rfl

/-- Messages that all have a frame are written as the frames. -/
theorem exists_frames {k : Kind} {out : List Message} (h : ∀ o ∈ out, ∃ f, k.encode o = .ok f) :
    ∃ frames : List Octets, out.map (fun o => k.encode o) = frames.map .ok ∧
      framesOf k out = frames.map .frame := by
  induction out with
  | nil => exact ⟨[], rfl, rfl⟩
  | cons o out ih =>
    obtain ⟨f, hf⟩ := h o List.mem_cons_self
    obtain ⟨frames, hencoded, hframes⟩ := ih fun o' ho' => h o' (List.mem_cons_of_mem o ho')
    refine ⟨f :: frames, ?_, ?_⟩
    · rw [List.map_cons, List.map_cons, hf, hencoded]
    · rw [framesOf, List.flatMap_cons, hf]
      exact congrArg (Event.frame f :: ·) hframes

end Whole

/-- A session of lines or of gRPC frames, whose peer sends messages only, cut up in any way, and
reads on, and which nobody shuts down: as long as all that it queues can be framed, it can go on
from every state that it gets to until its body ends. The body is then the greeting, the responses
to all messages in order, and the trailers. The responses to a message are what its handler pushes
and one answer if the message is a request. -/
theorem clean_session_answers (g : Gateway) {kind : Kind} {framing : Framing}
    (hkind : kind.framing? = some framing) (c : Connection) (b : Body) {as : List Action} {t : State}
    {es : List Event} {stream tail : Octets} {ending : BodyEnd} {ms : List Message}
    (hrun : run (g.setup kind c) (g.openStream kind framing c b).2 as = some (t, es))
    (hpeer : ∀ a ∈ as, a ≠ .shutdown ∧ a ≠ .hangUp)
    (hinput : input (b.chunks.flatten, b.ending) as = (stream, ending))
    (hend : EndsClean ending tail)
    (hms : framing.outcomes g.config.maxFrameSize (stream ++ tail) = ms.map .ok)
    (hframed : ∀ m ∈ ms, ∀ o ∈ responses (g.setup kind c) m, ∃ f, kind.encode o = .ok f) :
    (∃ bs t' fs, (∀ a ∈ bs, a.isOwn = true) ∧
      run (g.setup kind c) t (supplyRest ending tail ++ bs) = some (t', fs) ∧ t'.sender = .ended) ∧
    (t.sender = .ended → ending = .complete ∧ ∃ (out : List Message) (frames : List Octets),
      Ordered (g.setup kind c) ms out ∧ out.map (fun o => kind.encode o) = frames.map .ok ∧
      body es = opening kind ++ frames.map .frame ++ farewell kind) ∧
    (∀ m, ∃ answer, responses (g.setup kind c) m =
        ((g.actor.feed ⟨m, (g.setup kind c).connection⟩).perform false).1 ++ answer ∧
      answer.length = if m.isRequest then 1 else 0) := by
  have hsocket : (g.setup kind c).kind ≠ .webSocket := by
    rintro hk
    have hk : kind = .webSocket := hk
    rw [hk] at hkind
    cases hkind
  have hcapacity : 0 < (g.setup kind c).capacity := Nat.lt_of_lt_of_le Nat.one_pos (Nat.le_max_right _ 1)
  have hstate := live_or_done hsocket hrun hpeer hinput hend hms
  refine ⟨?_, ?_, ?_⟩
  · rcases hstate with hlive | hdone
    · obtain ⟨t₁, hrest, hlive⟩ := hlive.of_supplyRest hend
      obtain ⟨-, left, written, hgiven, -⟩ := id hlive
      obtain ⟨bs, t₂, fs, hown, hbs, hsender⟩ := hlive.exists_ending hsocket hcapacity hgiven
      exact ⟨bs, t₂, [] ++ fs, hown, Step.run_append_eq_some_iff.mpr ⟨_, _, _, hrest, hbs, rfl⟩, hsender⟩
    · obtain ⟨bs, t₂, fs, hown, hbs, hsender⟩ := hdone.exists_ending
      exact ⟨bs, t₂, [] ++ fs, hown,
        Step.run_append_eq_some_iff.mpr ⟨_, _, _, hdone.of_supplyRest, hbs, rfl⟩, hsender⟩
  · intro hsender
    rcases hstate with ⟨-, left, written, -, -, -, hwrites, -⟩ | ⟨hcomplete, -, out, hordered, hbody⟩
    · rw [hsender] at hwrites
      cases hwrites
    · rcases hbody with ⟨htrailing, -⟩ | ⟨-, hbody⟩
      · rw [hsender] at htrailing
        cases htrailing
      · obtain ⟨frames, hencoded, hframes⟩ := exists_frames fun o ho => by
          obtain ⟨m, hm, ho⟩ := hordered.mem ho
          exact hframed m hm o ho
        exact ⟨hcomplete, out, frames, hordered, hencoded, hframes ▸ hbody⟩
  · intro m
    exact ⟨_, rfl, length_answered_feed g.actor ⟨m, (g.setup kind c).connection⟩ false⟩

/-- A request whose handler pushes two events, a notification whose handler pushes one, and a request
for which there is no handler. -/
def mixedCalls : List Message :=
  [.request (.text "x") "push" (.list [.str "a", .str "b"]), .notify "push" (.list [.str "c"]),
    .request (.text "y") "none" .empty]

def mixedFrames : List Octets := mixedCalls.map fun m =>
  Grpc.header (Envelope.encode m.encode).length ++ Envelope.encode m.encode

/-- A gateway that serves each message by a task of its own. -/
def spawning : Gateway := { actor := Sample.actor, config := { spawnPerMessage := true } }

def mixedBody : Body := { chunks := [mixedFrames.flatten.take 9, mixedFrames.flatten.drop 9] }

def mixedRun : List Action :=
  [.receive, .receive, .run (some 1), .run (some 0), .write, .receive, .run (some 2), .run (some 2),
    .run (some 0), .write, .write, .run (some 0), .run (some 0), .run (some 1), .receive, .write, .close,
    .release, .write, .finish, .trail]

/-- What this writes: the answer to the second request and the event of the notification come in between. -/
def mixedAnswers : List Message :=
  [.notify "event" (.list [.str "c"]), .notify "event" (.list [.str "a"]),
    .error (.text "y") ErrorCode.methodNotFound.toError, .notify "event" (.list [.str "b"]),
    .result (.text "x") (.ofInt 2)]

theorem clean_session_answers_mixedCalls :
    ∃ t es, run (spawning.setup .grpc .detached)
        (spawning.openStream .grpc .grpc .detached mixedBody).2 mixedRun = some (t, es) ∧
      t.sender = .ended ∧ given es = mixedCalls.map Message.reread ∧
      body es = mixedAnswers.map (fun o => .frame
          (Grpc.header (Envelope.encode o.encode).length ++ Envelope.encode o.encode)) ++
        [.trailers [("grpc-status", "0")], .ended] ∧
      ∃ (out : List Message) (frames : List Octets),
        Ordered (spawning.setup .grpc .detached) (mixedCalls.map Message.reread) out ∧
        out.map (fun o => Kind.grpc.encode o) = frames.map .ok ∧
        body es = frames.map .frame ++ farewell .grpc := by
  have hrun : (run (spawning.setup .grpc .detached)
      (spawning.openStream .grpc .grpc .detached mixedBody).2 mixedRun).map
        (fun r => (r.1.sender, given r.2, body r.2)) =
      some (.ended, mixedCalls.map Message.reread, mixedAnswers.map (fun o => .frame
          (Grpc.header (Envelope.encode o.encode).length ++ Envelope.encode o.encode)) ++
        [.trailers [("grpc-status", "0")], .ended]) := by
    decide +kernel
  obtain ⟨⟨t, es⟩, hrun, hends⟩ := Option.map_eq_some_iff.mp hrun
  simp only [Prod.mk.injEq] at hends
  obtain ⟨hsender, hgiven, hbody⟩ := hends
  have hfits : ∀ m ∈ mixedCalls, m.toJson.Fits Json.Reader.maxNesting := by
    simp only [mixedCalls, List.forall_mem_cons]
    refine ⟨Message.fits_toJson ⟨.str "x", .arr ?_⟩, Message.fits_toJson (.arr ?_),
      Message.fits_toJson ⟨.str "y", .arr_nil⟩, by simp⟩
    · simp [Json.Fits.str]
    · simp [Json.Fits.str]
  have hframes : mixedCalls.map (Grpc.encode Framing.defaultLimit) = mixedFrames.map .ok := by
    have hlimit : ∀ m ∈ mixedCalls, (Envelope.encode m.encode).length ≤ Framing.defaultLimit := by
      decide +kernel
    rw [mixedFrames, List.map_map]
    exact List.map_congr_left fun m hm => Grpc.encode_eq_ok_iff.mpr ⟨hlimit m hm, rfl⟩
  have hms : Framing.grpc.outcomes spawning.config.maxFrameSize (mixedFrames.flatten ++ []) =
      (mixedCalls.map Message.reread).map .ok := by
    have hnone : Grpc.outcomes Framing.defaultLimit [] = [] := by rw [Grpc.outcomes]
    have hread := Grpc.framed_outcomes.flatten_encode (by decide) hfits hframes []
    rw [hnone, List.append_nil (List.map _ _)] at hread
    rw [List.map_map]
    exact hread
  have hframed : ∀ m ∈ mixedCalls.map Message.reread, ∀ o ∈ responses (spawning.setup .grpc .detached) m,
      (Envelope.encode o.encode).length ≤ Framing.defaultLimit := by
    decide +kernel
  obtain ⟨-, hout, -⟩ := clean_session_answers spawning rfl .detached mixedBody hrun (by decide)
    (by decide +kernel) (.inr ⟨rfl, rfl⟩) hms
    fun m hm o ho => ⟨_, Grpc.encode_eq_ok_iff.mpr ⟨hframed m hm o ho, rfl⟩⟩
  obtain ⟨-, out, frames, hordered, hencoded, hall⟩ := hout hsender
  exact ⟨t, es, hrun, hsender, hgiven, hbody, out, frames, hordered, hencoded, hall⟩

end Session

end Switchboard
