-- SUMMARY: The states of a session whose input is clean and whose peer reads on.
import Switchboard.Proofs.Frame.Framing
import Switchboard.Proofs.Session.Order

/-!
# Sessions with clean input

What a session has been given and what it has written are read off the events that it
has shown. `Live` is the invariant while the send half takes messages off the queue:
nothing is cancelled, what was written and what is queued are accounted for, and the
receive half gets past reading only when all messages have been given. `Done` holds
once the send half has stopped: everything has been written. Every step but a shutdown
and a hang-up keeps `Live` or leads from there to `Done` (`Live.of_step`).
-/

namespace Switchboard.Session

/-! ## What has come in -/

/-- What has arrived after an action, and how it ended. Nothing counts after the end. -/
def supplied (i : Octets × BodyEnd) : Action → Octets × BodyEnd
  | .arrive s => if i.2 = .pending then (i.1 ++ s, .pending) else i
  | .endInput ending => if i.2 = .pending then (i.1, ending) else i
  | _ => i

/-- What has arrived after a sequence of actions. -/
def input (i : Octets × BodyEnd) (as : List Action) : Octets × BodyEnd := as.foldl supplied i

/-- The input holds the messages that are left, and no fault, when `tail` is still to come. -/
def Inbound.Awaits (ending : BodyEnd) (tail : Octets) (left : List Message) (i : Inbound) : Prop :=
  ∃ d, i = .frames d ending ∧ d.Awaits tail left

/-- The input has ended, or it has yet to. -/
def EndsClean (ending : BodyEnd) (tail : Octets) : Prop :=
  ending = .pending ∨ (ending = .complete ∧ tail = [])

theorem Inbound.Awaits.next_cases {ending : BodyEnd} {tail : Octets} {left : List Message}
    {i : Inbound} (h : i.Awaits ending tail left) (hend : EndsClean ending tail) :
    (∃ m left' i', left = m :: left' ∧ i.next = some (i', .message m) ∧ i'.Awaits ending tail left') ∨
    (ending = .pending ∧ i.next = none) ∨
    (ending = .complete ∧ left = [] ∧ ∃ i', i.next = some (i', .over) ∧ i'.Awaits ending tail []) := by
  obtain ⟨d, rfl, hd⟩ := h
  rcases hd.decode_cases with ⟨m, left', d', hleft, hdecode, hd'⟩ | ⟨d', hdecode, hd'⟩
  · refine .inl ⟨m, left', .frames d' ending, hleft, ?_, d', rfl, hd'⟩
    simp only [next, hdecode, ofResult]
  · rcases hend with rfl | ⟨rfl, rfl⟩
    · refine .inr (.inl ⟨rfl, ?_⟩)
      simp only [next, hdecode]
    · rcases hd'.decodeEnd_cases with ⟨m, left', d'', hleft, hdecodeEnd, hd''⟩ |
        ⟨hleft, d'', hdecodeEnd, hd''⟩
      · refine .inl ⟨m, left', .frames d'' .complete, hleft, ?_, d'', rfl, hd''⟩
        simp only [next, hdecode, hdecodeEnd, ofResult]
      · refine .inr (.inr ⟨rfl, hleft, .frames d'' .complete, ?_, d'', rfl, hd''⟩)
        simp only [next, hdecode, hdecodeEnd, ofResult]

/-! ## What has been shown -/

/-- The messages that were dispatched. -/
def given (es : List Event) : List Message :=
  es.filterMap fun
    | .dispatched m => some m
    | _ => none

/-- What the peer sees: the body of the response. -/
def body (es : List Event) : List Event :=
  es.filter fun
    | .dispatched _ | .closed _ => false
    | _ => true

@[simp]
theorem given_append (es fs : List Event) : given (es ++ fs) = given es ++ given fs :=
  List.filterMap_append

@[simp]
theorem body_append (es fs : List Event) : body (es ++ fs) = body es ++ body fs :=
  List.filter_append es fs

/-- The frames of those messages that have one. -/
def framesOf (k : Kind) (ms : List Message) : List Event :=
  ms.flatMap fun m => match k.encode m with
    | .ok f => [.frame f]
    | .error _ => []

/-- What the body starts with. -/
def opening : Kind → List Event
  | .lines true => [.frame greetingLine]
  | _ => []

/-- What the body ends with, when nothing went wrong. -/
def farewell : Kind → List Event
  | .grpc => [.trailers (statusTrailers false), .ended]
  | _ => [.ended]

/-! ## Invariants -/

/-- How far the receive half is, and whether it has told the send half to drain the queue. -/
inductive Reads (u : Setup) (ending : BodyEnd) (left : List Message) (tasks : List Task) :
    Receiver → (drained : Bool) → Prop where
  | reading : Reads u ending left tasks .reading false
  | serving {t : Task} : u.spawn = false → t.isFinished = false →
      Reads u ending left tasks (.serving t) false
  | closing : ending = .complete → left = [] → Reads u ending left tasks (.closing true) false
  | releasing : ending = .complete → left = [] → (∀ t ∈ tasks, t.isFinished = true) →
      Reads u ending left tasks (.releasing true) false
  | ended : ending = .complete → left = [] → (∀ t ∈ tasks, t.isFinished = true) →
      Reads u ending left tasks .ended true

/-- What the send half has written so far. -/
inductive Writes (u : Setup) (es : List Event) : Sender → (written : List Message) → Prop where
  | greeting : u.kind = .lines true → body es = [] → Writes u es .greeting []
  | streaming {written : List Message} : body es = opening u.kind ++ framesOf u.kind written →
      Writes u es .streaming written

/-- The session goes on: the messages are given one by one, and all that is queued for them is
written or waits in the queue. -/
structure Live (u : Setup) (ms : List Message) (ending : BodyEnd) (tail : Octets) (s : State)
    (es : List Event) : Prop where
  going : s.cancelled = false ∧ s.queueOpen = true ∧ s.failed = false
  rest : ∃ left written, given es ++ left = ms ∧ s.inbound.Awaits ending tail left ∧
    Reads u ending left s.tasks s.receiver s.drained ∧ Writes u es s.sender written ∧
    Accounts u s.tasks s.receiver (given es) (written ++ s.queue)

/-- Everything has been written, and the send half is about to stop or has stopped. -/
structure Done (u : Setup) (ms : List Message) (ending : BodyEnd) (s : State) (es : List Event) :
    Prop where
  complete : ending = .complete
  idle : s.receiver = .ended ∧ (∀ t ∈ s.tasks, t.isFinished = true) ∧ s.failed = false
  rest : ∃ out, Ordered u ms out ∧
    ((s.sender = .trailing ∧ u.kind = .grpc ∧ body es = opening u.kind ++ framesOf u.kind out) ∨
      (s.sender = .ended ∧ body es = opening u.kind ++ framesOf u.kind out ++ farewell u.kind))

/-! ## Steps -/

/-- A step of the session itself, or of the clock: not of the peer or of who shuts it down. -/
def Action.isOwn : Action → Bool
  | .arrive _ | .endInput _ | .shutdown | .hangUp => false
  | _ => true

section Steps

variable {u : Setup} {ms : List Message} {ending : BodyEnd} {tail : Octets} {s s' : State}
  {es fs : List Event}

theorem Reads.of_tasks {left : List Message} {tasks tasks' : List Task} {receiver : Receiver}
    {drained : Bool} (h : Reads u ending left tasks receiver drained)
    (htasks : (∀ t ∈ tasks, t.isFinished = true) → ∀ t ∈ tasks', t.isFinished = true) :
    Reads u ending left tasks' receiver drained := by
  cases h with
  | reading => exact .reading
  | serving hspawn ht => exact .serving hspawn ht
  | closing hending hleft => exact .closing hending hleft
  | releasing hending hleft hall => exact .releasing hending hleft (htasks hall)
  | ended hending hleft hall => exact .ended hending hleft (htasks hall)

theorem Writes.of_body {sender : Sender} {written : List Message} (h : Writes u es sender written)
    (hbody : body fs = []) : Writes u (es ++ fs) sender written := by
  cases h with
  | greeting hkind hes => exact .greeting hkind (by rw [body_append, hes, hbody]; rfl)
  | streaming hes => exact .streaming (by rw [body_append, hes, hbody, List.append_nil])

theorem Live.of_receive (h : Live u ms ending tail s es) (hend : EndsClean ending tail)
    (hkind : u.kind ≠ .webSocket) (hs : step u s .receive = some (s', fs)) :
    Live u ms ending tail s' (es ++ fs) := by
  obtain ⟨hgoing, left, written, hgiven, hawaits, hreads, hwrites, haccounts⟩ := h
  obtain ⟨inbound, receiver, tasks, queue, queueOpen, sender, cancelled, drained, failed, now⟩ := s
  cases hreads with
  | reading =>
    simp only [step, Session.receive] at hs
    rcases hawaits.next_cases hend with ⟨m, left', i', hleft, hnext, hawaits'⟩ | ⟨-, hnext⟩ |
      ⟨hcomplete, hleft, i', hnext, hawaits'⟩
    · have hgiven' : given (es ++ [.dispatched m]) ++ left' = ms := by
        rw [given_append, List.append_assoc, ← hgiven, hleft]
        rfl
      have hrest : (Task.running (u.actor.feed ⟨m, u.connection⟩)).rest = responses u m := rfl
      cases hspawn : u.spawn with
      | true =>
        simp only [hnext, hspawn, if_true] at hs
        cases hs
        refine ⟨hgoing, left', written, hgiven', hawaits', .reading, hwrites.of_body rfl, ?_⟩
        rw [given_append]
        exact haccounts.spawned hspawn hrest
      | false =>
        simp only [hnext, hspawn, Bool.false_eq_true, if_false] at hs
        cases hs
        refine ⟨hgoing, left', written, hgiven', hawaits', .serving hspawn rfl, hwrites.of_body rfl, ?_⟩
        rw [given_append]
        exact haccounts.served hspawn rfl hrest
    · simp only [hnext] at hs
      cases hs
    · have hclean : decide (u.kind ≠ .webSocket) = true := decide_eq_true hkind
      simp only [hnext, hclean] at hs
      cases hs
      rw [List.append_nil]
      exact ⟨hgoing, [], written, hleft ▸ hgiven, hawaits', .closing hcomplete rfl, hwrites,
        haccounts.receiver_eq rfl⟩
  | serving | closing | releasing | ended => cases hs

theorem Live.of_close (h : Live u ms ending tail s es) (hs : step u s .close = some (s', fs)) :
    Live u ms ending tail s' (es ++ fs) := by
  obtain ⟨⟨hcancelled, hrest⟩, left, written, hgiven, hawaits, hreads, hwrites, haccounts⟩ := h
  obtain ⟨inbound, receiver, tasks, queue, queueOpen, sender, cancelled, drained, failed, now⟩ := s
  cases hreads with
  | closing hcomplete hleft =>
    cases hcancelled
    simp only [step, Bool.true_and, Bool.not_false] at hs
    split at hs
    · cases hs
    next hall =>
    cases hs
    have htasks : ∀ t ∈ tasks, t.isFinished = true := by simpa using hall
    have hsame : given (es ++ [.closed (u.actor.close u.connection)]) = given es := by simp [given]
    refine ⟨⟨rfl, hrest⟩, left, written, ?_, hawaits, .releasing hcomplete hleft htasks,
      hwrites.of_body rfl, ?_⟩
    · rw [hsame, hgiven]
    · rw [hsame]
      exact haccounts.receiver_eq rfl
  | reading | serving | releasing | ended => cases hs

theorem Live.of_release (h : Live u ms ending tail s es) (hs : step u s .release = some (s', fs)) :
    Live u ms ending tail s' (es ++ fs) := by
  obtain ⟨hgoing, left, written, hgiven, hawaits, hreads, hwrites, haccounts⟩ := h
  obtain ⟨inbound, receiver, tasks, queue, queueOpen, sender, cancelled, drained, failed, now⟩ := s
  cases hreads with
  | releasing hcomplete hleft htasks =>
    cases hs
    rw [List.append_nil]
    exact ⟨hgoing, left, written, hgiven, hawaits, .ended hcomplete hleft htasks, hwrites,
      haccounts.receiver_eq rfl⟩
  | reading | serving | closing | ended => cases hs

theorem run_eq_some {task : Option Nat} (hs : step u s (.run task) = some (s', fs)) :
    ∃ t t' s₁, s.task? task = some t ∧ t.run u s = some (s₁, t') ∧ s' = s₁.withTask t' task ∧ fs = [] := by
  simp only [step, bind, Option.bind_eq_some_iff, pure, Option.some.injEq, Prod.mk.injEq] at hs
  obtain ⟨t, ht, ⟨s₁, t'⟩, hrun, rfl, rfl⟩ := hs
  exact ⟨t, t', s₁, ht, hrun, rfl, rfl⟩

theorem Live.of_run (h : Live u ms ending tail s es) {task : Option Nat}
    (hs : step u s (.run task) = some (s', fs)) : Live u ms ending tail s' (es ++ fs) := by
  obtain ⟨hgoing, left, written, hgiven, hawaits, hreads, hwrites, haccounts⟩ := h
  obtain ⟨t, t', s₁, ht, hrun, rfl, rfl⟩ := run_eq_some hs
  rw [List.append_nil]
  have hcases := Task.run_cases hgoing.2.1 hrun
  obtain ⟨inbound, receiver, tasks, queue, queueOpen, sender, cancelled, drained, failed, now⟩ := s
  cases task with
  | none =>
    cases hreads with
    | serving hspawn hunfinished =>
      cases ht
      have hreads' : Reads u ending left tasks (if t'.isFinished then .reading else .serving t') false := by
        split
        · exact .reading
        · next hne => exact .serving hspawn (Bool.eq_false_iff.mpr hne)
      have hrest' : (if t'.isFinished then Receiver.reading else .serving t').rest = t'.rest := by
        split
        · next hfinished => exact (Task.rest_of_isFinished hfinished).symm
        · rfl
      rcases hcases with ⟨rfl, hrest⟩ | ⟨m, rfl, hrest⟩
      · exact ⟨hgoing, left, written, hgiven, hawaits, hreads', hwrites,
          haccounts.receiver_eq (hrest'.trans hrest)⟩
      · refine ⟨hgoing, left, written, hgiven, hawaits, hreads', hwrites, ?_⟩
        have hqueued := haccounts.queued_receiver (hrest.trans (congrArg _ hrest'.symm))
        rw [List.append_assoc] at hqueued
        exact hqueued
    | reading | closing | releasing | ended => cases ht
  | some i =>
    have hkeep : (∀ v ∈ tasks, v.isFinished = true) →
        ∀ v ∈ tasks.set i t', v.isFinished = true := by
      intro hall
      have hfinished := hall t (List.mem_of_getElem? ht)
      cases t with
      | finished => cases hrun
      | _ => cases hfinished
    rcases hcases with ⟨rfl, hrest⟩ | ⟨m, rfl, hrest⟩
    · exact ⟨hgoing, left, written, hgiven, hawaits, hreads.of_tasks hkeep, hwrites,
        haccounts.task_eq ht hrest⟩
    · refine ⟨hgoing, left, written, hgiven, hawaits, hreads.of_tasks hkeep, hwrites, ?_⟩
      have hqueued := haccounts.queued_task ht hrest
      rw [List.append_assoc] at hqueued
      exact hqueued

theorem Live.of_greet (h : Live u ms ending tail s es) (hs : step u s .greet = some (s', fs)) :
    Live u ms ending tail s' (es ++ fs) := by
  obtain ⟨hgoing, left, written, hgiven, hawaits, hreads, hwrites, haccounts⟩ := h
  obtain ⟨inbound, receiver, tasks, queue, queueOpen, sender, cancelled, drained, failed, now⟩ := s
  cases hwrites with
  | greeting hkind hbody =>
    cases hs
    have hsame : given (es ++ [.frame greetingLine]) = given es := by simp [given]
    refine ⟨hgoing, left, [], ?_, hawaits, hreads, .streaming ?_, ?_⟩
    · rw [hsame, hgiven]
    · rw [body_append, hbody, hkind]
      rfl
    · rw [hsame]
      exact haccounts
  | streaming hbody => cases hs

theorem given_framesOf (k : Kind) (ms : List Message) : given (framesOf k ms) = [] := by
  induction ms with
  | nil => rfl
  | cons m ms ih =>
    rw [framesOf, List.flatMap_cons, given_append]
    cases k.encode m <;> exact ih

theorem body_framesOf (k : Kind) (ms : List Message) : body (framesOf k ms) = framesOf k ms := by
  induction ms with
  | nil => rfl
  | cons m ms ih =>
    rw [framesOf, List.flatMap_cons, body_append]
    cases k.encode m with
    | ok f => exact congrArg (Event.frame f :: ·) ih
    | error e => exact ih

theorem framesOf_append (k : Kind) (ms ns : List Message) :
    framesOf k (ms ++ ns) = framesOf k ms ++ framesOf k ns :=
  List.flatMap_append

theorem Live.of_write (h : Live u ms ending tail s es) (hs : step u s .write = some (s', fs)) :
    Live u ms ending tail s' (es ++ fs) := by
  obtain ⟨⟨hcancelled, hrest⟩, left, written, hgiven, hawaits, hreads, hwrites, haccounts⟩ := h
  obtain ⟨inbound, receiver, tasks, queue, queueOpen, sender, cancelled, drained, failed, now⟩ := s
  cases hcancelled
  cases hwrites with
  | greeting hkind hbody => cases hs
  | streaming hbody =>
    cases queue with
    | nil => cases hs
    | cons m queue =>
      simp only [step, Bool.false_and, Bool.false_eq_true, if_false] at hs
      obtain ⟨rfl, hframes⟩ := Prod.mk.inj (Option.some.inj hs)
      have hfs : fs = framesOf u.kind [m] := by
        refine hframes.symm.trans ?_
        cases hencode : u.kind.encode m <;> simp only [framesOf, List.flatMap_singleton, hencode]
      subst hfs
      refine ⟨⟨rfl, hrest⟩, left, written ++ [m], ?_, hawaits, hreads, .streaming ?_, ?_⟩
      · rw [given_append, given_framesOf, List.append_nil, hgiven]
      · rw [body_append, body_framesOf, hbody, List.append_assoc, framesOf_append]
      · rw [given_append, given_framesOf, List.append_nil, List.append_assoc, List.singleton_append]
        exact haccounts

theorem Live.of_finish (h : Live u ms ending tail s es) (hkind : u.kind ≠ .webSocket)
    (hs : step u s .finish = some (s', fs)) : Done u ms ending s' (es ++ fs) := by
  obtain ⟨⟨hcancelled, hopen, hfailed⟩, left, written, hgiven, hawaits, hreads, hwrites, haccounts⟩ := h
  obtain ⟨inbound, receiver, tasks, queue, queueOpen, sender, cancelled, drained, failed, now⟩ := s
  cases hcancelled
  cases hfailed
  cases hreads with
  | ended hcomplete hleft htasks =>
    cases hwrites with
    | greeting hlines hbody => cases hs
    | streaming hbody =>
      simp only [step, decide_true, Bool.true_and, Bool.false_or] at hs
      split at hs
      · next hqueue =>
        have hqueue : queue = [] := List.isEmpty_iff.mp hqueue
        subst hqueue
        rw [List.append_nil] at haccounts
        have hall : given es = ms := by rw [← hgiven, hleft, List.append_nil]
        have hordered : Ordered u ms written := hall ▸ haccounts.ordered rfl htasks
        cases hk : u.kind with
        | webSocket => exact absurd hk hkind
        | grpc =>
          simp only [hk] at hs
          cases hs
          refine ⟨hcomplete, ⟨rfl, htasks, rfl⟩, written, hordered, .inl ⟨rfl, hk, ?_⟩⟩
          rw [List.append_nil, hbody]
        | lines greeting =>
          simp only [hk] at hs
          cases hs
          refine ⟨hcomplete, ⟨rfl, htasks, rfl⟩, written, hordered, .inr ⟨rfl, ?_⟩⟩
          rw [body_append, hbody, hk]
          rfl
      · cases hs
  | reading | serving | closing | releasing => simp [step] at hs

theorem Live.of_dropAnswer (h : Live u ms ending tail s es) {task : Option Nat}
    (hs : step u s (.dropAnswer task) = some (s', fs)) : False := by
  have hcancelled := h.going.1
  simp only [step, bind, Option.bind_eq_some_iff] at hs
  obtain ⟨t, -, t', hdrop, -⟩ := hs
  cases t with
  | answering m => simp [Task.drop, hcancelled] at hdrop
  | _ => cases hdrop

/-- A step of a live session keeps it live, or ends it. -/
theorem Live.of_step (h : Live u ms ending tail s es) (hend : EndsClean ending tail)
    (hkind : u.kind ≠ .webSocket) {a : Action} (hown : a.isOwn = true)
    (hs : step u s a = some (s', fs)) :
    Live u ms ending tail s' (es ++ fs) ∨ Done u ms ending s' (es ++ fs) := by
  cases a with
  | arrive octets | endInput e | shutdown | hangUp => cases hown
  | pass elapsed =>
    cases hs
    rw [List.append_nil]
    exact .inl ⟨h.going, h.rest⟩
  | receive => exact .inl (h.of_receive hend hkind hs)
  | stopReading =>
    have hcancelled := h.going.1
    simp [Session.step, hcancelled] at hs
  | noteFailure =>
    obtain ⟨-, left, written, -, -, hreads, -⟩ := h
    cases hreceiver : s.receiver with
    | refused =>
      rw [hreceiver] at hreads
      cases hreads
    | _ => simp [Session.step, hreceiver] at hs
  | close => exact .inl (h.of_close hs)
  | release => exact .inl (h.of_release hs)
  | run task => exact .inl (h.of_run hs)
  | dropAnswer task => exact (h.of_dropAnswer hs).elim
  | greet => exact .inl (h.of_greet hs)
  | write => exact .inl (h.of_write hs)
  | finish => exact .inr (h.of_finish hkind hs)
  | trail =>
    obtain ⟨-, left, written, -, -, -, hwrites, -⟩ := h
    cases hsender : s.sender with
    | trailing =>
      rw [hsender] at hwrites
      cases hwrites
    | _ => simp [Session.step, hsender] at hs

/-- Once the send half has stopped, only the trailers are yet to come. -/
theorem Done.of_step (h : Done u ms ending s es) {a : Action} (hown : a.isOwn = true)
    (hs : step u s a = some (s', fs)) : Done u ms ending s' (es ++ fs) := by
  obtain ⟨hcomplete, ⟨hreceiver, htasks, hfailed⟩, out, hordered, hbody⟩ := h
  have hnotask : ∀ task t, s.task? task = some t → t.isFinished = true := by
    intro task t ht
    cases task with
    | none => simp [State.task?, hreceiver] at ht
    | some i => exact htasks t (List.mem_of_getElem? ht)
  cases a with
  | arrive octets | endInput e | shutdown | hangUp => cases hown
  | pass elapsed =>
    cases hs
    rw [List.append_nil]
    exact ⟨hcomplete, ⟨hreceiver, htasks, hfailed⟩, out, hordered, hbody⟩
  | receive | stopReading | noteFailure | close | release => simp [Session.step, hreceiver] at hs
  | run task =>
    obtain ⟨t, t', s₁, ht, hrun, -⟩ := run_eq_some hs
    cases t with
    | finished => cases hrun
    | _ => cases hnotask task _ ht
  | dropAnswer task =>
    simp only [Session.step, bind, Option.bind_eq_some_iff] at hs
    obtain ⟨t, ht, t', hdrop, -⟩ := hs
    cases t with
    | finished => cases hdrop
    | _ => cases hnotask task _ ht
  | greet =>
    rcases hbody with ⟨hsender, -⟩ | ⟨hsender, -⟩ <;> simp [Session.step, hsender] at hs
  | write =>
    rcases hbody with ⟨hsender, -⟩ | ⟨hsender, -⟩ <;> simp [Session.step, hsender] at hs
  | finish =>
    rcases hbody with ⟨hsender, -⟩ | ⟨hsender, -⟩ <;> simp [Session.step, hsender] at hs
  | trail =>
    rcases hbody with ⟨hsender, hkind, hbody⟩ | ⟨hsender, -⟩
    · simp only [Session.step, hsender, if_true, hfailed] at hs
      cases hs
      refine ⟨hcomplete, ⟨hreceiver, htasks, rfl⟩, out, hordered, .inr ⟨rfl, ?_⟩⟩
      rw [body_append, hbody, hkind]
      rfl
    · simp [Session.step, hsender] at hs

end Steps

end Switchboard.Session
