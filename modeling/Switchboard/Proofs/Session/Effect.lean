-- SUMMARY: What one step of a session can do to it and show.
import Switchboard.Proofs.Session.Input

/-!
# Effects

A step of a session changes a few parts of its state and leaves all others. `Effect`
lists what each action can do, with what it takes to do it; `effect_of_step` says that
there is no more, from one lemma for each part of the session. Invariants of sessions go
by cases on the effect.
-/

namespace Switchboard.Session

/-- What an action leads to and shows. -/
inductive Effect (u : Setup) (s : State) : Action → State → List Event → Prop where
  | arrive (octets : Octets) : Effect u s (.arrive octets) { s with inbound := s.inbound.feed octets } []
  | endInput (ending : BodyEnd) :
      Effect u s (.endInput ending) { s with inbound := s.inbound.close ending } []
  | shutdown : Effect u s .shutdown { s with cancelled := true } []
  | hangUp : s.sender ≠ .ended → Effect u s .hangUp (s.cutOff .ended) []
  | pass (ms : Nat) : Effect u s (.pass ms) { s with now := s.now + ms } []
  | spawn {inbound : Inbound} {m : Message} : s.receiver = .reading → u.spawn = true →
      s.inbound.next = some (inbound, .message m) →
      Effect u s .receive
        { s with inbound, tasks := s.tasks ++ [.running (u.actor.feed ⟨m, u.connection⟩)] } [.dispatched m]
  | serve {inbound : Inbound} {m : Message} : s.receiver = .reading → u.spawn = false →
      s.inbound.next = some (inbound, .message m) →
      Effect u s .receive
        { s with inbound, receiver := .serving (.running (u.actor.feed ⟨m, u.connection⟩)) } [.dispatched m]
  | refuse {inbound : Inbound} : s.receiver = .reading → s.inbound.next = some (inbound, .bad) →
      Effect u s .receive { s with inbound, receiver := .refused } []
  | conclude {inbound : Inbound} : s.receiver = .reading → s.inbound.next = some (inbound, .over) →
      Effect u s .receive { s with inbound, receiver := .closing (u.kind ≠ .webSocket) } []
  | stopReading : s.receiver = .reading → s.cancelled = true →
      Effect u s .stopReading { s with receiver := .closing (u.kind ≠ .webSocket) } []
  | noteFailure : s.receiver = .refused →
      Effect u s .noteFailure { s with receiver := .closing false, failed := true } []
  | close {clean : Bool} : s.receiver = .closing clean →
      (clean = true → s.cancelled = true ∨ ∀ t ∈ s.tasks, t.isFinished = true) →
      Effect u s .close { s with receiver := .releasing clean } [.closed (u.actor.close u.connection)]
  | drain : s.receiver = .releasing true → Effect u s .release { s with receiver := .ended, drained := true } []
  | cancel : s.receiver = .releasing false →
      Effect u s .release { s with receiver := .ended, cancelled := true } []
  | run {task : Option Nat} {t t' : Task} {s' : State} : s.task? task = some t →
      t.run u s = some (s', t') → Effect u s (.run task) (s'.withTask t' task) []
  | dropAnswer {task : Option Nat} {m : Message} : s.task? task = some (.answering m) → s.cancelled = true →
      Effect u s (.dropAnswer task) (s.withTask .finished task) []
  | greet : s.sender = .greeting → Effect u s .greet { s with sender := .streaming } [.frame greetingLine]
  | write {m : Message} {queue : List Message} : s.sender = .streaming → s.queue = m :: queue →
      (s.cancelled = true → u.kind = .webSocket) →
      Effect u s .write { s with queue } (framesOf u.kind [m])
  | finish : s.sender = .streaming → s.cancelled = true ∨ (s.drained = true ∧ s.queue = []) →
      u.kind ≠ .grpc → Effect u s .finish (s.cutOff .ended) [.ended]
  | finishStream : s.sender = .streaming → s.cancelled = true ∨ (s.drained = true ∧ s.queue = []) →
      u.kind = .grpc → Effect u s .finish (s.cutOff .trailing) []
  | trail : s.sender = .trailing →
      Effect u s .trail { s with sender := .ended } [.trailers (statusTrailers s.failed), .ended]

theorem effect_of_receive {u : Setup} {s s' : State} {es : List Event} (hreceiver : s.receiver = .reading)
    (h : receive u s = some (s', es)) : Effect u s .receive s' es := by
  unfold receive at h
  split at h
  · cases h
  · next inbound m hnext =>
    cases hspawn : u.spawn with
    | true =>
      simp only [hspawn, if_true] at h
      cases h
      exact .spawn hreceiver hspawn hnext
    | false =>
      simp only [hspawn, Bool.false_eq_true, if_false] at h
      cases h
      exact .serve hreceiver hspawn hnext
  · next inbound hnext =>
    cases h
    exact .refuse hreceiver hnext
  · next inbound hnext =>
    cases h
    exact .conclude hreceiver hnext

variable {u : Setup} {s s' : State} {a : Action} {es : List Event}

theorem effect_of_outside (ha : a.part = .outside) (h : step u s a = some (s', es)) :
    Effect u s a s' es := by
  cases a with
  | arrive octets =>
    cases h
    exact .arrive octets
  | endInput ending =>
    cases h
    exact .endInput ending
  | shutdown =>
    cases h
    exact .shutdown
  | hangUp =>
    simp only [step] at h
    split at h
    · cases h
    · next hsender =>
      cases h
      exact .hangUp hsender
  | pass ms =>
    cases h
    exact .pass ms
  | _ => cases ha

theorem effect_of_receiver (ha : a.part = .receiver) (h : step u s a = some (s', es)) :
    Effect u s a s' es := by
  cases a with
  | receive =>
    simp only [step] at h
    split at h
    · next hreceiver => exact effect_of_receive hreceiver h
    · cases h
  | stopReading =>
    simp only [step] at h
    split at h
    · next hreceiver hcancelled =>
      cases h
      exact .stopReading hreceiver hcancelled
    · cases h
  | noteFailure =>
    simp only [step] at h
    split at h
    · next hreceiver =>
      cases h
      exact .noteFailure hreceiver
    · cases h
  | close =>
    simp only [step] at h
    split at h
    · next clean hreceiver =>
      split at h
      · cases h
      · next hready =>
        cases h
        refine .close hreceiver fun hclean => ?_
        subst hclean
        by_cases hcancelled : s.cancelled = true
        · exact .inl hcancelled
        · exact .inr (by simpa [hcancelled] using hready)
    · cases h
  | release =>
    simp only [step] at h
    split at h
    · next hreceiver =>
      cases h
      exact .drain hreceiver
    · next hreceiver =>
      cases h
      exact .cancel hreceiver
    · cases h
  | _ => cases ha

theorem effect_of_task (ha : a.part = .task) (h : step u s a = some (s', es)) : Effect u s a s' es := by
  cases a with
  | run task =>
    obtain ⟨t, t', s₁, ht, hrun, rfl, rfl⟩ := run_eq_some h
    exact .run ht hrun
  | dropAnswer task =>
    simp only [step, bind, Option.bind_eq_some_iff, pure, Option.some.injEq, Prod.mk.injEq] at h
    obtain ⟨t, ht, t', hdrop, rfl, rfl⟩ := h
    cases t with
    | answering m =>
      simp only [Task.drop] at hdrop
      split at hdrop
      · next hcancelled =>
        cases hdrop
        exact .dropAnswer ht hcancelled
      · cases hdrop
    | _ => cases hdrop
  | _ => cases ha

theorem effect_of_sender (ha : a.part = .sender) (h : step u s a = some (s', es)) :
    Effect u s a s' es := by
  cases a with
  | greet =>
    simp only [step] at h
    split at h
    · next hsender =>
      cases h
      exact .greet hsender
    · cases h
  | write =>
    simp only [step] at h
    split at h
    · next m queue hsender hqueue =>
      split at h
      · cases h
      · next hopen =>
        obtain ⟨rfl, hframes⟩ := Prod.mk.inj (Option.some.inj h)
        have hes : es = framesOf u.kind [m] := by
          refine hframes.symm.trans ?_
          cases hencode : u.kind.encode m <;> simp only [framesOf, List.flatMap_singleton, hencode]
        rw [hes]
        exact .write hsender hqueue fun hcancelled => by simpa [hcancelled] using hopen
    · cases h
  | finish =>
    simp only [step] at h
    split at h
    · next hready =>
      obtain ⟨hsender, hready⟩ : s.sender = .streaming ∧
          (s.cancelled = true ∨ (s.drained = true ∧ s.queue = [])) := by
        simpa using hready
      split at h
      · next hkind =>
        cases h
        exact .finishStream hsender hready hkind
      · next hkind =>
        cases h
        exact .finish hsender hready hkind
    · cases h
  | trail =>
    simp only [step] at h
    split at h
    · next hsender =>
      cases h
      exact .trail hsender
    · cases h
  | _ => cases ha

theorem effect_of_step (h : step u s a = some (s', es)) : Effect u s a s' es := by
  cases ha : a.part with
  | outside => exact effect_of_outside ha h
  | receiver => exact effect_of_receiver ha h
  | task => exact effect_of_task ha h
  | sender => exact effect_of_sender ha h

end Switchboard.Session
