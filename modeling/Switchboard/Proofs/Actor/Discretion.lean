-- SUMMARY: The answer to a message does not tell one internal failure of its handler from another.
import Mathlib.Data.List.Forall2
import Switchboard.Actor.Basic
import Switchboard.Proofs.Actor.Dispatch

/-!
# Discretion

A failure that carries no `RpcError` is not meant for the peer, and neither is a
crash. Outcomes are alike if they differ in nothing else (`Outcome.Alike`), scripts if
they do the same and end alike, actors if their handlers are alike and all else is the
same. `Actor.Alike.feed` says that actors that are alike answer alike: with the same
message, or both with an error that only the session gets to know.
-/

namespace Switchboard

/-! ## Outcomes -/

namespace Outcome

variable {α : Type}

/-- The handler came to an end that is not meant for the peer. -/
def isInternal : Outcome α → Bool
  | .failed (.other _) | .crashed => true
  | _ => false

/-- The outcomes are the same, but for what is not meant for the peer. -/
inductive Alike : Outcome α → Outcome α → Prop where
  | refl (o : Outcome α) : Alike o o
  | internal {o o' : Outcome α} : o.isInternal = true → o'.isInternal = true → Alike o o'

theorem Alike.symm {o o' : Outcome α} (h : o.Alike o') : o'.Alike o := by
  cases h with
  | refl => exact .refl o
  | internal ho ho' => exact .internal ho' ho

end Outcome

/-- The answers carry the same message, or none and an error each. -/
inductive Answer.Alike : Answer → Answer → Prop where
  | refl (r : Answer) : Alike r r
  | error (e e' : DispatchError) : Alike (.error e) (.error e')

/-- What the peer gets for an internal failure does not depend on the failure. -/
theorem Actor.conclude_alike (m : Message) {o o' : Outcome Reply} (h : o.Alike o') :
    Answer.Alike (conclude m o) (conclude m o') := by
  cases h with
  | refl => exact .refl _
  | internal ho ho' =>
    have hinternal : ∀ {o : Outcome Reply}, o.isInternal = true →
        o = .crashed ∨ ∃ text, o = .failed (.other text) := by
      intro o ho
      unfold Outcome.isInternal at ho
      split at ho
      · next text => exact .inr ⟨text, rfl⟩
      · exact .inl rfl
      · cases ho
    -- A request gets the same error either way; whatever else it is, nobody is told.
    cases hm : m.content with
    | request id method params =>
      have hanswer : ∀ {o : Outcome Reply}, o.isInternal = true →
          conclude m o = .ok (some (answerWith m (.error id ErrorCode.internalError.toError))) := by
        intro o ho
        obtain rfl | ⟨text, rfl⟩ := hinternal ho <;> simp only [conclude, hm] <;> rfl
      rw [hanswer ho, hanswer ho']
      exact .refl _
    | _ =>
      have herror : ∀ {o : Outcome Reply}, o.isInternal = true → ∃ e, conclude m o = .error e := by
        intro o ho
        obtain rfl | ⟨text, rfl⟩ := hinternal ho <;> simp only [conclude, hm] <;> exact ⟨_, rfl⟩
      obtain ⟨e, he⟩ := herror ho
      obtain ⟨e', he'⟩ := herror ho'
      rw [he, he']
      exact .error e e'

/-! ## Scripts -/

namespace Script

variable {ρ σ ρ' σ' : Type}

/-- The scripts do the same, whatever the session tells them, and their ends are related. -/
inductive Alike (R : ρ → σ → Prop) : Script ρ → Script σ → Prop where
  | done {r : ρ} {q : σ} : R r q → Alike R (.done r) (.done q)
  | push {m : Message} {next : Bool → Script ρ} {next' : Bool → Script σ} :
      (∀ ok, Alike R (next ok) (next' ok)) → Alike R (.push m next) (.push m next')
  | askClosed {next : Bool → Script ρ} {next' : Bool → Script σ} :
      (∀ closed, Alike R (next closed) (next' closed)) → Alike R (.askClosed next) (.askClosed next')
  | sleep {ms : Nat} {next : Script ρ} {next' : Script σ} :
      Alike R next next' → Alike R (.sleep ms next) (.sleep ms next')

namespace Alike

variable {R : ρ → σ → Prop} {s : Script ρ} {t : Script σ}

theorem symm {S : σ → ρ → Prop} (h : Alike R s t) (hS : ∀ {r q}, R r q → S q r) : Alike S t s := by
  induction h with
  | done hr => exact .done (hS hr)
  | push _ ih => exact .push ih
  | askClosed _ ih => exact .askClosed ih
  | sleep _ ih => exact .sleep ih

theorem map {S : ρ' → σ' → Prop} {f : ρ → ρ'} {g : σ → σ'} (h : Alike R s t)
    (hS : ∀ {r q}, R r q → S (f r) (g q)) : Alike S (s.map f) (t.map g) := by
  induction h with
  | done hr => exact .done (hS hr)
  | push _ ih => exact .push ih
  | askClosed _ ih => exact .askClosed ih
  | sleep _ ih => exact .sleep ih

theorem runs (h : Alike R s t) {ms : List Message} {r : ρ} (hs : s.Runs ms r) :
    ∃ q, t.Runs ms q ∧ R r q := by
  induction h generalizing ms with
  | done hr =>
    obtain ⟨rfl, rfl⟩ := runs_done_iff.mp hs
    exact ⟨_, .done _, hr⟩
  | push _ ih =>
    cases hs with
    | push ok hs =>
      obtain ⟨q, ht, hr⟩ := ih ok hs
      exact ⟨q, .push ok ht, hr⟩
  | askClosed _ ih =>
    cases hs with
    | askClosed closed hs =>
      obtain ⟨q, ht, hr⟩ := ih closed hs
      exact ⟨q, .askClosed closed ht, hr⟩
  | sleep _ ih =>
    cases hs with
    | sleep hs =>
      obtain ⟨q, ht, hr⟩ := ih hs
      exact ⟨q, .sleep ht, hr⟩

theorem perform (h : Alike R s t) (closed : Bool) :
    (s.perform closed).1 = (t.perform closed).1 ∧ R (s.perform closed).2 (t.perform closed).2 := by
  induction h with
  | done hr => exact ⟨rfl, hr⟩
  | push _ ih =>
    obtain ⟨hpushed, hr⟩ := ih !closed
    refine ⟨?_, hr⟩
    simp only [Script.perform, hpushed]
  | askClosed _ ih => exact ih closed
  | sleep _ ih => exact ih

end Alike

end Script

/-! ## Handlers -/

/-- The handlers do the same and end alike. -/
def Handler.Alike (h h' : Handler) : Prop :=
  ∀ c params, Script.Alike Outcome.Alike (h c params) (h' c params)

theorem Handler.Alike.symm {h h' : Handler} (hh : Handler.Alike h h') : Handler.Alike h' h :=
  fun c params => (hh c params).symm Outcome.Alike.symm

/-- Typed handlers are alike if their bodies are: a result that cannot be written counts among the
internal failures. -/
theorem TypedHandler.toHandler_alike {ts : List Type} {ρ : Type} {h h' : TypedHandler ts ρ}
    (hparams : h.params = h'.params)
    (hbody : ∀ c args, Script.Alike (fun o o' => (h.reply o).Alike (h'.reply o')) (h.body c args)
      (h'.body c args)) : Handler.Alike h.toHandler h'.toHandler := by
  intro c params
  unfold toHandler
  rw [hparams]
  split
  · exact .done (.refl _)
  · split
    · exact .done (.refl _)
    · next args _ => exact (hbody c args).map fun ho => ho

/-! ## Actors -/

/-- The entries have handlers that are alike, under the same schema and the same types. -/
structure Entry.Alike (e e' : Entry) : Prop where
  handler : Handler.Alike e.handler e'.handler
  schema : e.schema = e'.schema
  shape : e.shape = e'.shape

theorem Entry.Alike.symm {e e' : Entry} (h : e.Alike e') : e'.Alike e :=
  ⟨h.handler.symm, h.schema.symm, h.shape.symm⟩

namespace Actor

/-- The actors agree on everything but the ends of their handlers, and these are alike. -/
structure Alike (a a' : Actor) : Prop where
  entries : List.Forall₂ (fun e e' => e.1 = e'.1 ∧ Entry.Alike e.2 e'.2) a.entries a'.entries
  missing : Option.Rel Handler.Alike a.missing a'.missing
  onClose : a.onClose = a'.onClose
  validator : a.validator = a'.validator
  verify : a.verify = a'.verify

theorem find?_alike {t t' : Keyed Entry}
    (h : List.Forall₂ (fun e e' => e.1 = e'.1 ∧ Entry.Alike e.2 e'.2) t t') (key : String) :
    Option.Rel Entry.Alike (Keyed.find? key t) (Keyed.find? key t') := by
  induction h with
  | nil => exact .none
  | @cons e e' rest rest' he _ ih =>
    obtain ⟨k, v⟩ := e
    obtain ⟨k', v'⟩ := e'
    obtain ⟨rfl, hv⟩ := he
    unfold Keyed.find?
    split
    · exact .some hv
    · exact ih

variable {a a' : Actor}

theorem Alike.symm (h : a.Alike a') : a'.Alike a := by
  refine ⟨?_, ?_, h.onClose.symm, h.validator.symm, h.verify.symm⟩
  · exact (h.entries.imp fun _ _ he => ⟨he.1.symm, he.2.symm⟩).flip
  · have hmissing := h.missing
    generalize a.missing = f at hmissing
    generalize a'.missing = f' at hmissing
    cases hmissing with
    | some hf => exact .some hf.symm
    | none => exact .none

theorem Alike.entry? (h : a.Alike a') (m : Message) :
    Option.Rel Entry.Alike (a.entry? m) (a'.entry? m) := by
  unfold Actor.entry?
  cases m.method? with
  | none => exact .none
  | some method => exact find?_alike h.entries method

theorem Alike.schemaFault? (h : a.Alike a') {e e' : Entry} (he : e.Alike e') (m : Message) :
    a.schemaFault? e m = a'.schemaFault? e' m := by
  unfold Actor.schemaFault?
  rw [h.verify, he.schema, h.validator]

/-- Actors that are alike do the same with every message, and their answers are alike. -/
theorem Alike.feed (h : a.Alike a') (c : Call) :
    Script.Alike Answer.Alike (a.feed c) (a'.feed c) := by
  have hhandler : ∀ {f f' : Handler}, Handler.Alike f f' → Script.Alike Answer.Alike
      ((f c c.params).map (conclude c.message)) ((f' c c.params).map (conclude c.message)) :=
    fun hf => (hf c c.params).map (conclude_alike c.message)
  unfold Actor.feed target
  have hentry := h.entry? c.message
  generalize a.entry? c.message = e at hentry
  generalize a'.entry? c.message = e' at hentry
  cases hentry with
  | @some e e' he =>
    simp only [h.schemaFault? he]
    cases a'.schemaFault? e' c.message with
    | some f => exact .done (.refl _)
    | none => exact hhandler he.handler
  | none =>
    have hmissing := h.missing
    generalize a.missing = f at hmissing
    generalize a'.missing = f' at hmissing
    cases hmissing with
    | some hf => exact hhandler hf
    | none => exact .done (.refl _)

theorem Alike.close (h : a.Alike a') (c : Connection) : a.close c = a'.close c := by
  unfold Actor.close
  rw [h.onClose]

end Actor

end Switchboard
