-- SUMMARY: Dispatch runs at most one handler, once, and answers requests and nothing else.
import Switchboard.Actor.Basic
import Switchboard.Proofs.Keyed

/-!
# Dispatch

What `Actor.feed` comes to, whatever the handlers do and whatever the session
answers them meanwhile. `Actor.Claims` says which handler a message is for and
`Actor.Rejects` when its schema keeps it from its handler; `Actor.Answers` says how
a request is answered for each way in which a handler can end.

A handler leaves no trace of its having run. `Actor.marked` gives it one: every
handler first pushes a mark that names the place where it is registered, so the
marks among the messages pushed count the handlers that ran.
-/

namespace Switchboard

/-! ## Runs of scripts -/

namespace Script

variable {ρ σ : Type}

/-- A run of a script: the messages that it pushes and how it ends. The session
answers at will, and differently each time it is asked. -/
inductive Runs : Script ρ → List Message → ρ → Prop where
  | done (r : ρ) : Runs (.done r) [] r
  | push {m : Message} {next : Bool → Script ρ} {ms : List Message} {r : ρ} (ok : Bool) :
      Runs (next ok) ms r → Runs (.push m next) (m :: ms) r
  | askClosed {next : Bool → Script ρ} {ms : List Message} {r : ρ} (closed : Bool) :
      Runs (next closed) ms r → Runs (.askClosed next) ms r
  | sleep {duration : Nat} {next : Script ρ} {ms : List Message} {r : ρ} :
      Runs next ms r → Runs (.sleep duration next) ms r

/-- Every script comes to an end. -/
theorem exists_runs (s : Script ρ) : ∃ ms r, s.Runs ms r := by
  induction s with
  | done r => exact ⟨[], r, .done r⟩
  | push m next ih =>
    obtain ⟨ms, r, h⟩ := ih true
    exact ⟨m :: ms, r, .push true h⟩
  | askClosed next ih =>
    obtain ⟨ms, r, h⟩ := ih false
    exact ⟨ms, r, .askClosed false h⟩
  | sleep duration next ih =>
    obtain ⟨ms, r, h⟩ := ih
    exact ⟨ms, r, .sleep h⟩

/-- Running a script in one go is a run of it. -/
theorem exists_runs_perform (closed : Bool) (s : Script ρ) : ∃ ms, s.Runs ms (s.perform closed).2 := by
  induction s with
  | done r => exact ⟨[], .done r⟩
  | push m next ih =>
    obtain ⟨ms, h⟩ := ih !closed
    exact ⟨m :: ms, .push _ h⟩
  | askClosed next ih =>
    obtain ⟨ms, h⟩ := ih closed
    exact ⟨ms, .askClosed _ h⟩
  | sleep duration next ih =>
    obtain ⟨ms, h⟩ := ih
    exact ⟨ms, .sleep h⟩

@[simp]
theorem runs_done_iff {q r : ρ} {ms : List Message} : (Script.done q).Runs ms r ↔ ms = [] ∧ r = q := by
  constructor
  · intro h
    cases h with
    | done => exact ⟨rfl, rfl⟩
  · rintro ⟨rfl, rfl⟩
    exact .done r

theorem runs_push_iff {m : Message} {next : Bool → Script ρ} {ms : List Message} {r : ρ} :
    (Script.push m next).Runs ms r ↔ ∃ ok rest, (next ok).Runs rest r ∧ ms = m :: rest := by
  constructor
  · intro h
    cases h with
    | push ok h => exact ⟨ok, _, h, rfl⟩
  · rintro ⟨ok, rest, h, rfl⟩
    exact .push ok h

theorem Runs.of_map {f : ρ → σ} {s : Script ρ} {ms : List Message} {q : σ}
    (h : (s.map f).Runs ms q) : ∃ r, s.Runs ms r ∧ q = f r := by
  induction s generalizing ms with
  | done r =>
    obtain ⟨rfl, rfl⟩ := runs_done_iff.mp h
    exact ⟨r, .done r, rfl⟩
  | push m next ih =>
    cases h with
    | push ok h =>
      obtain ⟨r, hr, hq⟩ := ih ok h
      exact ⟨r, .push ok hr, hq⟩
  | askClosed next ih =>
    cases h with
    | askClosed closed h =>
      obtain ⟨r, hr, hq⟩ := ih closed h
      exact ⟨r, .askClosed closed hr, hq⟩
  | sleep duration next ih =>
    cases h with
    | sleep h =>
      obtain ⟨r, hr, hq⟩ := ih h
      exact ⟨r, .sleep hr, hq⟩

end Script

namespace Actor

/-! ## Who runs -/

/-- Where a handler is registered. -/
inductive Source where
  | method (name : String)
  | missing
deriving DecidableEq, Repr

/-- The handler that a message is for: that of its method, or else the one for
messages that no method claims. -/
inductive Claims (a : Actor) (m : Message) : Source → Handler → Prop where
  | method {name : String} {e : Entry} :
      m.method? = some name → Keyed.find? name a.entries = some e →
      Claims a m (.method name) e.handler
  | missing {h : Handler} :
      (∀ name, m.method? = some name → Keyed.find? name a.entries = none) → a.missing = some h →
      Claims a m .missing h

/-- The schema of its method is checked and rejects the message. -/
inductive Rejects (a : Actor) (m : Message) (f : SchemaFault) : Prop where
  | intro {name : String} {e : Entry} {schema : Json} {validate : Validator} :
      m.method? = some name → Keyed.find? name a.entries = some e → a.verify = true →
      e.schema = some schema → a.validator = some validate → validate schema m = some f →
      Rejects a m f

/-- The handler that pushes a mark before it does anything else. -/
def announced (mark : Message) (h : Handler) : Handler :=
  fun c params => .push mark fun _ => h c params

/-- The actor whose handlers push a mark of the place where they are registered. -/
def marked (mark : Source → Message) (a : Actor) : Actor :=
  { a with
    entries := a.entries.map fun e =>
      (e.1, { e.2 with handler := announced (mark (.method e.1)) e.2.handler })
    missing := a.missing.map (announced (mark .missing)) }

@[simp]
theorem marked_missing (a : Actor) (mark : Source → Message) :
    (a.marked mark).missing = a.missing.map (announced (mark .missing)) := rfl

/-! ## Answers -/

/-- The answer to a request with this content. -/
def answerWith (m : Message) (content : Content) : Message := { content, traceId := m.traceId }

/-- How a request under an id is answered when its handler has ended. -/
inductive Answers (m : Message) (id : RequestId) : Outcome Reply → Message → Prop where
  | message (reply : Message) : Answers m id (.returned (.message reply)) reply
  | value (v : Json) : Answers m id (.returned (.value v)) (answerWith m (.result id v))
  | rpc (e : RpcError) : Answers m id (.failed (.rpc e)) (answerWith m (.error id e))
  | other (text : String) :
      Answers m id (.failed (.other text)) (answerWith m (.error id ErrorCode.internalError.toError))
  | crashed : Answers m id .crashed (answerWith m (.error id ErrorCode.internalError.toError))

theorem conclude_of_request {m : Message} {id : RequestId} {method : String} {params : Params}
    (hm : m.content = .request id method params) (o : Outcome Reply) :
    ∃ reply, conclude m o = .ok (some reply) ∧ Answers m id o reply := by
  rcases o with (v | reply) | (e | text) | _
  · exact ⟨_, by simp only [conclude, hm]; rfl, .value v⟩
  · exact ⟨reply, by simp only [conclude, hm], .message reply⟩
  · exact ⟨_, by simp only [conclude, hm]; rfl, .rpc e⟩
  · exact ⟨_, by simp only [conclude, hm]; rfl, .other text⟩
  · exact ⟨_, by simp only [conclude, hm]; rfl, .crashed⟩

theorem conclude_ne_answer {m : Message} (hm : m.isRequest = false) (o : Outcome Reply)
    (reply : Message) : conclude m o ≠ .ok (some reply) := by
  cases hc : m.content with
  | request id method params => simp [Message.isRequest, hc] at hm
  | notify method params => cases o <;> simp [conclude, hc]
  | result id value => cases o <;> simp [conclude, hc]
  | error id e => cases o <;> simp [conclude, hc]

theorem refuse?_of_request {m : Message} {id : RequestId} {method : String} {params : Params}
    (hm : m.content = .request id method params) (e : RpcError) :
    m.refuse? e = some (answerWith m (.error id e)) := by
  simp only [Message.refuse?, hm, answerWith]

theorem refuse?_eq_none {m : Message} (hm : m.isRequest = false) (e : RpcError) :
    m.refuse? e = none := by
  cases hc : m.content with
  | request id method params => simp [Message.isRequest, hc] at hm
  | notify method params => simp [Message.refuse?, hc]
  | result id value => simp [Message.refuse?, hc]
  | error id e => simp [Message.refuse?, hc]

/-! ## Targets -/

theorem lookUp_marked (a : Actor) (mark : Source → Message) (m : Message) :
    entry? (a.marked mark) m = m.method?.bind fun name => (Keyed.find? name a.entries).map fun e =>
      { e with handler := announced (mark (.method name)) e.handler } := by
  simp only [marked, entry?]
  congr 1
  funext name
  exact Keyed.find?_map
    (fun name (e : Entry) => { e with handler := announced (mark (.method name)) e.handler })
    name a.entries

/-- Where a message goes, also with the handlers marked: to the one that claims it, unless its
schema rejects it, or nowhere. -/
theorem target_marked (a : Actor) (mark : Source → Message) (m : Message) :
    (∃ source h, a.Claims m source h ∧ (∀ f, ¬ a.Rejects m f) ∧ a.target m = .handler h ∧
      (a.marked mark).target m = .handler (announced (mark source) h)) ∨
    (∃ f, a.Rejects m f ∧ a.target m = .rejected f ∧ (a.marked mark).target m = .rejected f) ∨
    ((∀ source h, ¬ a.Claims m source h) ∧ a.target m = .unclaimed ∧
      (a.marked mark).target m = .unclaimed) := by
  have hentry := a.lookUp_marked mark m
  by_cases hfound : ∃ name e, m.method? = some name ∧ Keyed.find? name a.entries = some e
  · obtain ⟨name, e, hname, he⟩ := hfound
    have hown : entry? a m = some e := by
      simp only [hname, he, entry?, Option.bind_some]
    simp only [hname, he, Option.bind_some, Option.map_some] at hentry
    have hfault : (a.marked mark).schemaFault? { e with handler := announced (mark (.method name)) e.handler } m
        = a.schemaFault? e m := rfl
    cases hf : a.schemaFault? e m with
    | none =>
      left
      refine ⟨.method name, e.handler, .method hname he, ?_, by simp only [target, hown, hf], ?_⟩
      · rintro f ⟨hname', he', hverify, hschema, hvalidator, hf'⟩
        obtain rfl := Option.some.inj (hname.symm.trans hname')
        obtain rfl := Option.some.inj (he.symm.trans he')
        simp [schemaFault?, hverify, hschema, hvalidator, hf'] at hf
      · simp only [target, hentry, hfault, hf]
    | some f =>
      right; left
      refine ⟨f, ?_, by simp only [target, hown, hf], by simp only [target, hentry, hfault, hf]⟩
      unfold schemaFault? at hf
      split at hf
      · next schema validate hverify hschema hvalidator =>
        exact .intro hname he hverify hschema hvalidator hf
      · cases hf
  · have hfree : ∀ name, m.method? = some name → Keyed.find? name a.entries = none := by
      intro name hname
      cases he : Keyed.find? name a.entries with
      | none => rfl
      | some e => exact absurd ⟨name, e, hname, he⟩ hfound
    have hown : entry? a m = none := by
      unfold entry?
      cases hname : m.method? with
      | none => rfl
      | some name => exact hfree name hname
    have hnone : entry? (a.marked mark) m = none := by
      rw [hentry]
      cases hname : m.method? with
      | none => rfl
      | some name => simp [hfree name hname]
    cases hmissing : a.missing with
    | some h =>
      left
      refine ⟨.missing, h, .missing hfree hmissing, ?_, by simp only [target, hown, hmissing], ?_⟩
      · rintro f ⟨hname, he, -⟩
        rw [hfree _ hname] at he
        cases he
      · simp only [target, hnone, marked_missing, hmissing, Option.map_some]
    | none =>
      right; right
      refine ⟨?_, by simp only [target, hown, hmissing],
        by simp only [target, hnone, marked_missing, hmissing, Option.map_none]⟩
      rintro source h (⟨hname, he⟩ | ⟨-, hh⟩)
      · rw [hfree _ hname] at he
        cases he
      · rw [hmissing] at hh
        cases hh

/-! ## Dispatch -/

/-- A marked actor does what the actor does, after the mark of the handler if one runs. -/
theorem feed_marked (a : Actor) (mark : Source → Message) (c : Call) :
    (a.marked mark).feed c = a.feed c ∨
      ∃ source, (a.marked mark).feed c = .push (mark source) fun _ => a.feed c := by
  obtain ⟨source, h, -, -, hown, ht⟩ | ⟨f, -, hown, ht⟩ | ⟨-, hown, ht⟩ :=
    a.target_marked mark c.message
  · refine .inr ⟨source, ?_⟩
    simp only [feed, ht, hown]
    rfl
  · refine .inl ?_
    simp only [feed, ht, hown]
  · refine .inl ?_
    simp only [feed, ht, hown]

/-- However the handlers go, a request is answered by a message and nothing else is. -/
theorem answer_of_runs {a : Actor} {c : Call} {pushed : List Message} {r : Answer}
    (h : (a.feed c).Runs pushed r) :
    (c.message.isRequest = true → ∃ reply, r = .ok (some reply)) ∧
    (c.message.isRequest = false → ∀ reply, r ≠ .ok (some reply)) := by
  have hreq : c.message.isRequest = true → ∃ id method params, c.message.content = .request id method params := by
    intro hm
    cases hc : c.message.content with
    | request id method params => exact ⟨id, method, params, rfl⟩
    | _ => simp [Message.isRequest, hc] at hm
  unfold feed at h
  split at h
  · obtain ⟨o, -, rfl⟩ := h.of_map
    refine ⟨fun hm => ?_, fun hm reply => conclude_ne_answer hm o reply⟩
    obtain ⟨id, method, params, hc⟩ := hreq hm
    obtain ⟨reply, hreply, -⟩ := conclude_of_request hc o
    exact ⟨reply, hreply⟩
  · next f _ =>
    obtain ⟨-, rfl⟩ := Script.runs_done_iff.mp h
    refine ⟨fun hm => ?_, fun hm reply => by simp [reject, refuse?_eq_none hm]⟩
    obtain ⟨id, method, params, hc⟩ := hreq hm
    exact ⟨answerWith c.message (.error id f.toError), by simp only [reject, refuse?_of_request hc]⟩
  · obtain ⟨-, rfl⟩ := Script.runs_done_iff.mp h
    refine ⟨fun hm => ?_, fun hm reply => by simp [refuse?_eq_none hm]⟩
    obtain ⟨id, method, params, hc⟩ := hreq hm
    exact ⟨_, by rw [refuse?_of_request hc]⟩

/-- Dispatch always ends, and a marked actor dispatches as the actor itself does, but for the mark.
At most one handler runs, and it runs once: the one that claims the message, or none if the schema
rejects the message or nothing claims it. A request is answered, under its own identifier and trace
identifier unless its handler returned a complete message; anything else never is. -/
theorem feed_answers_once (a : Actor) (mark : Source → Message) (c : Call) :
    (∃ pushed r, ((a.marked mark).feed c).Runs pushed r) ∧
    ((a.marked mark).feed c = a.feed c ∨
      ∃ source, (a.marked mark).feed c = .push (mark source) fun _ => a.feed c) ∧
    ∀ pushed r, ((a.marked mark).feed c).Runs pushed r →
      ((∃ source h own o, a.Claims c.message source h ∧ (∀ f, ¬ a.Rejects c.message f) ∧
          pushed = mark source :: own ∧ (h c c.params).Runs own o ∧
          (c.message.isRequest → ∃ id reply,
            c.message.id? = some id ∧ r = .ok (some reply) ∧ Answers c.message id o reply)) ∨
        (∃ f, a.Rejects c.message f ∧ pushed = [] ∧
          (c.message.isRequest → ∃ id,
            c.message.id? = some id ∧ r = .ok (some (answerWith c.message (.error id f.toError))))) ∨
        ((∀ source h, ¬ a.Claims c.message source h) ∧ pushed = [] ∧
          (c.message.isRequest → ∃ id, c.message.id? = some id ∧
            r = .ok (some (answerWith c.message (.error id ErrorCode.methodNotFound.toError)))))) ∧
      (c.message.isRequest = false → ∀ reply, r ≠ .ok (some reply)) := by
  refine ⟨Script.exists_runs _, feed_marked a mark c, ?_⟩
  intro pushed r hr
  have hreq : c.message.isRequest → ∃ id method params, c.message.content = .request id method params := by
    intro h
    cases hc : c.message.content with
    | request id method params => exact ⟨id, method, params, rfl⟩
    | _ => simp [Message.isRequest, hc] at h
  obtain ⟨source, h, hclaims, hok, -, ht⟩ | ⟨f, hf, -, ht⟩ | ⟨hfree, -, ht⟩ :=
    a.target_marked mark c.message
  · simp only [feed, ht] at hr
    obtain ⟨o, ho, rfl⟩ := hr.of_map
    obtain ⟨ok, own, hown, rfl⟩ := Script.runs_push_iff.mp ho
    refine ⟨.inl ⟨source, h, own, o, hclaims, hok, rfl, hown, ?_⟩, fun hm => conclude_ne_answer hm o⟩
    intro hm
    obtain ⟨id, method, params, hc⟩ := hreq hm
    obtain ⟨reply, hreply, hanswers⟩ := conclude_of_request hc o
    exact ⟨id, reply, by simp only [Message.id?, hc], hreply, hanswers⟩
  · simp only [feed, ht] at hr
    obtain ⟨rfl, rfl⟩ := Script.runs_done_iff.mp hr
    refine ⟨.inr (.inl ⟨f, hf, rfl, ?_⟩), ?_⟩
    · intro hm
      obtain ⟨id, method, params, hc⟩ := hreq hm
      exact ⟨id, by simp only [Message.id?, hc], by simp only [reject, refuse?_of_request hc]⟩
    · intro hm reply
      simp [reject, refuse?_eq_none hm]
  · simp only [feed, ht] at hr
    obtain ⟨rfl, rfl⟩ := Script.runs_done_iff.mp hr
    refine ⟨.inr (.inr ⟨hfree, rfl, ?_⟩), ?_⟩
    · intro hm
      obtain ⟨id, method, params, hc⟩ := hreq hm
      exact ⟨id, by simp only [Message.id?, hc], by simp only [refuse?_of_request hc]⟩
    · intro hm reply
      simp [refuse?_eq_none hm]

end Actor

end Switchboard
