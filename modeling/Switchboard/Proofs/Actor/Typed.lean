-- SUMMARY: A typed handler runs once if all its parameters can be read, and else tells the first that cannot.
import Switchboard.Proofs.Actor.Dispatch
import Switchboard.Sample.Handlers

/-!
# Typed handlers

A typed handler stands between dispatch and a function over values of its own types.
`ParamTypes.Decodes` says which arguments the positional parameters stand for, and
`ParamTypes.FirstFault` which parameter is the first that cannot be read.
`Actor.feed_typed` says that dispatch runs the function on those arguments and does
nothing else, or does not run it at all.

A function leaves no trace of its having been called. `TypedHandler.announced` gives it
one: it first pushes a mark of what it was called with.
-/

namespace Switchboard

theorem Script.map_map {ρ σ τ : Type} (f : ρ → σ) (g : σ → τ) (s : Script ρ) :
    (s.map f).map g = s.map fun r => g (f r) := by
  induction s with
  | done r => rfl
  | push m next ih => exact congrArg (Script.push m) (funext ih)
  | askClosed next ih => exact congrArg Script.askClosed (funext ih)
  | sleep ms next ih => exact congrArg (Script.sleep ms) ih

namespace ParamTypes

/-! ## Reading parameters -/

/-- The values are read as these arguments, one for each type and nothing left over. -/
def Decodes : {ts : List Type} → ParamTypes ts → List Json → Args ts → Prop
  | [], _, vs, _ => vs = []
  | _ :: _, (p, ps), vs, (a, as) => ∃ v rest, vs = v :: rest ∧ p.read v = .ok a ∧ Decodes ps rest as

/-- What the type at index `i` finds wrong with a value. -/
def fault? : {ts : List Type} → ParamTypes ts → (i : Nat) → Json → Option ConversionError
  | [], _, _, _ => none
  | _ :: _, (p, _), 0, v =>
    match p.read v with
    | .ok _ => none
    | .error e => some e
  | _ :: _, (_, ps), i + 1, v => fault? ps i v

variable {ts : List Type} {ps : ParamTypes ts} {vs : List Json}

/-- The value at index `i` cannot be read, and all before it can. -/
def FirstFault (ps : ParamTypes ts) (vs : List Json) (i : Nat) (e : ConversionError) : Prop :=
  (∃ v, vs[i]? = some v ∧ ps.fault? i v = some e) ∧
    ∀ j < i, ∀ v, vs[j]? = some v → ps.fault? j v = none

/-- The type of each value finds nothing wrong with it. -/
def Faultless (ps : ParamTypes ts) (vs : List Json) : Prop :=
  ∀ i v, vs[i]? = some v → ps.fault? i v = none

theorem FirstFault.cons {α : Type} {p : ParamType α} {v : Json} {a : α} {i : Nat} {e : ConversionError}
    (hv : p.read v = .ok a) (h : FirstFault ps vs i e) :
    @FirstFault (α :: ts) (p, ps) (v :: vs) (i + 1) e := by
  obtain ⟨hat, hbefore⟩ := h
  refine ⟨hat, fun j hj w hw => ?_⟩
  cases j with
  | zero =>
    obtain rfl := Option.some.inj hw
    simp only [fault?, hv]
  | succ j => exact hbefore j (Nat.lt_of_succ_lt_succ hj) w hw

theorem Faultless.cons {α : Type} {p : ParamType α} {v : Json} {a : α} (hv : p.read v = .ok a)
    (h : Faultless ps vs) : @Faultless (α :: ts) (p, ps) (v :: vs) := by
  intro i w hw
  cases i with
  | zero =>
    obtain rfl := Option.some.inj hw
    simp only [fault?, hv]
  | succ i => exact h i w hw

/-- As many values as types are read as arguments, or the first that cannot be read is told, by its
position. -/
theorem read_cases (ps : ParamTypes ts) (position : Nat) (h : vs.length = ts.length) :
    (∃ args, ps.read position vs = .ok args ∧ ps.Decodes vs args ∧ ps.Faultless vs) ∨
    ∃ i e, ps.FirstFault vs i e ∧ ps.read position vs = .error (unreadable (position + i) e) := by
  induction ts generalizing vs position with
  | nil =>
    obtain rfl := List.length_eq_zero_iff.mp h
    exact .inl ⟨(), rfl, rfl, fun _ _ hv => by cases hv⟩
  | cons α ts ih =>
    obtain ⟨p, ps⟩ := ps
    cases vs with
    | nil => cases h
    | cons v vs =>
      cases hv : p.read v with
      | error e =>
        refine .inr ⟨0, e, ⟨⟨v, rfl, by simp only [fault?, hv]⟩, fun j hj => absurd hj (Nat.not_lt_zero j)⟩, ?_⟩
        simp only [read, List.headD_cons, hv, Nat.add_zero]
      | ok a =>
        have hread : @read (α :: ts) (p, ps) position (v :: vs) =
            (read ps (position + 1) vs).map fun as => (a, as) := by
          simp only [read, List.headD_cons, List.tail_cons, hv]
          rfl
        obtain ⟨as, has, hdecodes, hfaultless⟩ | ⟨i, e, hfirst, herror⟩ :=
          ih ps (position + 1) (Nat.succ.inj h)
        · refine .inl ⟨(a, as), ?_, ⟨v, vs, rfl, hv, hdecodes⟩, hfaultless.cons hv⟩
          rw [hread, has]
          rfl
        · refine .inr ⟨i + 1, e, hfirst.cons hv, ?_⟩
          rw [hread, herror, Nat.add_right_comm, Nat.add_assoc]
          rfl

end ParamTypes

namespace TypedHandler

variable {ts : List Type} {ρ : Type}

/-! ## Calling the function -/

/-- The handler whose function pushes a mark of what it is called with before it does anything
else. -/
def announced (mark : Call → Args ts → Message) (h : TypedHandler ts ρ) : TypedHandler ts ρ :=
  { h with body := fun c args => .push (mark c args) fun _ => h.body c args }

section ToHandler

variable {h : TypedHandler ts ρ} {c : Call} {vs : List Json}

theorem toHandler_of_length_ne (hlen : vs.length ≠ ts.length) :
    h.toHandler c vs = .done (.failed (.rpc (.badParams "different params size"))) := by
  simp only [toHandler, if_pos hlen]

theorem toHandler_of_error {e : RpcError} (hlen : vs.length = ts.length)
    (hread : h.params.read 1 vs = .error e) : h.toHandler c vs = .done (.failed (.rpc e)) := by
  simp only [toHandler, hlen, ne_eq, not_true_eq_false, if_false, hread]

theorem toHandler_of_ok {args : Args ts} (hlen : vs.length = ts.length)
    (hread : h.params.read 1 vs = .ok args) : h.toHandler c vs = (h.body c args).map h.reply := by
  simp only [toHandler, hlen, ne_eq, not_true_eq_false, if_false, hread]

end ToHandler

/-- What becomes of a function's end: its result is written, and failing to write it is a failure like
any other that the peer does not hear of. -/
inductive Writes (h : TypedHandler ts ρ) : Outcome ρ → Outcome Json → Prop where
  | written {r : ρ} {v : Json} : h.result.write r = .ok v → Writes h (.returned r) (.returned v)
  | unwritable {r : ρ} {e : ConversionError} : h.result.write r = .error e →
      Writes h (.returned r) (.failed (.other e.message))
  | failed (f : Failure) : Writes h (.failed f) (.failed f)
  | crashed : Writes h .crashed .crashed

end TypedHandler

/-- What dispatching a call comes to when its handler has ended so: a request is answered under its
identifier and trace identifier, and of a notify only failures are told, to the session alone. -/
inductive Message.Told (m : Message) : Outcome Json → Answer → Prop where
  | result {id : RequestId} {method : String} {params : Params} (v : Json) :
      m.content = .request id method params →
      Told m (.returned v) (.ok (some (Actor.answerWith m (.result id v))))
  | error {id : RequestId} {method : String} {params : Params} (e : RpcError) :
      m.content = .request id method params →
      Told m (.failed (.rpc e)) (.ok (some (Actor.answerWith m (.error id e))))
  | internal {id : RequestId} {method : String} {params : Params} (text : String) :
      m.content = .request id method params →
      Told m (.failed (.other text))
        (.ok (some (Actor.answerWith m (.error id ErrorCode.internalError.toError))))
  | crashed {id : RequestId} {method : String} {params : Params} :
      m.content = .request id method params →
      Told m .crashed (.ok (some (Actor.answerWith m (.error id ErrorCode.internalError.toError))))
  | silent {method : String} {params : Params} (v : Json) : m.content = .notify method params →
      Told m (.returned v) (.ok none)
  | notifyFailed {method : String} {params : Params} (f : Failure) : m.content = .notify method params →
      Told m (.failed f) (.error (.failed method f.display))
  | notifyCrashed {method : String} {params : Params} : m.content = .notify method params →
      Told m .crashed (.error (.crashed method))

namespace Actor

variable {ts : List Type} {ρ : Type} {a marked : Actor} {c : Call} {h : TypedHandler ts ρ}

/-! ## Telling how a handler ended -/

theorem told_value {m : Message} (hm : m.isCall) (v : Json) :
    m.Told (.returned v) (conclude m (.returned (.value v))) := by
  cases hc : m.content with
  | request id method params =>
    simp only [conclude, hc]
    exact .result v hc
  | notify method params =>
    simp only [conclude, hc]
    exact .silent v hc
  | _ => simp [Message.isCall, Message.isRequest, Message.isNotify, hc] at hm

theorem told_failed {m : Message} (hm : m.isCall) (f : Failure) :
    m.Told (.failed f) (conclude m (.failed f)) := by
  cases hc : m.content with
  | request id method params =>
    simp only [conclude, hc]
    cases f with
    | rpc e => exact .error e hc
    | other text => exact .internal text hc
  | notify method params =>
    simp only [conclude, hc, label, Message.method?, Option.getD_some]
    exact .notifyFailed f hc
  | _ => simp [Message.isCall, Message.isRequest, Message.isNotify, hc] at hm

theorem told_crashed {m : Message} (hm : m.isCall) : m.Told .crashed (conclude m .crashed) := by
  cases hc : m.content with
  | request id method params =>
    simp only [conclude, hc]
    exact .crashed hc
  | notify method params =>
    simp only [conclude, hc, label, Message.method?, Option.getD_some]
    exact .notifyCrashed hc
  | _ => simp [Message.isCall, Message.isRequest, Message.isNotify, hc] at hm

theorem exists_told {m : Message} (hm : m.isCall) (o : Outcome ρ) :
    ∃ q, h.Writes o q ∧ m.Told q (conclude m (h.reply o)) := by
  cases o with
  | returned r =>
    cases hr : h.result.write r with
    | ok v =>
      have hreply : h.reply (.returned r) = .returned (.value v) := by
        simp only [TypedHandler.reply, Outcome.bind, hr]
      exact ⟨_, .written hr, hreply ▸ told_value hm v⟩
    | error e =>
      have hreply : h.reply (.returned r) = .failed (.other e.message) := by
        simp only [TypedHandler.reply, Outcome.bind, hr]
      exact ⟨_, .unwritable hr, hreply ▸ told_failed hm _⟩
  | failed f => exact ⟨_, .failed f, told_failed hm f⟩
  | crashed => exact ⟨_, .crashed, told_crashed hm⟩

/-! ## Dispatch to a typed handler -/

/-- A message that its schema lets pass is handled by the handler of its method. -/
theorem feed_of_entry {name : String} {e : Entry} (hname : c.message.method? = some name)
    (hentry : Keyed.find? name a.entries = some e) (hvalid : ∀ f, ¬a.Rejects c.message f) :
    a.feed c = (e.handler c c.params).map (conclude c.message) := by
  have hown : a.entry? c.message = some e := by
    simp only [hname, hentry, entry?, Option.bind_some]
  have hfault : a.schemaFault? e c.message = none := by
    cases hf : a.schemaFault? e c.message with
    | none => rfl
    | some f =>
      unfold schemaFault? at hf
      split at hf
      · next schema validate hverify hschema hvalidator =>
        exact absurd (.intro hname hentry hverify hschema hvalidator hf) (hvalid f)
      · cases hf
  simp only [feed, target, hown, hfault]

/-- The actor with a typed handler in an entry that announces its calls. -/
def announcing (a : Actor) (name : String) (e : Entry) (h : TypedHandler ts ρ)
    (mark : Call → Args ts → Message) : Actor :=
  { a with entries := Keyed.insert name { e with handler := (h.announced mark).toHandler } a.entries }

theorem feed_announcing {name : String} {e : Entry} {mark : Call → Args ts → Message}
    (hname : c.message.method? = some name) (hentry : Keyed.find? name a.entries = some e)
    (hvalid : ∀ f, ¬a.Rejects c.message f) :
    (a.announcing name e h mark).feed c =
      ((h.announced mark).toHandler c c.params).map (conclude c.message) := by
  have hfind : Keyed.find? name (a.announcing name e h mark).entries =
      some { e with handler := (h.announced mark).toHandler } := by
    simp only [announcing, Keyed.find?_insert, if_true]
  refine feed_of_entry hname hfind ?_
  rintro f ⟨hname', hentry', hverify, hschema, hvalidator, hf⟩
  obtain rfl := Option.some.inj (hname.symm.trans hname')
  obtain rfl := Option.some.inj (hfind.symm.trans hentry')
  exact hvalid f (.intro hname hentry hverify hschema hvalidator hf)

/-- Dispatch calls the function of a typed handler with these arguments, once, does nothing else, and
tells how it ended. -/
def CallsWith (a marked : Actor) (c : Call) (h : TypedHandler ts ρ) (mark : Call → Args ts → Message)
    (args : Args ts) : Prop :=
  ∃ answer : Outcome ρ → Answer,
    a.feed c = (h.body c args).map answer ∧
    marked.feed c = .push (mark c args) (fun _ => (h.body c args).map answer) ∧
    ∀ o, ∃ q, h.Writes o q ∧ c.message.Told q (answer o)

/-- Dispatch runs nothing and tells this error. -/
def RefusesWith (a marked : Actor) (c : Call) (e : RpcError) : Prop :=
  ∃ r, a.feed c = .done r ∧ marked.feed c = .done r ∧ c.message.Told (.failed (.rpc e)) r

theorem refusesWith {e : RpcError} (hcall : c.message.isCall)
    (ha : a.feed c = .done (conclude c.message (.failed (.rpc e))))
    (hmarked : marked.feed c = .done (conclude c.message (.failed (.rpc e)))) :
    RefusesWith a marked c e :=
  ⟨_, ha, hmarked, told_failed hcall (.rpc e)⟩

/-- A message for a typed handler that its schema lets pass either has as many parameters as the
handler has types, each of which can be read: then the function is called once, with the values that
were read, in order. Or there is another number of them: then this is all that is told. Or there are
as many, and the first that cannot be read is told by its position, counted from 1. -/
theorem feed_typed {name : String} {e : Entry} {params : Params}
    (hcontent : (∃ id, c.message.content = .request id name params) ∨
      c.message.content = .notify name params)
    (hentry : Keyed.find? name a.entries = some e) (hhandler : e.handler = h.toHandler)
    (hvalid : ∀ f, ¬a.Rejects c.message f) (mark : Call → Args ts → Message) :
    (params.toList.length = ts.length ∧ h.params.Faultless params.toList ∧
      ∃ args, h.params.Decodes params.toList args ∧
        CallsWith a (a.announcing name e h mark) c h mark args) ∨
    (params.toList.length ≠ ts.length ∧
      RefusesWith a (a.announcing name e h mark) c
        { code := -32602, message := "different params size" }) ∨
    (params.toList.length = ts.length ∧ ∃ i fault, h.params.FirstFault params.toList i fault ∧
      RefusesWith a (a.announcing name e h mark) c
        { code := -32602,
          message := "params " ++ Text.numeral ((i + 1 : Nat) : Int) ++ " got unconvertible type: " ++ fault.message }) := by
  have hname : c.message.method? = some name := by
    obtain ⟨id, hc⟩ | hc := hcontent <;> simp only [Message.method?, hc]
  have hparams : c.params = params.toList := by
    obtain ⟨id, hc⟩ | hc := hcontent <;>
      simp only [Call.params, Message.positional, Message.params?, hc, Option.map_some, Option.getD_some]
  have hcall : c.message.isCall := by
    obtain ⟨id, hc⟩ | hc := hcontent <;>
      simp only [Message.isCall, Message.isRequest, Message.isNotify, hc, Bool.or_true, Bool.or_false]
  have hfeed := feed_of_entry hname hentry hvalid
  have hmarked :
      (a.announcing name e h mark).feed c = ((h.announced mark).toHandler c c.params).map (conclude c.message) :=
    feed_announcing hname hentry hvalid
  rw [hhandler, hparams] at hfeed
  rw [hparams] at hmarked
  by_cases hlen : params.toList.length = ts.length
  · obtain ⟨args, hread, hdecodes, hfaultless⟩ | ⟨i, fault, hfirst, hread⟩ := h.params.read_cases 1 hlen
    · refine .inl ⟨hlen, hfaultless, args, hdecodes, fun o => conclude c.message (h.reply o), ?_, ?_, ?_⟩
      · rw [hfeed, TypedHandler.toHandler_of_ok hlen hread, Script.map_map]
      · rw [hmarked, TypedHandler.toHandler_of_ok (h := h.announced mark) hlen hread, Script.map_map]
        rfl
      · exact fun o => exists_told hcall o
    · refine .inr (.inr ⟨hlen, i, fault, hfirst, refusesWith hcall ?_ ?_⟩)
      · rw [hfeed, TypedHandler.toHandler_of_error hlen hread, Nat.add_comm]
        rfl
      · rw [hmarked, TypedHandler.toHandler_of_error (h := h.announced mark) hlen hread, Nat.add_comm]
        rfl
  · refine .inr (.inl ⟨hlen, refusesWith hcall ?_ ?_⟩)
    · rw [hfeed, TypedHandler.toHandler_of_length_ne hlen]
      rfl
    · rw [hmarked, TypedHandler.toHandler_of_length_ne hlen]
      rfl

/-- An actor with one typed method, which takes an integer, a text and a truth value. -/
def triple : Actor where
  entries := [("three", Sample.typed Sample.three)]

/-- A request whose second and third parameters are of the wrong kind. -/
def tripleOfNumbers : Call :=
  ⟨.request (.text "x") "three" (.list [.num ⟨"1"⟩, .num ⟨"2"⟩, .num ⟨"3"⟩]), .detached⟩

theorem feed_typed_tripleOfNumbers :
    (∃ id, tripleOfNumbers.message.content =
      .request id "three" (.list [.num ⟨"1"⟩, .num ⟨"2"⟩, .num ⟨"3"⟩])) ∧
    Keyed.find? "three" triple.entries = some (Sample.typed Sample.three) ∧
    (∀ f, ¬triple.Rejects tripleOfNumbers.message f) ∧
    RefusesWith triple
      (triple.announcing "three" (Sample.typed Sample.three) Sample.three fun c _ => c.message)
      tripleOfNumbers
      { code := -32602,
        message := "params 2 got unconvertible type: invalid type: number, expected a string" } := by
  have hvalid : ∀ f, ¬triple.Rejects tripleOfNumbers.message f := by
    rintro f ⟨-, -, -, -, hvalidator, -⟩
    cases hvalidator
  refine ⟨⟨_, rfl⟩, rfl, hvalid, ?_⟩
  obtain ⟨-, hfaultless, -⟩ | ⟨hlen, -⟩ | ⟨-, i, fault, ⟨⟨v, hv, hfault⟩, hbefore⟩, hrefuses⟩ :=
    feed_typed (a := triple) (c := tripleOfNumbers) (h := Sample.three) (.inl ⟨_, rfl⟩) rfl rfl hvalid
      fun c _ => c.message
  · cases hfaultless 1 _ rfl
  · exact absurd rfl hlen
  · match i with
    | 0 =>
      cases hv
      cases hfault
    | 1 =>
      cases hv
      cases hfault
      exact hrefuses
    | i + 2 => cases hbefore 1 (by omega) _ rfl

end Actor

end Switchboard
