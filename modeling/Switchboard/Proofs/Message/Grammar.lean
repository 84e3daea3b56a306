-- SUMMARY: Which values are messages and of what kind, and the first fault of a value that is none.
import Switchboard.Message.Codec
import Switchboard.Proofs.Keyed

/-!
# The grammar of messages

Six members of an object decide whether it is a message. `Message.Grammar` says what the
object of each kind looks like and what the message makes of its members, and
`Message.Fault` what is wrong with a value that is no message: of several faults the one
that counts. A member may be absent or present and null, and these are two different
things everywhere but for parameters.

A value has a content under the grammar or else a fault (`Message.grammar_or_fault`). As
reading agrees with either, it agrees with the grammar on all values.
-/

namespace Switchboard

open Keyed (find?)

/-! ## Parts of a message -/

namespace JsonNumber

/-- The token is the literal of an integer: digits, perhaps behind a minus sign. -/
def Denotes (n : JsonNumber) (i : Int) : Prop :=
  ∃ ds : List Char, ds ≠ [] ∧ (∀ d ∈ ds, d.isDigit) ∧
    ((n.token.toList = ds ∧ i = Nat.ofDigitChars 10 ds 0) ∨
      (n.token.toList = '-' :: ds ∧ i = -(Nat.ofDigitChars 10 ds 0 : Int)))

end JsonNumber

/-- The text that a member is; one that is absent or no text counts as empty. -/
def Json.textOf : Option Json → String
  | some (.str s) => s
  | _ => ""

/-- The value is an identifier. -/
inductive RequestId.Names : Json → RequestId → Prop where
  | number (n : JsonNumber) : Names (.num n) (.number n)
  | text (s : String) : Names (.str s) (.text s)
  | null : Names .null .null

/-- The member holds parameters. Absent and null ones are the empty list. -/
inductive Params.Given : Option Json → Params → Prop where
  | absent : Given none (.list [])
  | null : Given (some .null) (.list [])
  | list (items : List Json) : Given (some (.arr items)) (.list items)
  | keyed (members : Keyed Json) : Given (some (.obj members)) (.keyed members)

/-- The value is an object that describes an error. Its code is the literal of an integer that a
signed word of 64 bits holds; its data is there or not, as the member is. -/
inductive RpcError.Described : Json → RpcError → Prop where
  | intro {members : Keyed Json} {n : JsonNumber} {e : RpcError}
      (code : find? "code" members = some (.num n)) (literal : n.Denotes e.code.toInt)
      (message : e.message = Json.textOf (find? "message" members))
      (data : e.data = find? "data" members) : Described (.obj members) e

namespace Message

variable {members : Keyed Json}

/-! ## The grammar -/

/-- The object with these members is a message with this content. -/
inductive Grammar (members : Keyed Json) : Content → Prop where
  | request {name : String} {params : Params} {v : Json} {id : RequestId}
      (method : find? "method" members = some (.str name))
      (given : Params.Given (find? "params" members) params)
      (present : find? "id" members = some v) (names : RequestId.Names v id) :
      Grammar members (.request id name params)
  | notify {name : String} {params : Params}
      (method : find? "method" members = some (.str name))
      (given : Params.Given (find? "params" members) params)
      (absent : find? "id" members = none) : Grammar members (.notify name params)
  | result {v : Json} {id : RequestId} {value : Json}
      (method : find? "method" members = none)
      (present : find? "id" members = some v) (names : RequestId.Names v id)
      (result : find? "result" members = some value) : Grammar members (.result id value)
  | error {v w : Json} {id : RequestId} {e : RpcError}
      (method : find? "method" members = none)
      (present : find? "id" members = some v) (names : RequestId.Names v id)
      (result : find? "result" members = none) (error : find? "error" members = some w)
      (described : RpcError.Described w e) : Grammar members (.error id e)

/-- What is wrong with a value that is no message. Each fault is reported only where those that are
looked for before it are not there. -/
inductive Fault : Json → DecodeError → Prop where
  | notObject {v : Json} (other : ∀ members, v ≠ .obj members) : Fault v .notObject
  | method {members : Keyed Json} {v : Json} (method : find? "method" members = some v)
      (noText : ∀ name, v ≠ .str name) : Fault (.obj members) .invalidMethod
  | params {members : Keyed Json} {name : String} (method : find? "method" members = some (.str name))
      (bad : ∀ p, ¬Params.Given (find? "params" members) p) : Fault (.obj members) .invalidParams
  | callId {members : Keyed Json} {name : String} {params : Params} {v : Json}
      (method : find? "method" members = some (.str name))
      (given : Params.Given (find? "params" members) params)
      (present : find? "id" members = some v) (bad : ∀ id, ¬RequestId.Names v id) :
      Fault (.obj members) .invalidId
  | noId {members : Keyed Json} (method : find? "method" members = none)
      (absent : find? "id" members = none) : Fault (.obj members) .missingFields
  | answerId {members : Keyed Json} {v : Json} (method : find? "method" members = none)
      (present : find? "id" members = some v) (bad : ∀ id, ¬RequestId.Names v id) :
      Fault (.obj members) .invalidId
  | error {members : Keyed Json} {v w : Json} {id : RequestId} (method : find? "method" members = none)
      (present : find? "id" members = some v) (names : RequestId.Names v id)
      (result : find? "result" members = none) (error : find? "error" members = some w)
      (bad : ∀ e, ¬RpcError.Described w e) : Fault (.obj members) .invalidErrorObject
  | noAnswer {members : Keyed Json} {v : Json} {id : RequestId} (method : find? "method" members = none)
      (present : find? "id" members = some v) (names : RequestId.Names v id)
      (result : find? "result" members = none) (error : find? "error" members = none) :
      Fault (.obj members) .missingFields

/-- The object calls a method. -/
def IsCallObject (members : Keyed Json) : Prop :=
  (∃ name, find? "method" members = some (.str name)) ∧
    (∃ params, Params.Given (find? "params" members) params) ∧
    ∀ v, find? "id" members = some v → ∃ id, RequestId.Names v id

/-- The object answers a request. -/
def IsAnswerObject (members : Keyed Json) : Prop :=
  find? "method" members = none ∧
    (∃ v id, find? "id" members = some v ∧ RequestId.Names v id) ∧
    ((∃ value, find? "result" members = some value) ∨
      ∃ w e, find? "error" members = some w ∧ RpcError.Described w e)

theorem grammar_or_fault_of_method {name : String}
    (method : find? "method" members = some (.str name)) :
    (∃ c, Grammar members c) ∨ ∃ e, Fault (.obj members) e := by
  by_cases hparams : ∃ params, Params.Given (find? "params" members) params
  · obtain ⟨params, given⟩ := hparams
    cases hid : find? "id" members with
    | none => exact .inl ⟨_, .notify method given hid⟩
    | some v =>
      by_cases hnames : ∃ id, RequestId.Names v id
      · obtain ⟨id, names⟩ := hnames
        exact .inl ⟨_, .request method given hid names⟩
      · exact .inr ⟨_, .callId method given hid fun id h => hnames ⟨id, h⟩⟩
  · exact .inr ⟨_, .params method fun p h => hparams ⟨p, h⟩⟩

theorem grammar_or_fault_of_no_method (method : find? "method" members = none) :
    (∃ c, Grammar members c) ∨ ∃ e, Fault (.obj members) e := by
  cases hid : find? "id" members with
  | none => exact .inr ⟨_, .noId method hid⟩
  | some v =>
    by_cases hnames : ∃ id, RequestId.Names v id
    · obtain ⟨id, names⟩ := hnames
      cases hresult : find? "result" members with
      | some value => exact .inl ⟨_, .result method hid names hresult⟩
      | none =>
        cases herror : find? "error" members with
        | none => exact .inr ⟨_, .noAnswer method hid names hresult herror⟩
        | some w =>
          by_cases hdescribed : ∃ e, RpcError.Described w e
          · obtain ⟨e, described⟩ := hdescribed
            exact .inl ⟨_, .error method hid names hresult herror described⟩
          · exact .inr ⟨_, .error method hid names hresult herror fun e h => hdescribed ⟨e, h⟩⟩
    · exact .inr ⟨_, .answerId method hid fun id h => hnames ⟨id, h⟩⟩

/-- A value is the object of a content, or it has a fault. -/
theorem grammar_or_fault (v : Json) :
    (∃ members c, v = .obj members ∧ Grammar members c) ∨ ∃ e, Fault v e := by
  by_cases hobj : ∃ members, v = .obj members
  · obtain ⟨members, rfl⟩ := hobj
    have hcases : (∃ c, Grammar members c) ∨ ∃ e, Fault (.obj members) e := by
      cases hmethod : find? "method" members with
      | none => exact grammar_or_fault_of_no_method hmethod
      | some method =>
        by_cases htext : ∃ name, method = .str name
        · obtain ⟨name, rfl⟩ := htext
          exact grammar_or_fault_of_method hmethod
        · exact .inr ⟨_, .method hmethod fun name h => htext ⟨name, h⟩⟩
    exact hcases.imp_left fun ⟨c, h⟩ => ⟨members, c, rfl, h⟩
  · exact .inr ⟨_, .notObject fun members h => hobj ⟨members, h⟩⟩

theorem exists_grammar_iff :
    (∃ c, Grammar members c) ↔ IsCallObject members ∨ IsAnswerObject members := by
  constructor
  · rintro ⟨c, h⟩
    cases h with
    | request method given present names =>
      refine .inl ⟨⟨_, method⟩, ⟨_, given⟩, fun v hv => ?_⟩
      obtain rfl := Option.some.inj (present.symm.trans hv)
      exact ⟨_, names⟩
    | notify method given absent =>
      refine .inl ⟨⟨_, method⟩, ⟨_, given⟩, fun v hv => ?_⟩
      rw [absent] at hv
      cases hv
    | result method present names result =>
      exact .inr ⟨method, ⟨_, _, present, names⟩, .inl ⟨_, result⟩⟩
    | error method present names _ error described =>
      exact .inr ⟨method, ⟨_, _, present, names⟩, .inr ⟨_, _, error, described⟩⟩
  · rintro (⟨⟨name, method⟩, ⟨params, given⟩, hid⟩ | ⟨method, ⟨v, id, present, names⟩, hanswer⟩)
    · cases present : find? "id" members with
      | none => exact ⟨_, .notify method given present⟩
      | some v =>
        obtain ⟨id, names⟩ := hid v present
        exact ⟨_, .request method given present names⟩
    · cases result : find? "result" members with
      | some value => exact ⟨_, .result method present names result⟩
      | none =>
        obtain ⟨value, hvalue⟩ | ⟨w, e, error, described⟩ := hanswer
        · rw [result] at hvalue
          cases hvalue
        · exact ⟨_, .error method present names result error described⟩

end Message

/-! ## Reading the parts -/

namespace Text

theorem readNat_eq_some_iff {cs : List Char} {k : Nat} :
    readNat cs = some k ↔ cs ≠ [] ∧ (∀ c ∈ cs, c.isDigit) ∧ k = Nat.ofDigitChars 10 cs 0 := by
  simp only [readNat, Option.ite_none_right_eq_some, List.all_eq_true, Option.some.injEq, and_assoc,
    eq_comm (a := k)]

theorem readInt_minus (ds : List Char) :
    readInt ('-' :: ds) = (readNat ds).map fun k : Nat => -(k : Int) := by
  rw [readInt.eq_1]
  cases readNat ds <;> rfl

end Text

namespace JsonNumber

variable {n : JsonNumber} {i : Int}

theorem toInt?_eq_some_iff : n.toInt? = some i ↔ n.Denotes i := by
  unfold toInt? Denotes
  generalize n.token.toList = cs
  constructor
  · intro h
    split at h
    · cases h
    next hplus =>
    unfold Text.readInt at h
    split at h
    · next ds =>
      rw [← Text.readInt.eq_1, Text.readInt_minus] at h
      obtain ⟨k, hk, rfl⟩ := Option.map_eq_some_iff.mp h
      obtain ⟨hne, hds, rfl⟩ := Text.readNat_eq_some_iff.mp hk
      exact ⟨ds, hne, hds, .inr ⟨rfl, rfl⟩⟩
    · next ds => exact absurd rfl (hplus ds)
    · obtain ⟨k, hk, rfl⟩ := Option.map_eq_some_iff.mp h
      obtain ⟨hne, hds, rfl⟩ := Text.readNat_eq_some_iff.mp hk
      exact ⟨_, hne, hds, .inl ⟨rfl, rfl⟩⟩
  · rintro ⟨ds, hne, hds, ⟨rfl, rfl⟩ | ⟨rfl, rfl⟩⟩
    · have hread := Text.readNat_eq_some_iff.mpr ⟨hne, hds, rfl⟩
      split
      · exact absurd (hds '+' List.mem_cons_self) (by decide)
      · rw [Text.readInt_of_digits (List.all_eq_true.mpr hds), hread]
        rfl
    · have hread := Text.readNat_eq_some_iff.mpr ⟨hne, hds, rfl⟩
      show Text.readInt ('-' :: ds) = _
      rw [Text.readInt_minus, hread]
      rfl

/-- The integer literals that are read are those of signed words of 64 bits. -/
theorem toInt64?_eq_some_iff :
    n.toInt64? = some i ↔ n.Denotes i ∧ ∃ code : Int64, code.toInt = i := by
  simp only [toInt64?, Option.filter_eq_some_iff, toInt?_eq_some_iff, Text.inInt64,
    Bool.and_eq_true, decide_eq_true_eq]
  refine and_congr_right fun _ => ⟨?_, ?_⟩
  · rintro ⟨hlow, hhigh⟩
    exact ⟨Int64.ofInt i, Int64.toInt_ofInt_of_le hlow hhigh⟩
  · rintro ⟨code, rfl⟩
    exact ⟨code.le_toInt, code.toInt_lt⟩

end JsonNumber

theorem Json.textOf_eq (v : Option Json) : (v.bind Json.str?).getD "" = Json.textOf v := by
  cases v with
  | none => rfl
  | some v => cases v <;> rfl

theorem RequestId.ofJson?_eq_some_iff {v : Json} {id : RequestId} :
    RequestId.ofJson? v = some id ↔ RequestId.Names v id := by
  constructor
  · intro h
    cases v <;> cases h <;> constructor
  · rintro (_ | _ | _) <;> rfl

theorem RpcError.ofJson?_eq_some_iff {v : Json} {e : RpcError} :
    RpcError.ofJson? v = some e ↔ RpcError.Described v e := by
  constructor
  · intro h
    cases v with
    | obj members =>
      simp only [ofJson?, Option.bind_eq_bind, Option.bind_eq_some_iff] at h
      obtain ⟨i, ⟨w, hcode, hint⟩, h⟩ := h
      cases w with
      | num n =>
        obtain ⟨hdenotes, code, rfl⟩ := JsonNumber.toInt64?_eq_some_iff.mp hint
        cases h
        refine .intro hcode ?_ (Json.textOf_eq _) rfl
        rwa [Int64.ofInt_toInt]
      | _ => cases hint
    | _ => cases h
  · rintro ⟨hcode, hliteral, hmessage, hdata⟩
    have hint := JsonNumber.toInt64?_eq_some_iff.mpr ⟨hliteral, e.code, rfl⟩
    obtain ⟨code, message, data⟩ := e
    subst hmessage hdata
    simp only [ofJson?, hcode, Option.bind_some, Json.int64?, hint, Option.bind_eq_bind,
      Int64.ofInt_toInt, Json.textOf_eq]
    rfl

namespace Message

variable {members : Keyed Json}

theorem readId_of_names {v : Json} {id : RequestId} (h : RequestId.Names v id) : readId v = .ok id := by
  rw [readId, RequestId.ofJson?_eq_some_iff.mpr h]

theorem readId_of_not_names {v : Json} (h : ∀ id, ¬RequestId.Names v id) :
    readId v = .error .invalidId := by
  cases hid : RequestId.ofJson? v with
  | none => rw [readId, hid]
  | some id => exact absurd (RequestId.ofJson?_eq_some_iff.mp hid) (h id)

theorem readParams_of_given {v : Option Json} {params : Params} (h : Params.Given v params) :
    readParams v = .ok params := by
  cases h <;> rfl

theorem readParams_of_not_given {v : Option Json} (h : ∀ params, ¬Params.Given v params) :
    readParams v = .error .invalidParams := by
  match v with
  | none => exact absurd .absent (h _)
  | some .null => exact absurd .null (h _)
  | some (.arr items) => exact absurd (.list items) (h _)
  | some (.obj members) => exact absurd (.keyed members) (h _)
  | some (.bool _) | some (.num _) | some (.str _) => rfl

/-! ## Reading a message -/

theorem ofJson?_of_method {v : Json} (h : find? "method" members = some v) :
    ofJson? (.obj members) = (readCall members v).map fun content =>
      { content, traceId := Json.textOf (find? "traceid" members), raw := some members } := by
  simp only [ofJson?, h, Json.textOf_eq]
  rfl

theorem ofJson?_of_no_method (h : find? "method" members = none) :
    ofJson? (.obj members) = (readAnswer members).map fun content =>
      { content, traceId := Json.textOf (find? "traceid" members), raw := some members } := by
  simp only [ofJson?, h, Json.textOf_eq]
  rfl

theorem ofJson?_of_grammar {c : Content} (h : Grammar members c) :
    ofJson? (.obj members) = .ok
      { content := c, traceId := Json.textOf (find? "traceid" members), raw := some members } := by
  cases h with
  | request method given present names =>
    simp only [ofJson?_of_method method, readCall, readParams_of_given given, present,
      readId_of_names names]
    rfl
  | notify method given absent =>
    simp only [ofJson?_of_method method, readCall, readParams_of_given given, absent]
    rfl
  | result method present names result =>
    simp only [ofJson?_of_no_method method, readAnswer, present, readId_of_names names, result]
    rfl
  | error method present names result error described =>
    simp only [ofJson?_of_no_method method, readAnswer, present, readId_of_names names, result, error,
      RpcError.ofJson?_eq_some_iff.mpr described]
    rfl

theorem ofJson?_of_fault {v : Json} {e : DecodeError} (h : Fault v e) : ofJson? v = .error e := by
  cases h with
  | notObject other =>
    cases v with
    | obj members => exact absurd rfl (other members)
    | _ => rfl
  | @method members w method noText =>
    rw [ofJson?_of_method method]
    cases w with
    | str name => exact absurd rfl (noText name)
    | _ => rfl
  | params method bad =>
    simp only [ofJson?_of_method method, readCall, readParams_of_not_given bad]
    rfl
  | callId method given present bad =>
    simp only [ofJson?_of_method method, readCall, readParams_of_given given, present,
      readId_of_not_names bad]
    rfl
  | noId method absent =>
    simp only [ofJson?_of_no_method method, readAnswer, absent]
    rfl
  | answerId method present bad =>
    simp only [ofJson?_of_no_method method, readAnswer, present, readId_of_not_names bad]
    rfl
  | @error members v w id method present names result error bad =>
    have hnone : RpcError.ofJson? w = none := by
      cases he : RpcError.ofJson? w with
      | none => rfl
      | some e => exact absurd (RpcError.ofJson?_eq_some_iff.mp he) (bad e)
    simp only [ofJson?_of_no_method method, readAnswer, present, readId_of_names names, result, error,
      hnone]
    rfl
  | noAnswer method present names result error =>
    simp only [ofJson?_of_no_method method, readAnswer, present, readId_of_names names, result, error]
    rfl

theorem ofJson?_eq_ok_iff {v : Json} {m : Message} :
    ofJson? v = .ok m ↔ ∃ members, v = .obj members ∧ Grammar members m.content ∧
      m.traceId = Json.textOf (find? "traceid" members) ∧ m.raw = some members := by
  constructor
  · intro h
    obtain ⟨members, c, rfl, hc⟩ | ⟨e, he⟩ := grammar_or_fault v
    · rw [ofJson?_of_grammar hc] at h
      cases h
      exact ⟨members, rfl, hc, rfl, rfl⟩
    · rw [ofJson?_of_fault he] at h
      cases h
  · rintro ⟨members, rfl, hc, htrace, hraw⟩
    rw [ofJson?_of_grammar hc, ← htrace, ← hraw]

theorem ofJson?_eq_error_iff {v : Json} {e : DecodeError} : ofJson? v = .error e ↔ Fault v e := by
  refine ⟨fun h => ?_, ofJson?_of_fault⟩
  obtain ⟨members, c, rfl, hc⟩ | ⟨e', he⟩ := grammar_or_fault v
  · rw [ofJson?_of_grammar hc] at h
    cases h
  · rw [ofJson?_of_fault he] at h
    cases h
    exact he

/-! ## Members that do not count -/

/-- The members that decide what message an object is. -/
def grammarKeys : List String := ["error", "id", "method", "params", "result", "traceid"]

/-- What was read, less the object that it was read from. -/
def withoutRaw (r : Except DecodeError Message) : Except DecodeError Message :=
  r.map fun m => { m with raw := none }

theorem withoutRaw_ofJson?_obj (members : Keyed Json) :
    withoutRaw (ofJson? (.obj members)) =
      (match find? "method" members with
        | some method => readCall members method
        | none => readAnswer members).map fun content =>
          { content, traceId := Json.textOf (find? "traceid" members) } := by
  cases h : find? "method" members with
  | none =>
    rw [ofJson?_of_no_method h]
    cases readAnswer members <;> rfl
  | some method =>
    rw [ofJson?_of_method h]
    cases hcall : readCall members method <;> simp only [hcall] <;> rfl

theorem withoutRaw_ofJson?_filter (members : Keyed Json) :
    withoutRaw (ofJson? (.obj (members.filter fun e => e.1 ∈ grammarKeys))) =
      withoutRaw (ofJson? (.obj members)) := by
  have hfind : ∀ key ∈ grammarKeys,
      find? key (members.filter fun e => e.1 ∈ grammarKeys) = find? key members := by
    intro key hkey
    rw [Keyed.find?_filter, if_pos hkey]
  simp only [grammarKeys, List.forall_mem_cons] at hfind
  obtain ⟨herror, hid, hmethod, hparams, hresult, htrace, -⟩ := hfind
  simp only [withoutRaw_ofJson?_obj, readCall, readAnswer, grammarKeys, herror, hid, hmethod, hparams, hresult, htrace]

/-! ## Reading follows the grammar -/

/-- A value is read as a message exactly if it is the object of a content, and then with this content,
the text of its trace member and itself as the object read. That is so exactly if it calls a method or
answers a request. Every other value is refused, with the fault that counts. Members that the grammar
does not name change nothing but the object that is kept. -/
theorem ofJson?_follows_grammar (v : Json) :
    (∀ m, ofJson? v = .ok m ↔ ∃ members, v = .obj members ∧ Grammar members m.content ∧
      m.traceId = Json.textOf (find? "traceid" members) ∧ m.raw = some members) ∧
    ((∃ m, ofJson? v = .ok m) ↔
      ∃ members, v = .obj members ∧ (IsCallObject members ∨ IsAnswerObject members)) ∧
    (∀ e, ofJson? v = .error e ↔ Fault v e) ∧
    (∀ members, withoutRaw (ofJson? (.obj (members.filter fun e => e.1 ∈ grammarKeys))) =
      withoutRaw (ofJson? (.obj members))) := by
  refine ⟨fun m => ofJson?_eq_ok_iff, ?_, fun e => ofJson?_eq_error_iff, withoutRaw_ofJson?_filter⟩
  constructor
  · rintro ⟨m, h⟩
    obtain ⟨members, hv, hc, -⟩ := ofJson?_eq_ok_iff.mp h
    exact ⟨members, hv, exists_grammar_iff.mp ⟨_, hc⟩⟩
  · rintro ⟨members, rfl, h⟩
    obtain ⟨c, hc⟩ := exists_grammar_iff.mpr h
    exact ⟨_, ofJson?_of_grammar hc⟩

/-- An answer with a result is a result, whatever its error holds. -/
example : (ofJson? (.obj [("error", .str "no"), ("id", .null), ("result", .null)])).map content =
    .ok (.result .null .null) := rfl

end Message

end Switchboard
