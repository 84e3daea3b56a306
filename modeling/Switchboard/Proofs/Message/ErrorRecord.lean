-- SUMMARY: An error on the wire has one object, and what reads it back makes of null data.
import Switchboard.Message.RpcErrorRecord
import Switchboard.Proofs.Json.Record
import Switchboard.Proofs.Json.Settled

/-!
# The two forms of an error

An error is written as the object of a message or as a record of its own. Both have
the same members. The reader of messages gives the error back from them. So does the
reader of records, except that it takes null for no data at all, which is how the
two forms part (`wire_forms_agree`).
-/

namespace Switchboard

namespace RpcError

open Json.Reader Text

/-- The error without data that is null. -/
def dropNull (e : RpcError) : RpcError := { e with data := e.data.filter (· ≠ .null) }

theorem dropNull_eq_self_iff {e : RpcError} : e.dropNull = e ↔ e.data ≠ some .null := by
  obtain ⟨code, message, data⟩ := e
  cases data with
  | none => simp [dropNull]
  | some d => by_cases hd : d = .null <;> simp [dropNull, hd]

/-- The members of the object: those of the record, in key order. -/
def sortedMembers (e : RpcError) : Keyed Json :=
  ("code", .ofInt e.code.toInt) :: ((e.data.toList.map fun d => ("data", d)) ++ [("message", .str e.message)])

theorem toJson_eq (e : RpcError) : e.toJson = .obj e.sortedMembers := by
  have hmessage : ¬"message" < "code" := by decide
  have hdata : ¬"data" < "code" := by decide
  have hbefore : "data" < "message" := by decide
  obtain ⟨code, message, data⟩ := e
  cases data <;>
    simp [toJson, members, sortedMembers, Json.ofMembers, Keyed.ofList, Keyed.insert, hmessage, hdata, hbefore]

theorem sortedMembers_perm (e : RpcError) : e.sortedMembers.Perm e.members := by
  cases hdata : e.data with
  | none => simp [sortedMembers, members, hdata]
  | some d =>
    simp only [sortedMembers, members, hdata, Option.toList_some, List.map_cons, List.map_nil]
    exact .cons _ (.swap _ _ _)

/-! ## From a value -/

theorem int64_ofInt (n : Int64) : Reading.int64 (.ofInt n.toInt) = .ok n.toInt := by
  simp [Json.ofInt, Reading.int64, Reading.int, Option.filter_some, JsonNumber.inInt64_toInt n]

theorem reading_toJson (e : RpcError) :
    reading e.toJson = match e.data with
      | none => .ok e
      | some d => (Reading.option Reading.any d).map fun v => { e with data := v } := by
  rw [toJson_eq]
  obtain ⟨code, message, data⟩ := e
  have hcode := int64_ofInt code
  cases data with
  | none =>
    simp [reading, Reading.record, fields, sortedMembers, Reading.fieldsByName, Reading.Field.of, hcode,
      Reading.string, Reading.required, Except.map, bind, Except.bind, pure, Except.pure]
  | some d =>
    cases hread : Reading.option Reading.any d with
    | error f =>
      simp [reading, Reading.record, fields, sortedMembers, Reading.fieldsByName, Reading.Field.of,
        Reading.Field.defaulted, hcode, hread, Except.map, bind, Except.bind]
    | ok v =>
      simp [reading, Reading.record, fields, sortedMembers, Reading.fieldsByName, Reading.Field.of,
        Reading.Field.defaulted, hcode, hread, Reading.string, Reading.required, Except.map, bind,
        Except.bind, pure, Except.pure]

/-- The error comes back from its value unless its data is null or settled anew. -/
theorem reading_toJson_eq_iff (e : RpcError) :
    reading e.toJson = .ok e ↔ ∀ d ∈ e.data, d ≠ .null ∧ d.Settled := by
  rw [reading_toJson]
  obtain ⟨code, message, data⟩ := e
  cases data with
  | none => simp
  | some d =>
    have hoption : Reading.option Reading.any d = .ok (some d) ↔ d ≠ .null ∧ Reading.any d = .ok d := by
      cases d with
      | null => simp [Reading.option]
      | _ => simp [Reading.option, map_eq_ok]
    simp only [Option.mem_def, Option.some.injEq, forall_eq', ← Reading.any_eq_self_iff, ← hoption,
      map_eq_ok, RpcError.mk.injEq, true_and, exists_eq_right]

/-! ## From a text -/

section Text

open Document

variable {e : RpcError} {levels : Nat} {ms : List (String × Json)} {d d' : Draft}

theorem fills_code (code : Int64) (hd : d.code = none)
    (rest : Fills levels recordFields { d with code := some code.toInt } ms d') :
    Fills levels recordFields d (("code", .ofInt code.toInt) :: ms) d' := by
  have hword := JsonNumber.inInt64_toInt code
  refine .cons rfl (congrArg Option.isSome hd) (fun s hs => ?_) rest
  have hint := takes_int "i64" levels hword (.inr hword) s hs
  simp only [Field.of, Json.ofInt, Json.compact, hint, Except.map]

theorem fills_message (message : String) (hd : d.message = none)
    (rest : Fills levels recordFields { d with message := some message } ms d') :
    Fills levels recordFields d (("message", .str message) :: ms) d' := by
  refine .cons rfl (congrArg Option.isSome hd) (fun s hs => ?_) rest
  have htext := takes_text message levels s hs
  simp only [Field.of, Json.compact, htext, Except.map]

theorem fills_data {data : Json} (hdata : data.Fits levels) (hd : d.data = none)
    (rest : Fills levels recordFields { d with data := some (if data = .null then none else some data) } ms d') :
    Fills levels recordFields d (("data", data) :: ms) d' := by
  refine .cons rfl (congrArg Option.isSome hd) (fun s hs => ?_) rest
  have hoption := takes_option_json hdata s hs
  simp only [Field.defaulted, Field.of, hoption, Except.map]

/-- The draft of an error whose record has been read. -/
def draft (e : RpcError) : Draft where
  code := some e.code.toInt
  message := some e.message
  data := e.data.map fun d => if d = .null then none else some d

theorem fills_members (h : ∀ d ∈ e.data, d.Fits levels) :
    Fills levels recordFields {} e.members e.draft ∧ Fills levels recordFields {} e.sortedMembers e.draft := by
  obtain ⟨code, message, data⟩ := e
  cases data with
  | none =>
    have hfills : Fills levels recordFields {} _ (draft ⟨code, message, none⟩) :=
      fills_code code rfl (fills_message message rfl (.nil _))
    exact ⟨hfills, hfills⟩
  | some data =>
    have hdata := h data rfl
    constructor
    · exact fills_code code rfl (fills_message message rfl (fills_data hdata rfl (.nil _)))
    · exact fills_code code rfl (fills_data hdata rfl (fills_message message rfl (.nil _)))

/-- The record of a draft that has all fields of an error. -/
theorem readRecord?_of_fills (h : Fills 126 recordFields {} ms e.draft) (hms : ms ≠ []) :
    readRecord? (octets (Json.obj ms).compact) = .ok e.dropNull := by
  cases ms with
  | nil => exact absurd rfl hms
  | cons m ms =>
    have hdata : (e.data.map fun d => if d = .null then none else some d).getD none = e.dropNull.data := by
      obtain ⟨code, message, data⟩ := e
      cases data with
      | none => rfl
      | some d => by_cases hd : d = .null <;> simp [dropNull, hd, Option.filter_some]
    refine Json.document_of_takes (takes_record "RpcError" h ?_)
    simp only [draft, required, bind, Except.bind, pure, Except.pure, Int64.ofInt_toInt, hdata]
    rfl

end Text

theorem readRecord?_recordText {e : RpcError} (h : ∀ d ∈ e.data, d.Fits 126) :
    readRecord? (octets e.recordText) = .ok e.dropNull :=
  readRecord?_of_fills (fills_members h).1 (by simp [members])

theorem readRecord?_toJson {e : RpcError} (h : ∀ d ∈ e.data, d.Fits 126) :
    readRecord? (octets e.toJson.compact) = .ok e.dropNull := by
  rw [toJson_eq]
  exact readRecord?_of_fills (fills_members h).2 (by simp [sortedMembers])

/-- The text of the record is a text of the object. -/
theorem read?_recordText {e : RpcError} (h : ∀ d ∈ e.data, d.Fits 126) :
    Json.read? (octets e.recordText) = .ok e.toJson := by
  have hmembers := fun m hm => fits_of_mem_members (m := m) h hm
  refine Json.document_of_takes ?_
  rw [recordText, Json.compact_eq_layout 0]
  refine Json.takes_layout_obj Json.Spacing.blank_compact 0 (fun m hm => (hmembers m hm).1) fun m hm => ?_
  have hfits := (hmembers m hm).2
  exact Json.takes_layout Json.Spacing.blank_compact hfits.canonical hfits.noReserved hfits.nesting

/-- An error with any code, text and data. The object of a message and the record have the same
members, and the reader of messages gives the error back from them. The reader of records gives it
back from the value unless its data is null or a value that a conversion changes. From the text of
either form it gives the error back unless its data is null, for any data that a text can hold and
that a reader takes one level deep. -/
theorem wire_forms_agree (e : RpcError) :
    (∃ ms, e.toJson = .obj ms ∧ ms.Perm e.members) ∧
    ofJson? e.toJson = some e ∧
    (reading e.toJson = .ok e ↔ ∀ d ∈ e.data, d ≠ .null ∧ d.Settled) ∧
    ((∀ d ∈ e.data, d.Fits 126) →
      Json.read? (octets e.recordText) = .ok e.toJson ∧
      Json.read? (octets e.toJson.compact) = .ok e.toJson ∧
      (readRecord? (octets e.recordText) = .ok e ↔ e.data ≠ some .null) ∧
      (readRecord? (octets e.toJson.compact) = .ok e ↔ e.data ≠ some .null)) := by
  refine ⟨⟨e.sortedMembers, e.toJson_eq, e.sortedMembers_perm⟩, ofJson?_toJson e, reading_toJson_eq_iff e, ?_⟩
  intro h
  have hfits := fits_toJson h
  rw [readRecord?_recordText h, readRecord?_toJson h, Except.ok.injEq, dropNull_eq_self_iff]
  exact ⟨read?_recordText h, Json.read?_compact hfits.canonical hfits.noReserved hfits.nesting, .rfl, .rfl⟩

/-- An error whose data is a list. -/
def listed : RpcError := { code := -32000, message := "m", data := some (.arr [.null, .bool true]) }

theorem wire_forms_agree_listed :
    (∀ d ∈ listed.data, d.Fits 126) ∧ readRecord? (octets listed.recordText) = .ok listed ∧
      readRecord? (octets listed.toJson.compact) = .ok listed := by
  have hfits : ∀ d ∈ listed.data, d.Fits 126 := by
    rintro d ⟨⟩
    refine .arr fun x hx => ?_
    rcases List.mem_pair.mp hx with rfl | rfl
    · exact .null
    · exact ⟨.bool true, by rintro ⟨⟩, Nat.zero_le _⟩
  have hsome : listed.data ≠ some .null := by decide
  obtain ⟨-, -, -, htexts⟩ := wire_forms_agree listed
  obtain ⟨-, -, hrecord, hobject⟩ := htexts hfits
  exact ⟨hfits, hrecord.mpr hsome, hobject.mpr hsome⟩

/-- An error whose data is null. -/
def nulled : RpcError := { code := 1, message := "m", data := some .null }

/-- Data that is null is there for the reader of messages and lost for the reader of records. -/
theorem null_data_lost :
    ofJson? nulled.toJson = some nulled ∧
      readRecord? (octets nulled.recordText) = .ok { nulled with data := none } ∧
      readRecord? (octets nulled.recordText) ≠ .ok nulled ∧ reading nulled.toJson ≠ .ok nulled := by
  have hfits : ∀ d ∈ nulled.data, d.Fits 126 := by
    rintro d ⟨⟩
    exact .null
  have hrecord : readRecord? (octets nulled.recordText) = .ok { nulled with data := none } :=
    readRecord?_recordText hfits
  refine ⟨ofJson?_toJson nulled, hrecord, ?_, ?_⟩
  · rw [hrecord]
    decide
  · intro h
    exact ((reading_toJson_eq_iff nulled).mp h .null rfl).1 rfl

end RpcError

end Switchboard
