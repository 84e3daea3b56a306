-- SUMMARY: A message that is encoded and parsed again is the same message.
import Switchboard.Message.Codec
import Switchboard.Proofs.Json.RoundTrip
import Switchboard.Proofs.Json.Written

/-!
# Encoding and parsing messages

A message is written as an object, from which its kind is told by the members that
are there. `ofJson?_toJson` says that the object gives the message back, with the
object itself as the one it was read from. With the laws of JSON text this is a
round trip through octets for every message whose object fits the reader. A message
that was parsed fits it, unless its document writes the reserved key.
-/

namespace Switchboard

/-! ## Errors -/

namespace JsonNumber

theorem intDigits_head (n : Int) : ∃ c cs, Text.intDigits n = c :: cs ∧ c ≠ '+' := by
  cases n with
  | ofNat n =>
    cases hds : Text.natDigits n with
    | nil => exact absurd hds (Text.natDigits_ne_nil n)
    | cons c cs =>
      have hdigit : c.isDigit := Text.isDigit_of_mem_natDigits (hds ▸ List.mem_cons_self)
      refine ⟨c, cs, hds, ?_⟩
      rintro rfl
      exact absurd hdigit (by decide)
  | negSucc n => exact ⟨'-', Text.natDigits (n + 1), rfl, by decide⟩

@[simp]
theorem toInt?_ofInt (n : Int) : (ofInt n).toInt? = some n := by
  obtain ⟨c, cs, hds, hc⟩ := intDigits_head n
  have hread := Text.readInt_intDigits n
  have htoken : (ofInt n).token.toList = Text.intDigits n := by
    simp [ofInt, Text.numeral]
  rw [toInt?, htoken]
  rw [hds] at hread ⊢
  split
  · next h =>
    obtain ⟨rfl, -⟩ := List.cons.inj h
    exact absurd rfl hc
  · exact hread

theorem inInt64_toInt (n : Int64) : Text.inInt64 n.toInt := by
  have hlow : -0x8000000000000000 ≤ n.toInt := n.le_toInt
  have hhigh : n.toInt < 0x8000000000000000 := n.toInt_lt
  simp only [Text.inInt64, Bool.and_eq_true, decide_eq_true_eq]
  exact ⟨hlow, hhigh⟩

theorem toInt64?_ofInt (n : Int64) : (ofInt n.toInt).toInt64? = some n.toInt := by
  rw [toInt64?, toInt?_ofInt, Option.filter_some, if_pos (inInt64_toInt n)]

end JsonNumber

namespace RpcError

theorem ofJson?_toJson (e : RpcError) : ofJson? e.toJson = some e := by
  obtain ⟨code, message, data⟩ := e
  have hcode : (Json.ofInt code.toInt).int64? = some code.toInt := JsonNumber.toInt64?_ofInt code
  cases data with
  | none =>
    simp [toJson, members, Json.ofMembers, Keyed.ofList, ofJson?, Keyed.find?_insert, Keyed.find?,
      hcode, Json.str?]
  | some d =>
    simp [toJson, members, Json.ofMembers, Keyed.ofList, ofJson?, Keyed.find?_insert, hcode,
      Json.str?]

theorem fits_of_mem_members {levels : Nat} {e : RpcError} (h : ∀ d ∈ e.data, d.Fits levels)
    {m : String × Json} (hm : m ∈ e.members) : m.1 ≠ JsonNumber.reservedKey ∧ m.2.Fits levels := by
  simp only [members, List.cons_append, List.nil_append, List.mem_cons, List.mem_map, Option.mem_toList] at hm
  rcases hm with rfl | rfl | ⟨w, hw, rfl⟩
  · exact ⟨by simp [JsonNumber.reservedKey], .num (JsonNumber.isNumeral_ofInt _)⟩
  · exact ⟨by simp [JsonNumber.reservedKey], .str _⟩
  · exact ⟨by simp [JsonNumber.reservedKey], h w hw⟩

/-- The object of an error nests one level deeper than its data. -/
theorem fits_toJson {levels : Nat} {e : RpcError} (h : ∀ d ∈ e.data, d.Fits levels) :
    e.toJson.Fits (levels + 1) :=
  .obj (Keyed.sorted_ofList _) fun _ hm => fits_of_mem_members h (Keyed.mem_of_mem_ofList hm)

end RpcError

namespace Message

/-! ## The object of a message -/

/-- The members of the object that the message is written as. -/
def members (m : Message) : Keyed Json :=
  match m.toJson with
  | .obj members => members
  | _ => []

theorem readParams_toJson (p : Params) : readParams (some p.toJson) = .ok p := by
  cases p <;> rfl

theorem readId_toJson (id : RequestId) : readId id.toJson = .ok id := by
  rw [readId, RequestId.ofJson?_toJson]

/-- The object of a message gives the message back. -/
theorem ofJson?_toJson (m : Message) :
    ofJson? m.toJson = .ok { m with raw := some m.members } := by
  obtain ⟨content, traceId, raw⟩ := m
  by_cases htrace : traceId = ""
  · subst htrace
    cases content with
    | request id method params =>
      simp [toJson, members, traceMember, ofJson?, Keyed.find?, readCall, readParams_toJson,
        readId_toJson, bind, Except.bind, pure, Except.pure]
    | notify method params =>
      simp [toJson, members, traceMember, ofJson?, Keyed.find?, readCall, readParams_toJson, bind,
        Except.bind, pure, Except.pure]
    | result id value =>
      simp [toJson, members, traceMember, ofJson?, Keyed.find?, readAnswer, readId_toJson, bind,
        Except.bind, pure, Except.pure]
    | error id e =>
      simp [toJson, members, traceMember, ofJson?, Keyed.find?, readAnswer, readId_toJson,
        RpcError.ofJson?_toJson, bind, Except.bind, pure, Except.pure]
  · cases content with
    | request id method params =>
      simp [toJson, members, traceMember, htrace, ofJson?, Keyed.find?, readCall, readParams_toJson,
        readId_toJson, Json.str?, bind, Except.bind, pure, Except.pure]
    | notify method params =>
      simp [toJson, members, traceMember, htrace, ofJson?, Keyed.find?, readCall, readParams_toJson,
        Json.str?, bind, Except.bind, pure, Except.pure]
    | result id value =>
      simp [toJson, members, traceMember, htrace, ofJson?, Keyed.find?, readAnswer, readId_toJson,
        Json.str?, bind, Except.bind, pure, Except.pure]
    | error id e =>
      simp [toJson, members, traceMember, htrace, ofJson?, Keyed.find?, readAnswer, readId_toJson,
        RpcError.ofJson?_toJson, Json.str?, bind, Except.bind, pure, Except.pure]

/-! ## Messages that were parsed fit -/

/-- The values of the content are canonical, without the reserved key, and not too deep. -/
def ContentFits (levels : Nat) : Content → Prop
  | .request id _ params => id.toJson.Fits levels ∧ params.toJson.Fits levels
  | .notify _ params => params.toJson.Fits levels
  | .result id value => id.toJson.Fits levels ∧ value.Fits levels
  | .error id e => id.toJson.Fits levels ∧ e.toJson.Fits levels

theorem fits_obj_append {levels : Nat} {ms : Keyed Json} (m : Message)
    (hsorted : Keyed.Sorted (ms ++ [("traceid", .str m.traceId)]))
    (hms : ∀ e ∈ ms, e.1 ≠ JsonNumber.reservedKey ∧ e.2.Fits levels) :
    (Json.obj (ms ++ m.traceMember)).Fits (levels + 1) := by
  unfold traceMember
  split
  · rw [List.append_nil]
    exact .obj (List.pairwise_append.mp hsorted).1 hms
  · refine .obj hsorted ?_
    intro e he
    rcases List.mem_append.mp he with he | he
    · exact hms e he
    · rw [List.mem_singleton] at he
      subst he
      exact ⟨by simp [JsonNumber.reservedKey], .str m.traceId⟩

theorem fits_toJson {levels : Nat} {m : Message} (h : ContentFits levels m.content) :
    m.toJson.Fits (levels + 1) := by
  have hversion : version.Fits levels := .str "2.0"
  unfold toJson
  cases hm : m.content with
  | request id method params =>
    rw [hm] at h
    obtain ⟨hid, hparams⟩ := h
    refine fits_obj_append m ?_ ?_
    · have hkeys : ["id", "jsonrpc", "method", "params", "traceid"].Pairwise (· < ·) := by decide
      exact Keyed.sorted_of_keys hkeys
    · simp only [List.forall_mem_cons]
      exact ⟨⟨by decide, hid⟩, ⟨by decide, hversion⟩, ⟨by decide, .str method⟩,
        ⟨by decide, hparams⟩, by simp⟩
  | notify method params =>
    rw [hm] at h
    refine fits_obj_append m ?_ ?_
    · have hkeys : ["jsonrpc", "method", "params", "traceid"].Pairwise (· < ·) := by decide
      exact Keyed.sorted_of_keys hkeys
    · simp only [List.forall_mem_cons]
      exact ⟨⟨by decide, hversion⟩, ⟨by decide, .str method⟩, ⟨by decide, h⟩, by simp⟩
  | result id value =>
    rw [hm] at h
    obtain ⟨hid, hvalue⟩ := h
    refine fits_obj_append m ?_ ?_
    · have hkeys : ["id", "jsonrpc", "result", "traceid"].Pairwise (· < ·) := by decide
      exact Keyed.sorted_of_keys hkeys
    · simp only [List.forall_mem_cons]
      exact ⟨⟨by decide, hid⟩, ⟨by decide, hversion⟩, ⟨by decide, hvalue⟩, by simp⟩
  | error id e =>
    rw [hm] at h
    obtain ⟨hid, he⟩ := h
    refine fits_obj_append m ?_ ?_
    · have hkeys : ["error", "id", "jsonrpc", "traceid"].Pairwise (· < ·) := by decide
      exact Keyed.sorted_of_keys hkeys
    · simp only [List.forall_mem_cons]
      exact ⟨⟨by decide, he⟩, ⟨by decide, hid⟩, ⟨by decide, hversion⟩, by simp⟩

theorem toJson_of_ofJson? {v : Json} {id : RequestId} (h : RequestId.ofJson? v = some id) :
    id.toJson = v := by
  cases v <;> cases h <;> rfl

theorem fits_readId {levels : Nat} {v : Json} {id : RequestId} (h : readId v = .ok id)
    (hv : v.Fits levels) : id.toJson.Fits levels := by
  simp only [readId] at h
  split at h
  · next id' hid =>
    cases h
    rwa [toJson_of_ofJson? hid]
  · cases h

theorem fits_readParams {levels : Nat} {members : Keyed Json} {p : Params}
    (h : readParams (Keyed.find? "params" members) = .ok p)
    (hmembers : (Json.obj members).Fits (levels + 2)) : p.toJson.Fits (levels + 1) := by
  unfold readParams at h
  split at h
  · cases h
    exact .arr_nil
  · cases h
    exact .arr_nil
  · next v _ hfind =>
    have hv := hmembers.member hfind
    split at h
    · next p' hp =>
      cases h
      cases v <;> cases hp <;> exact hv
    · cases h

theorem fits_error {levels : Nat} {v : Json} {e : RpcError} (h : RpcError.ofJson? v = some e)
    (hv : v.Fits (levels + 1)) : e.toJson.Fits (levels + 1) := by
  cases v with
  | obj ms =>
    simp only [RpcError.ofJson?, Option.bind_eq_bind, Option.bind_eq_some_iff] at h
    obtain ⟨code, -, h⟩ := h
    cases h
    exact RpcError.fits_toJson fun d hd => hv.member hd
  | _ => cases h

theorem contentFits_of_readCall {levels : Nat} {members : Keyed Json} {method : Json} {c : Content}
    (h : readCall members method = .ok c) (hmembers : (Json.obj members).Fits (levels + 2)) :
    ContentFits (levels + 1) c := by
  cases method with
  | str name =>
    simp only [readCall, bind, Except.bind, pure, Except.pure] at h
    split at h
    · cases h
    next params hparams =>
    have hp := fits_readParams hparams hmembers
    split at h
    · next v hv =>
      split at h
      · cases h
      next id hid =>
      cases h
      exact ⟨fits_readId hid (hmembers.member hv), hp⟩
    · cases h
      exact hp
  | _ => cases h

theorem contentFits_of_readAnswer {levels : Nat} {members : Keyed Json} {c : Content}
    (h : readAnswer members = .ok c) (hmembers : (Json.obj members).Fits (levels + 2)) :
    ContentFits (levels + 1) c := by
  simp only [readAnswer, bind, Except.bind, pure, Except.pure] at h
  split at h
  · cases h
  next v hv =>
  split at h
  · cases h
  next id hid =>
  have hid := fits_readId hid (hmembers.member hv)
  split at h
  · next value _ hvalue =>
    cases h
    exact ⟨hid, hmembers.member hvalue⟩
  · next e _ herror =>
    split at h
    · next e' he =>
      cases h
      exact ⟨hid, fits_error he (hmembers.member herror)⟩
    · cases h
  · cases h

theorem fits_of_ofJson? {levels : Nat} {v : Json} {m : Message} (h : ofJson? v = .ok m)
    (hv : v.Fits (levels + 2)) : m.toJson.Fits (levels + 2) := by
  cases v with
  | obj members =>
    simp only [ofJson?, bind, Except.bind, pure, Except.pure] at h
    split at h
    · split at h
      · cases h
      next c hc =>
      cases h
      exact fits_toJson (contentFits_of_readCall hc hv)
    · split at h
      · cases h
      next c hc =>
      cases h
      exact fits_toJson (contentFits_of_readAnswer hc hv)
  | _ => cases h

/-! ## Octets -/

theorem parse_of_read? {doc : Octets} {m : Message} (h : Json.read? doc = .ok m.toJson) :
    parse doc = .ok { m with raw := some m.members } := by
  rw [parse, h]
  exact ofJson?_toJson m

theorem parse_encode {m : Message} (h : m.toJson.Fits Json.Reader.maxNesting) :
    parse m.encode = .ok { m with raw := some m.members } :=
  parse_of_read? (Json.read?_compact h.canonical h.noReserved h.nesting)

theorem parse_encodePretty {m : Message} (h : m.toJson.Fits Json.Reader.maxNesting) :
    parse m.encodePretty = .ok { m with raw := some m.members } :=
  parse_of_read? (Json.read?_pretty h.canonical h.noReserved h.nesting)

theorem fits_of_parse {doc : Octets} {m : Message} (hkey : ¬Json.WritesKey JsonNumber.reservedKey doc)
    (h : parse doc = .ok m) : m.toJson.Fits Json.Reader.maxNesting := by
  unfold parse at h
  split at h
  · next v hread =>
    obtain ⟨hcanonical, hdeep⟩ := Json.canonical_of_read? hread
    exact fits_of_ofJson? h ⟨hcanonical, fun hv => hkey (Json.writesKey_of_read? hread hv), hdeep⟩
  · cases h

/-- A message whose object fits the reader is the same message when it has been encoded, either way,
and parsed, and it is encoded as before; and a message that was parsed from a document without the
reserved key has such an object, so it can always be encoded and parsed again. -/
theorem encode_parse_roundTrip :
    (∀ m : Message, m.toJson.Fits Json.Reader.maxNesting →
      ∃ m', parse m.encode = .ok m' ∧ parse m.encodePretty = .ok m' ∧
        m'.kind = m.kind ∧ m'.content = m.content ∧ m'.same m ∧ m'.traceId = m.traceId ∧
        m'.raw = some m.members ∧ m'.encode = m.encode ∧ m'.encodePretty = m.encodePretty) ∧
    (∀ (doc : Octets) (m : Message), ¬Json.WritesKey JsonNumber.reservedKey doc → parse doc = .ok m →
      m.toJson.Fits Json.Reader.maxNesting ∧
        ∃ m', parse m.encode = .ok m' ∧ m'.same m ∧ m'.traceId = m.traceId) := by
  refine ⟨?_, ?_⟩
  · intro m h
    have hsame : ({ m with raw := some m.members } : Message).same m = true := decide_eq_true rfl
    exact ⟨_, parse_encode h, parse_encodePretty h, rfl, rfl, hsame, rfl, rfl, rfl, rfl⟩
  · intro doc m hkey h
    have hfits := fits_of_parse hkey h
    exact ⟨hfits, _, parse_encode hfits, decide_eq_true rfl, rfl⟩

/-- A result with blanks, a member that comes twice and members out of order, one of them escaped. -/
def disorderly : Octets :=
  Text.octets ("\x7b\"result\": [1.50], \"id\": \"x\",\n \"result\": " ++
    "[\x7b\"b\": 0.1e-7, \"\\u0061\": null\x7d], \"traceid\": \"t\"\x7d")

def orderlyValue : Json := .arr [.obj [("a", .null), ("b", .num ⟨"0.1e-7"⟩)]]

/-- What is read of it. -/
def orderly : Message :=
  { content := .result (.text "x") orderlyValue
    traceId := "t"
    raw := some [("id", .str "x"), ("result", orderlyValue), ("traceid", .str "t")] }

theorem encode_parse_roundTrip_disorderly :
    ¬Json.WritesKey JsonNumber.reservedKey disorderly ∧ parse disorderly = .ok orderly ∧
    orderly.toJson.Fits Json.Reader.maxNesting ∧
    (∃ m, parse orderly.encode = .ok m ∧ parse orderly.encodePretty = .ok m ∧ m.same orderly ∧
      m.traceId = "t" ∧ m.encode = orderly.encode) ∧
    orderly.encode ≠ disorderly := by
  have hwritten : Json.Reader.document (Json.Reader.written Json.Reader.maxNesting) disorderly =
      .ok (.obj [("result", .arr [.num ⟨"1.50"⟩]), ("id", .str "x"),
        ("result", .arr [.obj [("b", .num ⟨"0.1e-7"⟩), ("a", .null)]]), ("traceid", .str "t")]) := by
    decide +kernel
  have hkey : ¬Json.WritesKey JsonNumber.reservedKey disorderly := by
    rintro ⟨v, hv, hkey⟩
    rw [hwritten] at hv
    cases hv
    simp [Json.hasKey_obj_iff, Json.hasKey_arr_iff, JsonNumber.reservedKey] at hkey
    rcases hkey with h | h | (h | h) | h <;> cases h
  have hread : parse disorderly = .ok orderly := by decide +kernel
  obtain ⟨writes, reads⟩ := encode_parse_roundTrip
  obtain ⟨hfits, -⟩ := reads disorderly orderly hkey hread
  obtain ⟨m, hparse, hpretty, -, -, hsame, htrace, -, hencode, -⟩ := writes orderly hfits
  exact ⟨hkey, hread, hfits, ⟨m, hparse, hpretty, hsame, htrace, hencode⟩, by decide +kernel⟩

end Message

end Switchboard
