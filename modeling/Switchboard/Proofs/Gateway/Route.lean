-- SUMMARY: Which session serves a request, by the tokens of the upgrade headers and not by how they are written.
import Switchboard.Proofs.Gateway.Tokens

/-!
# Routes

What each route takes, stated without the functions that choose it: an upgrade comes
first (`AsksForWebSocket`), then gRPC (`DeclaresGrpc`), then lines (`StreamsLines`), and
the rest is unary. A request whose upgrade headers are written anew is served by the same
kind of session (`of_respells`). A content type that is not text declares nothing, as
`grpc_type_beyond_text` shows.
-/

namespace Switchboard.Route

/-! ## What a route takes -/

/-- The request asks for an upgrade to WebSocket. -/
structure AsksForWebSocket (r : HttpRequest) : Prop where
  method : r.method = "GET"
  connection : Lists (r.headers.getAll "connection") "upgrade"
  upgrade : Lists (r.headers.getAll "upgrade") "websocket"

/-- On HTTP/2, the first content type is text and starts as those of gRPC do. -/
structure DeclaresGrpc (r : HttpRequest) : Prop where
  version : r.version = .http2
  contentType : ∃ suffix, r.headers.get? "content-type" = some ("application/grpc" ++ suffix) ∧
    Headers.isVisible ("application/grpc" ++ suffix) = true

/-- On HTTP/2, a POST that declares no length, with its body still open. -/
structure StreamsLines (r : HttpRequest) : Prop where
  version : r.version = .http2
  method : r.method = "POST"
  unsized : r.headers.getAll "content-length" = []
  stillOpen : r.body.knownEmpty = false

variable {r r' : HttpRequest}

theorem isUpgrade_iff : isUpgrade r = true ↔ AsksForWebSocket r := by
  have hupgrade : listsToken r.headers "connection" "upgrade" = true ↔
      Lists (r.headers.getAll "connection") "upgrade" := listsToken_iff (by simp [isPad]) _ _
  have hwebSocket : listsToken r.headers "upgrade" "websocket" = true ↔
      Lists (r.headers.getAll "upgrade") "websocket" := listsToken_iff (by simp [isPad]) _ _
  simp only [isUpgrade, Bool.and_eq_true, decide_eq_true_eq, hupgrade, hwebSocket]
  exact ⟨fun h => ⟨h.1.1, h.1.2, h.2⟩, fun h => ⟨⟨h.method, h.connection⟩, h.upgrade⟩⟩

theorem isPrefixOf_iff {start type : String} :
    start.toList.isPrefixOf type.toList = true ↔ ∃ suffix, type = start ++ suffix := by
  rw [List.isPrefixOf_iff_prefix]
  constructor
  · rintro ⟨rest, hrest⟩
    refine ⟨String.ofList rest, ?_⟩
    rw [← String.toList_inj, String.toList_append, String.toList_ofList, hrest]
  · rintro ⟨suffix, rfl⟩
    exact ⟨suffix.toList, (String.toList_append ..).symm⟩

theorem isGrpc_iff : isGrpc r = true ↔
    ∃ suffix, r.headers.get? "content-type" = some ("application/grpc" ++ suffix) ∧
      Headers.isVisible ("application/grpc" ++ suffix) = true := by
  rw [isGrpc, Headers.text?]
  cases htype : r.headers.get? "content-type" with
  | none => simp
  | some type =>
    by_cases hvisible : Headers.isVisible type = true
    · rw [Option.filter_some, if_pos hvisible]
      refine isPrefixOf_iff.trans (exists_congr fun suffix => ?_)
      constructor
      · rintro rfl
        exact ⟨rfl, hvisible⟩
      · exact fun h => Option.some.inj h.1
    · rw [Option.filter_some, if_neg hvisible]
      refine iff_of_false Bool.false_ne_true ?_
      rintro ⟨suffix, hsuffix, hvisible'⟩
      exact hvisible (Option.some.inj hsuffix ▸ hvisible')

theorem declaresGrpc_iff : (decide (r.version = .http2) && isGrpc r) = true ↔ DeclaresGrpc r := by
  rw [Bool.and_eq_true, decide_eq_true_eq, isGrpc_iff]
  exact ⟨fun h => ⟨h.1, h.2⟩, fun h => ⟨h.version, h.contentType⟩⟩

theorem streamsLines_iff :
    (decide (r.version = .http2) && isOpenPost r) = true ↔ StreamsLines r := by
  have hunsized : r.headers.contains "content-length" = false ↔
      r.headers.getAll "content-length" = [] := by
    rw [← Bool.not_eq_true, Headers.contains_iff, not_not]
  simp only [isOpenPost, Bool.and_eq_true, decide_eq_true_eq, Bool.not_eq_true', hunsized]
  exact ⟨fun h => ⟨h.1, h.2.1.1, h.2.1.2, h.2.2⟩,
    fun h => ⟨h.version, ⟨h.method, h.unsized⟩, h.stillOpen⟩⟩

/-! ## Upgrade headers written anew -/

/-- The same request with the values of `Connection` and of `Upgrade` written anew. Of its target
nothing is asked: no route depends on it. -/
structure Respells (r r' : HttpRequest) : Prop where
  version : r'.version = r.version
  method : r'.method = r.method
  body : r'.body = r.body
  connection : Respelled (r.headers.getAll "connection") (r'.headers.getAll "connection")
  upgrade : Respelled (r.headers.getAll "upgrade") (r'.headers.getAll "upgrade")
  others : ∀ name, name ≠ "connection" → name ≠ "upgrade" →
    r'.headers.getAll name = r.headers.getAll name

theorem of_respells (hconnection : (r.headers.getAll "connection").all Headers.isVisible = true)
    (hupgrade : (r.headers.getAll "upgrade").all Headers.isVisible = true) (h : Respells r r') :
    of r' = of r := by
  have hasks : isUpgrade r' = isUpgrade r := by
    rw [isUpgrade, isUpgrade, h.method, listsToken_respelled hconnection h.connection,
      listsToken_respelled hupgrade h.upgrade]
  have htype : r'.headers.text? "content-type" = r.headers.text? "content-type" := by
    rw [Headers.text?, Headers.text?, Headers.get?, Headers.get?, h.others _ (by decide) (by decide)]
  have hlength : r'.headers.contains "content-length" = r.headers.contains "content-length" := by
    rw [Bool.eq_iff_iff, Headers.contains_iff, Headers.contains_iff,
      h.others _ (by decide) (by decide)]
  rw [of, of, hasks, isGrpc, isGrpc, isOpenPost, isOpenPost, h.version, h.method, h.body, htype,
    hlength]

/-! ## Routes -/

/-- The upgrade headers count by their tokens, and every request has the first route that takes it. -/
theorem routes_by_tokens (r : HttpRequest) :
    ((r.headers.getAll "connection").all Headers.isVisible = true →
      (r.headers.getAll "upgrade").all Headers.isVisible = true →
      ∀ r', Respells r r' → of r' = of r) ∧
    (of r = .webSocket ↔ AsksForWebSocket r) ∧
    (of r = .grpc ↔ ¬ AsksForWebSocket r ∧ DeclaresGrpc r) ∧
    (of r = .lineStream ↔ ¬ AsksForWebSocket r ∧ ¬ DeclaresGrpc r ∧ StreamsLines r) ∧
    (of r = .unary ↔ ¬ AsksForWebSocket r ∧ ¬ DeclaresGrpc r ∧ ¬ StreamsLines r) := by
  refine ⟨fun hconnection hupgrade r' h => of_respells hconnection hupgrade h, ?_⟩
  -- A request may meet several of the conditions: the first of them decides.
  by_cases hasks : AsksForWebSocket r
  · rw [of, if_pos (isUpgrade_iff.mpr hasks)]
    simp [hasks]
  · rw [of, if_neg (mt isUpgrade_iff.mp hasks)]
    by_cases hgrpc : DeclaresGrpc r
    · rw [if_pos (declaresGrpc_iff.mpr hgrpc)]
      simp [hasks, hgrpc]
    · rw [if_neg (mt declaresGrpc_iff.mp hgrpc)]
      by_cases hlines : StreamsLines r
      · rw [if_pos (streamsLines_iff.mpr hlines)]
        simp [hasks, hgrpc, hlines]
      · rw [if_neg (mt streamsLines_iff.mp hlines)]
        simp [hasks, hgrpc, hlines]

/-- An upgrade in three lines. -/
def handshake : HttpRequest where
  method := "GET"
  headers := [("host", "gate"), ("connection", "keep-alive"), ("connection", "Upgrade"),
    ("upgrade", "h2c,websocket")]

/-- The same upgrade in other lines. -/
def otherHandshake : HttpRequest where
  method := "GET"
  headers := [("upgrade", "WebSocket"), ("host", "gate"), ("upgrade", " h2c\t"),
    ("connection", "upgrade ,Keep-Alive")]

theorem respells_handshake : Respells handshake otherHandshake where
  version := rfl
  method := rfl
  body := rfl
  connection := by
    have hpermuted : Respelled ["keep-alive", "Upgrade"] ["Upgrade", "keep-alive"] :=
      .permuted (List.Perm.swap ..)
    have hjoined : Respelled ["Upgrade", "keep-alive"] ["Upgrade,keep-alive"] :=
      .joined [] ["Upgrade", "keep-alive"] [] (by decide)
    have hrecased : Respelled ["Upgrade,keep-alive"] ["upgrade,Keep-Alive"] :=
      .recased [] [] (by decide)
    have hpadded : Respelled ["upgrade,Keep-Alive"] ["upgrade ,Keep-Alive"] :=
      .padded [] [] "" "upgrade" " " ["Keep-Alive"] [] (by decide) (by decide) (by decide)
    exact hpermuted.trans (hjoined.trans (hrecased.trans hpadded))
  upgrade := by
    have hsplit : Respelled ["h2c,websocket"] ["h2c", "websocket"] :=
      .symm (.joined [] ["h2c", "websocket"] [] (by decide))
    have hpermuted : Respelled ["h2c", "websocket"] ["websocket", "h2c"] :=
      .permuted (List.Perm.swap ..)
    have hrecased : Respelled ["websocket", "h2c"] ["WebSocket", "h2c"] :=
      .recased [] ["h2c"] (by decide)
    have hpadded : Respelled ["WebSocket", "h2c"] ["WebSocket", " h2c\t"] :=
      .padded ["WebSocket"] [] " " "h2c" "\t" [] [] (by decide) (by decide) (by decide)
    exact hsplit.trans (hpermuted.trans (hrecased.trans hpadded))
  others name hconnection hupgrade := by
    simp [handshake, otherHandshake, Headers.getAll_cons, hconnection.symm, hupgrade.symm]

theorem routes_by_tokens_handshake :
    (handshake.headers.getAll "connection").all Headers.isVisible = true ∧
    (handshake.headers.getAll "upgrade").all Headers.isVisible = true ∧
    Respells handshake otherHandshake ∧ AsksForWebSocket handshake ∧
    of otherHandshake = .webSocket := by
  have hconnection : (handshake.headers.getAll "connection").all Headers.isVisible = true := by decide
  have hupgrade : (handshake.headers.getAll "upgrade").all Headers.isVisible = true := by decide
  have hroute : of handshake = .webSocket := by decide +kernel
  obtain ⟨hanew, hasks, -⟩ := routes_by_tokens handshake
  have hother := hanew hconnection hupgrade otherHandshake respells_handshake
  exact ⟨hconnection, hupgrade, respells_handshake, hasks.mp hroute, hother.trans hroute⟩

/-- A content type that starts as those of gRPC do, and goes on beyond text. -/
def strayType : HttpRequest where
  version := .http2
  headers := [("content-type", "application/grpc;\u00e9")]

/-- Not every content type that starts as those of gRPC do declares gRPC. -/
theorem grpc_type_beyond_text :
    strayType.version = .http2 ∧
    strayType.headers.get? "content-type" = some ("application/grpc" ++ ";\u00e9") ∧
    strayType.headers.getAll "connection" = [] ∧ strayType.headers.getAll "upgrade" = [] ∧
    of strayType = .unary := by
  decide +kernel

end Switchboard.Route
