-- SUMMARY: Call headers go over the extra headers of a client, in dials and in POSTs.
import Switchboard.Proofs.Client.Unary
import Switchboard.Proofs.Streaming.Clock
import Switchboard.Proofs.Streaming.Slot

/-!
# Call headers

A call may bring headers of its own. They go over the extra headers of the client, for
this call alone: under a name that the call has, its values stand for the others. A POST
is made so, with all values (`UnaryClient.getAll_request_headers`). A dial is made for the
caller that began it, from the extra headers that were set last; of several values that
the call has under one name it takes the last only, so it is the overlay where the call
has each name once (`call_headers_overlay`).
-/

namespace Switchboard

/-! ## Dials -/

namespace Streaming

variable {u : Setup} {E headers : Headers} {as : List Happening} {a : Happening} {s t : State} {i : Nat}
  {es fs : List Event}

namespace Happening

/-- The request of the caller that comes in. -/
def request? : Happening → Option Request
  | .act (.start r) => some r
  | _ => none

/-- The extra headers that are set. -/
def headers? : Happening → Option Headers
  | .act (.setHeaders h) => some h
  | _ => none

end Happening

/-- The extra headers after a run: those that were set last, or else those that the client began with. -/
def extraAfter (initial : Headers) (as : List Happening) : Headers :=
  (as.filterMap Happening.headers?).getLast?.getD initial

theorem extraAfter_concat (initial : Headers) (as : List Happening) (a : Happening) :
    extraAfter initial (as ++ [a]) = a.headers?.getD (extraAfter initial as) := by
  cases ha : a.headers? <;> simp [extraAfter, ha]

theorem extraHeaders_of_happen (h : happen u s a = some (t, fs)) :
    t.extraHeaders = a.headers?.getD s.extraHeaders := by
  cases a with
  | act a =>
    have hextra : t.extraHeaders = (a.resets s.setting).2 := congrArg Prod.snd (setting_of_step h)
    cases a <;> exact hextra
  | drop i =>
    simp only [happen] at h
    split at h <;> cases h
    rfl

/-- The extra headers change only where others are set. -/
theorem extraHeaders_of_run (h : Step.run (happen u) (State.fresh E) as = some (s, es)) :
    s.extraHeaders = extraAfter E as := by
  refine Step.run_induction (R := fun s as _ => s.extraHeaders = extraAfter E as) rfl ?_ h
  intro s t a as es fs hs hstep
  rw [extraHeaders_of_happen hstep, extraAfter_concat, hs]

/-! ### Requests -/

/-- The headers that the callers have come with, one after the other. -/
def State.callHeaders (s : State) : List Headers := s.callers.map fun c => c.request.headers

theorem headers_admitted (u : Setup) (s : State) (r : Request) :
    (s.admitted u r).headers = r.headers := by
  cases r with
  | call m h =>
    simp only [State.admitted]
    split <;> rfl
  | _ => rfl

theorem callHeaders_of_happen (h : happen u s a = some (t, fs)) :
    t.callHeaders = s.callHeaders ++ a.request?.toList.map Request.headers := by
  cases a with
  | act a =>
    have hrequests : t.callers.map Caller.request = s.callers.map Caller.request ++ admits u s a :=
      List.ext_getElem? fun j => by rw [getElem?_requests, (turn_of_step h).requests]
    have hadmits : (admits u s a).map Request.headers =
        (Happening.act a).request?.toList.map Request.headers := by
      cases a with
      | start r => exact congrArg (fun h => [h]) (headers_admitted u s r)
      | _ => rfl
    have hheaders := congrArg (List.map Request.headers) hrequests
    rwa [List.map_append, hadmits, List.map_map, List.map_map] at hheaders
  | drop i =>
    simp only [happen] at h
    split at h <;> cases h
    refine List.ext_getElem? fun j => ?_
    simp only [State.callHeaders, State.dropCaller, State.moveTo, Happening.request?, Option.toList_none,
      List.map_nil, List.append_nil, List.getElem?_map, List.getElem?_modify]
    split <;> cases s.callers[j]? <;> rfl

theorem callHeaders_of_run (h : Step.run (happen u) (State.fresh E) as = some (s, es)) :
    s.callHeaders = (as.filterMap Happening.request?).map Request.headers := by
  refine Step.run_induction
    (R := fun s as _ => s.callHeaders = (as.filterMap Happening.request?).map Request.headers) rfl ?_ h
  intro s t a as es fs hs hstep
  rw [callHeaders_of_happen hstep, hs]
  cases ha : a.request? <;> simp [ha]

/-! ### Dials -/

/-- Only a caller that begins to dial shows a dial, and it shows which headers it goes with. -/
theorem dialed_of_happen (h : happen u s a = some (t, fs)) (hdialed : .dialed headers ∈ fs) :
    ∃ i callHeaders, a = .act (.caller i .dial) ∧ s.callHeaders[i]? = some callHeaders ∧
      fs = [.dialed headers] ∧ headers = callHeaders.insertAll s.extraHeaders := by
  cases a with
  | drop i =>
    simp only [happen] at h
    split at h <;> cases h
    cases hdialed
  | act a =>
    cases slotStep_of_step h with
    | keep _ quiet | establish _ _ _ _ _ _ _ quiet | release _ _ _ _ _ _ quiet =>
      exact absurd hdialed (quiet headers)
    | @dial i headers' _ _ _ _ _ _ _ _ action =>
      obtain rfl := Happening.act.inj action
      obtain ⟨c, hc, h⟩ := Option.bind_eq_some_iff.mp h
      obtain rfl : headers = headers' := by simpa using hdialed
      simp only [stepCaller] at h
      split at h
      · cases h
        exact ⟨i, c.request.headers, rfl, by rw [State.callHeaders, List.getElem?_map, hc]; rfl, rfl, rfl⟩
      · cases h

end Streaming

/-- Call headers and extra headers.

Every dial of a streaming client is begun by one caller. Its headers are, under each name that the
caller's own have, the last value there, and under every other name all the extra values, as they were set
last; this is the overlay of the caller's headers if and only if they have the name once at most. The dial
leaves the extra headers as they are. A POST has under each name the values of the overlay, all of
them and in order, or else the usual ones, beside the trace identifier. -/
theorem call_headers_overlay (u : Streaming.Setup) (E : Headers) :
    (∀ as s es a t fs headers,
      Step.run (Streaming.happen u) (Streaming.State.fresh E) as = some (s, es) →
      Streaming.happen u s a = some (t, fs) → .dialed headers ∈ fs →
      ∃ i r, a = .act (.caller i .dial) ∧ (as.filterMap Streaming.Happening.request?)[i]? = some r ∧
        fs = [.dialed headers] ∧
        s.extraHeaders = Streaming.extraAfter E as ∧ t.extraHeaders = s.extraHeaders ∧
        ∀ name,
          headers.getAll name =
            (if r.headers.contains name then (r.headers.getAll name).getLast?.toList
              else s.extraHeaders.getAll name) ∧
          (headers.getAll name = r.headers.overlay s.extraHeaders name ↔
            (r.headers.getAll name).length ≤ 1)) ∧
    ∀ (c : UnaryClient) (callHeaders : Headers) (m : Message), m.isRequest = true →
      ∃ post : HttpRequest,
        (∀ exchange, c.call exchange callHeaders m = exchange post >>= UnaryClient.answer m) ∧
        ∀ name, post.headers.getAll name =
          (if callHeaders.overlay c.extraHeaders name = [] then UnaryClient.usualHeaders.getAll name
            else callHeaders.overlay c.extraHeaders name) ++ UnaryClient.traceValues m name := by
  refine ⟨?_, ?_⟩
  · intro as s es a t fs headers hrun hstep hdialed
    obtain ⟨i, callHeaders, rfl, hcaller, rfl, rfl⟩ := Streaming.dialed_of_happen hstep hdialed
    rw [Streaming.callHeaders_of_run hrun, List.getElem?_map] at hcaller
    obtain ⟨r, hr, rfl⟩ := Option.map_eq_some_iff.mp hcaller
    exact ⟨i, r, rfl, hr, rfl, Streaming.extraHeaders_of_run hrun, Streaming.extraHeaders_of_happen hstep,
      fun name => ⟨Headers.getAll_insertAll name _ _, Headers.getAll_insertAll_eq_overlay_iff⟩⟩
  · intro c callHeaders m hm
    refine ⟨c.request callHeaders m, fun exchange => ?_, c.getAll_request_headers callHeaders m⟩
    rw [UnaryClient.call, if_pos hm]

/-- A unary client with extra headers, of which one has two values. -/
def someClient : UnaryClient where
  url := { scheme := "http" }
  extraHeaders := [("x-a", "0"), ("x-b", "2"), ("x-b", "3")]

/-- A request that takes nothing. -/
def bareRequest : Message := .request (.number ⟨"1"⟩) "ping" (.list [])

theorem call_headers_overlay_someClient :
    ∃ s t headers,
      Step.run (Streaming.happen Streaming.paddedSetup) (Streaming.State.fresh someClient.extraHeaders)
        [.act (.start (.connect [("x-a", "1")]))] = some (s, []) ∧
      Streaming.happen Streaming.paddedSetup s (.act (.caller 0 .dial)) = some (t, [.dialed headers]) ∧
      .dialed headers ∈ [Streaming.Event.dialed headers] ∧
      (∀ name, headers.getAll name = Headers.overlay [("x-a", "1")] someClient.extraHeaders name) ∧
      t.extraHeaders = someClient.extraHeaders ∧
      bareRequest.isRequest = true ∧
      ∃ post : HttpRequest,
        (∀ exchange, someClient.call exchange [("x-a", "1")] bareRequest =
          exchange post >>= UnaryClient.answer bareRequest) ∧
        post.headers.getAll "x-a" = ["1"] ∧ post.headers.getAll "x-b" = ["2", "3"] := by
  obtain ⟨s, hrun⟩ : ∃ s, Step.run (Streaming.happen Streaming.paddedSetup)
      (Streaming.State.fresh someClient.extraHeaders) [.act (.start (.connect [("x-a", "1")]))] =
        some (s, []) := ⟨_, rfl⟩
  obtain ⟨t, headers, hstep⟩ : ∃ t headers,
      Streaming.happen Streaming.paddedSetup s (.act (.caller 0 .dial)) = some (t, [.dialed headers]) := by
    cases hrun
    exact ⟨_, _, rfl⟩
  have hdialed := List.mem_singleton_self (Streaming.Event.dialed headers)
  obtain ⟨hdials, hposts⟩ := call_headers_overlay Streaming.paddedSetup someClient.extraHeaders
  obtain ⟨i, r, haction, hr, -, hextra, hkept, hvalues⟩ := hdials _ _ _ _ _ _ _ hrun hstep hdialed
  obtain ⟨post, hcall, hpost⟩ := hposts someClient [("x-a", "1")] bareRequest rfl
  obtain rfl : 0 = i := by injection haction with haction; injection haction
  obtain rfl : .connect [("x-a", "1")] = r := Option.some.inj hr
  have hinitial : s.extraHeaders = someClient.extraHeaders := hextra
  refine ⟨s, t, headers, hrun, hstep, hdialed, fun name => ?_, hkept.trans hinitial, rfl, post, hcall,
    (hpost "x-a").trans (by decide), (hpost "x-b").trans (by decide)⟩
  rw [← hinitial]
  refine (hvalues name).2.mpr ?_
  rw [Streaming.Request.headers, Headers.getAll_cons]
  split <;> simp [Headers.getAll]

/-- A dial takes the last of two values that a caller has under one name. A POST takes both. -/
theorem dial_drops_values :
    ∃ s t headers,
      Step.run (Streaming.happen Streaming.paddedSetup) (Streaming.State.fresh [])
        [.act (.start (.connect [("x-a", "1"), ("x-a", "2")]))] = some (s, []) ∧
      Streaming.happen Streaming.paddedSetup s (.act (.caller 0 .dial)) = some (t, [.dialed headers]) ∧
      headers.getAll "x-a" = ["2"] ∧
      Headers.overlay [("x-a", "1"), ("x-a", "2")] [] "x-a" = ["1", "2"] ∧
      (someClient.request [("x-a", "1"), ("x-a", "2")] bareRequest).headers.getAll "x-a" = ["1", "2"] :=
  ⟨_, _, _, rfl, rfl, by decide, by decide, by decide⟩

end Switchboard
