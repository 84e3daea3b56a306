-- SUMMARY: A session that is given one message dispatches it and writes the responses to it.
import Switchboard.Proofs.Session.AnyEnd

/-!
# Sessions with a single message

As long as nobody disturbs it, a session on whose input there is one message, and no
fault, has dispatched that message or nothing so far, and has written a beginning of the
transcript. By itself it gets to where it has done both in full (`Serves`). This holds of
sessions of all kinds whose input stays open (`serves_of_pending`), and of those on a body
also when the input has ended (`serves_of_complete`), whether or not messages are served
by tasks of their own.
-/

namespace Switchboard.Session

/-! ## One message in the queue -/

section Sole

variable {u : Setup} {m : Message} {tasks : List Task} {receiver : Receiver} {ms out : List Message}

theorem Ordered.sole (h : Ordered u [m] out) : out = responses u m := by
  unfold Ordered at h
  split at h
  · exact h.sole
  · rw [h, List.flatMap_singleton]

/-- What was queued is the beginning of the responses to the one message. -/
theorem Accounts.sole (h : Accounts u tasks receiver ms out) (hms : ms <+: [m]) : out <+: responses u m := by
  have hcases : ms = [] ∨ ms = [m] := by simpa [List.prefix_cons_iff] using hms
  cases h with
  | inOrder _ _ hout =>
    rcases hcases with rfl | rfl
    · rw [(List.append_eq_nil_iff.mp hout).1]
      exact List.nil_prefix
    · rw [List.flatMap_singleton] at hout
      exact hout ▸ List.prefix_append ..
  | interleaved sent _ _ hout htasks hsent hrests =>
    rcases hcases with rfl | rfl
    · rw [List.eq_nil_of_length_eq_zero hsent] at hout
      rw [hout.eq_nil]
      exact List.nil_prefix
    · obtain ⟨xs, rfl⟩ := List.length_eq_one_iff.mp hsent
      obtain ⟨t, rfl⟩ := List.length_eq_one_iff.mp htasks
      rw [hout.sole, ← hrests 0 t m xs rfl rfl rfl]
      exact List.prefix_append _ _

end Sole

/-- The session has dispatched at most this message and written no more than the transcript of it,
and by itself it gets to where it has done both. -/
structure Serves (u : Setup) (m : Message) (s : State) (es : List Event) : Prop where
  given : given es <+: [m]
  written : written es <+: transcript u [m]
  completes : ∃ bs s' fs, (∀ a ∈ bs, a.isOwn = true) ∧ run u s bs = some (s', fs) ∧
    Session.given (es ++ fs) = [m] ∧ Session.written (es ++ fs) = transcript u [m]

theorem transcript_singleton (u : Setup) (m : Message) :
    transcript u [m] = opening u.kind ++ framesOf u.kind (responses u m) := by
  rw [transcript, List.flatMap_singleton]

/-- What was written is the beginning of the transcript of the one message. -/
theorem Wrote.sole {u : Setup} {m : Message} {tasks : List Task} {receiver : Receiver} {sender : Sender}
    {es : List Event} {ms out queue : List Message} (hwrote : Wrote u es sender out)
    (haccounts : Accounts u tasks receiver ms (out ++ queue)) (hms : ms <+: [m]) :
    written es <+: transcript u [m] := by
  have hout : out <+: responses u m := (List.prefix_append out queue).trans (haccounts.sole hms)
  rw [transcript_singleton]
  exact hwrote.isPrefix.trans (opening_append_framesOf_mono u.kind hout)

section Pending

variable {u : Setup} {limit : Nat} {b : Body} {as : List Action} {s : State} {es : List Event}
  {m : Message} {found : List (Option Message)}

/-- The receive half goes on while the input is open and has no fault. -/
theorem Undisturbed.going_of_pending (h : Undisturbed u limit b as s es)
    (hpending : (as.foldl delivered (b.chunks, b.ending)).2 = .pending)
    (hclean : faulty (u.kind.found limit (as.foldl delivered (b.chunks, b.ending))) = false) :
    s.receiver ≠ .ended := by
  intro hended
  obtain ⟨hsignal, hverdict⟩ := h.calm.of_ended hended
  have hfaulty := hverdict.found.2
  rw [Kind.held_inbound, hclean] at hfaulty
  rw [← hfaulty] at hverdict
  cases hverdict with
  | clean hheld =>
    -- what is left open might yet break off, and that would be a fault
    have hbroken := hheld [.endInput .broken]
    rw [Kind.held_inbound, List.foldl_append] at hbroken
    obtain ⟨chunks, hdelivered⟩ : ∃ chunks, as.foldl delivered (b.chunks, b.ending) = (chunks, .pending) :=
      ⟨_, Prod.ext rfl hpending⟩
    rw [hdelivered] at hbroken
    have hnone : (none : Option Message) ∈ (given es).map some := by
      rw [← hbroken]
      exact List.mem_append_right _ List.mem_cons_self
    simp at hnone

theorem Undisturbed.written_sole (h : Undisturbed u limit b as s es) (hgoing : s.receiver ≠ .ended)
    (hgiven : given es <+: [m]) : written es <+: transcript u [m] := by
  obtain ⟨-, ms, hwrote, haccounts⟩ := h.current hgoing
  exact hwrote.sole haccounts hgiven

/-- A session that waits for more has written all responses. -/
theorem Undisturbed.written_of_idle (h : Undisturbed u limit b as s es) (hidle : Idle s)
    (hgiven : given es = [m]) : written es = transcript u [m] := by
  obtain ⟨-, ms, hwrote, haccounts⟩ := h.current (by rw [hidle.reading]; exact Receiver.noConfusion)
  have hordered := haccounts.ordered (by rw [hidle.reading]; rfl) hidle.settled
  rw [hgiven, hidle.queue, List.append_nil] at hordered
  rw [hidle.streaming, hordered.sole] at hwrote
  rw [transcript_singleton]
  cases hwrote with
  | streaming hes => exact hes

theorem serves_of_pending (hcapacity : 0 < u.capacity)
    (hrun : run u (opened u (u.kind.inbound limit b)) as = some (s, es))
    (hcalm : ∀ a ∈ as, a.disturbs = false)
    (hpending : (as.foldl delivered (b.chunks, b.ending)).2 = .pending)
    (hfound : u.kind.found limit (as.foldl delivered (b.chunks, b.ending)) = [some m]) :
    Serves u m s es := by
  have h : Undisturbed u limit b as s es := (Undisturbed.start u limit b).of_run hcalm hrun
  have hgoing : ∀ {bs s' fs}, Undisturbed u limit b (as ++ bs) s' (es ++ fs) → (∀ a ∈ bs, a.isOwn = true) →
      s'.receiver ≠ .ended := by
    intro bs s' fs h' hown
    have hsame : (as ++ bs).foldl delivered (b.chunks, b.ending) = as.foldl delivered (b.chunks, b.ending) := by
      rw [List.foldl_append, foldl_delivered_own hown]
    refine h'.going_of_pending (hsame ▸ hpending) ?_
    rw [hsame, hfound]
    rfl
  have hgiven : given es <+: [m] := h.given_isPrefix hfound
  refine ⟨hgiven, h.written_sole ?_ hgiven, ?_⟩
  · refine h.going_of_pending hpending ?_
    rw [hfound]
    rfl
  · obtain ⟨bs, s', fs, hown, hrun', hrest⟩ := h.reaches_rest hcapacity
    have h' := h.of_run (fun a ha => Action.disturbs_of_isOwn (hown a ha)) hrun'
    rcases hrest with hidle | ⟨hended, -⟩
    · have hheld := (h'.of_idle hidle).1
      rw [Kind.held_inbound, List.foldl_append, foldl_delivered_own hown, hfound] at hheld
      have hall : given (es ++ fs) = [m] := by
        rw [← decoded_map_some (given (es ++ fs)), ← hheld]
        rfl
      exact ⟨bs, s', fs, hown, hrun', hall, h'.written_of_idle hidle hall⟩
    · exact absurd hended (hgoing h' hown)

end Pending

/-! ## Input that has ended -/

section Complete

variable {u : Setup} {limit : Nat} {b : Body} {as : List Action} {s : State} {es : List Event}
  {m : Message} {framing : Framing}

/-- What has been delivered, in pieces or as one. -/
theorem input_flatten (as : List Action) (chunks : List Octets) (ending : BodyEnd) :
    input (chunks.flatten, ending) as =
      ((as.foldl delivered (chunks, ending)).1.flatten, (as.foldl delivered (chunks, ending)).2) := by
  unfold input
  induction as generalizing chunks ending with
  | nil => rfl
  | cons a as ih =>
    have hone : supplied (chunks.flatten, ending) a =
        ((delivered (chunks, ending) a).1.flatten, (delivered (chunks, ending) a).2) := by
      cases a with
      | arrive octets => cases ending <;> simp [supplied, delivered]
      | endInput e => cases ending <;> rfl
      | _ => rfl
    rw [List.foldl_cons, List.foldl_cons, hone]
    exact ih _ _

theorem written_body (es : List Event) : written (body es) = written es := by
  unfold written body
  rw [List.filter_filter]
  refine List.filter_congr fun e _ => ?_
  cases e <;> rfl

theorem written_opening (k : Kind) : written (opening k) = opening k := by
  cases k with
  | lines greeting => cases greeting <;> rfl
  | grpc | webSocket => rfl

theorem written_farewell (k : Kind) : written (farewell k) = [] := by
  cases k <;> rfl

theorem Writes.wrote {sender : Sender} {ms : List Message} (h : Writes u es sender ms) : Wrote u es sender ms := by
  cases h with
  | greeting hkind hbody =>
    refine .greeting hkind ?_
    rw [← written_body, hbody]
    rfl
  | streaming hbody =>
    refine .streaming ?_
    rw [← written_body, hbody, written_append, written_opening, written_framesOf]

theorem Live.written_sole (h : Live u [m] .complete [] s es) : written es <+: transcript u [m] := by
  obtain ⟨-, left, ms, hgiven, -, -, hwrites, haccounts⟩ := h
  exact hwrites.wrote.sole haccounts ⟨left, hgiven⟩

theorem Done.written_sole (h : Done u [m] .complete s es) : written es = transcript u [m] := by
  obtain ⟨-, -, out, hordered, hbody⟩ := h
  rw [transcript_singleton, ← written_body, ← hordered.sole]
  rcases hbody with ⟨-, -, hbody⟩ | ⟨-, hbody⟩
  · rw [hbody, written_append, written_opening, written_framesOf]
  · rw [hbody, written_append, written_append, written_opening, written_framesOf, written_farewell,
      List.append_nil]

theorem eq_map_ok {ε α : Type} {rs : List (Except ε α)} {xs : List α}
    (h : rs.map Except.toOption = xs.map some) : rs = xs.map .ok := by
  induction rs generalizing xs with
  | nil =>
    cases xs with
    | nil => rfl
    | cons x xs => cases h
  | cons r rs ih =>
    cases xs with
    | nil => cases h
    | cons x xs =>
      obtain ⟨hr, hrs⟩ := List.cons.inj h
      cases r with
      | error e => cases hr
      | ok y =>
        cases hr
        rw [ih hrs, List.map_cons]

/-- A body on which one message is found, and no fault, holds the frame of it and nothing else. -/
theorem Kind.outcomes_of_found {k : Kind} (hkind : k.framing? = some framing) {i : List Octets × BodyEnd}
    (hcomplete : i.2 = .complete) (hfound : k.found limit i = [some m]) :
    framing.outcomes limit i.1.flatten = [m].map .ok := by
  have hcarries : framing.outcomes limit i.1.flatten = framing.carries limit .whole i.1.flatten := by
    cases framing <;> rfl
  unfold Kind.found at hfound
  rw [hkind, hcomplete] at hfound
  rw [hcarries]
  refine eq_map_ok ?_
  rw [show [m].map some = [some m] from rfl, ← hfound]
  exact (List.append_nil _).symm

/-- By itself a session whose input has ended gets to where it is done. -/
theorem exists_done (h : Live u [m] .complete [] s es ∨ Done u [m] .complete s es)
    (hsocket : u.kind ≠ .webSocket) (hcapacity : 0 < u.capacity) :
    ∃ bs s' fs, (∀ a ∈ bs, a.isOwn = true) ∧ run u s bs = some (s', fs) ∧ Done u [m] .complete s' (es ++ fs) := by
  have hending : ∃ bs s' fs, (∀ a ∈ bs, a.isOwn = true) ∧ run u s bs = some (s', fs) ∧ s'.sender = .ended := by
    rcases h with hlive | hdone
    · obtain ⟨-, left, ms, hgiven, -⟩ := id hlive
      exact hlive.exists_ending hsocket hcapacity hgiven
    · exact hdone.exists_ending
  obtain ⟨bs, s', fs, hown, hrun, hsender⟩ := hending
  refine ⟨bs, s', fs, hown, hrun, ?_⟩
  rcases live_or_done_of_run h (.inr ⟨rfl, rfl⟩) hsocket hown hrun with hlive | hdone
  · -- the send half of a live session has not ended
    obtain ⟨-, left, ms, -, -, -, hwrites, -⟩ := hlive
    rw [hsender] at hwrites
    cases hwrites
  · exact hdone

theorem serves_of_complete (hcapacity : 0 < u.capacity) (hkind : u.kind.framing? = some framing)
    (hrun : run u (opened u (u.kind.inbound limit b)) as = some (s, es))
    (hcalm : ∀ a ∈ as, a.disturbs = false)
    (hcomplete : (as.foldl delivered (b.chunks, b.ending)).2 = .complete)
    (hfound : u.kind.found limit (as.foldl delivered (b.chunks, b.ending)) = [some m]) :
    Serves u m s es := by
  have h : Undisturbed u limit b as s es := (Undisturbed.start u limit b).of_run hcalm hrun
  have hsocket : u.kind ≠ .webSocket := by
    intro hk
    rw [hk] at hkind
    cases hkind
  have hpeer : ∀ a ∈ as, a ≠ .shutdown ∧ a ≠ .hangUp := by
    intro a ha
    constructor <;> rintro rfl <;> cases hcalm _ ha
  have hstate : Live u [m] .complete [] s es ∨ Done u [m] .complete s es := by
    unfold Kind.inbound at hrun
    rw [hkind] at hrun
    have houtcomes := Kind.outcomes_of_found hkind hcomplete hfound
    rw [← List.append_nil (as.foldl delivered (b.chunks, b.ending)).1.flatten] at houtcomes
    refine live_or_done hsocket hrun hpeer ?_ (.inr ⟨rfl, rfl⟩) houtcomes
    rw [input_flatten, hcomplete]
  obtain ⟨bs, s', fs, hown, hrun', hdone⟩ := exists_done hstate hsocket hcapacity
  refine ⟨h.given_isPrefix hfound, ?_, bs, s', fs, hown, hrun', ?_, hdone.written_sole⟩
  · rcases hstate with hlive | hdone
    · exact hlive.written_sole
    · exact hdone.written_sole ▸ List.prefix_rfl
  · have h' := h.of_run (fun a ha => Action.disturbs_of_isOwn (hown a ha)) hrun'
    have hfound' : u.kind.found limit ((as ++ bs).foldl delivered (b.chunks, b.ending)) = [some m] := by
      rw [List.foldl_append, foldl_delivered_own hown, hfound]
    exact (h'.verdict hdone.idle.1 hfound').1.symm

end Complete

end Switchboard.Session
