-- SUMMARY: What a watch has to do, by what it has heard, and that it does so.
import Switchboard.Client.Watch
import Switchboard.Proofs.History
import Switchboard.Proofs.Streaming.Clock

/-!
# The law of a watch

A watch hears how its dials come out, how its hook ends and how its waits end.
What it has to do next, and when, follows from what it has heard so far: `due` says
how. It knows nothing of phases and keeps no counter; how many dials in a row were
refused is there to be read. `Course` lists the histories that are possible under
the law, and `accounts_of_run` says that every run is one of them, with the watch
where the law has it.
-/

namespace Switchboard.Watch

/-! ## What is heard -/

/-- What a watch hears, each time with the error if there is one. -/
inductive News where
  | dialed (e : Option ClientError)
  | announced (e : Option ClientError)
  | waited (e : Option ClientError)
deriving DecidableEq, Repr

structure Heard where
  news : News
  time : Nat
deriving DecidableEq, Repr

end Watch

def Streaming.Outcome.error? : Outcome → Option ClientError
  | .failed e => some e
  | _ => none

namespace Watch

/-- How the request has come out for which the watch waits. -/
def State.news? (s : State) : Option News :=
  match s.phase with
  | .dialing _ i => (s.client.outcome? i).map fun o => .dialed o.error?
  | .listening i => (s.client.outcome? i).map fun o => .waited o.error?
  | _ => none

/-- What a watch hears as it takes an action. -/
def hears (s : State) : Action → List Heard
  | .client _ => []
  | .hookEnded o => if s.phase = .announcing then [⟨.announced o.error?, s.client.now⟩] else []
  | .proceed _ => s.news?.toList.map fun news => ⟨news, s.client.now⟩

abbrev heard (u : Streaming.Setup) (p : RetryPolicy) (s : State) (as : List Action) : List Heard :=
  Step.history (step u p) hears s as

/-! ## The law -/

def News.isRefusal : News → Bool
  | .dialed (some e) => e.isConnectFailed
  | _ => false

/-- So many dials in a row were refused, up to now. -/
def refusals (hs : List Heard) : Nat := (hs.reverse.takeWhile fun h => h.news.isRefusal).length

/-- What it is time for. -/
inductive Due where
  | dial (notBefore : Nat)
  | announce
  | wait
  /-- Nothing more: the watch has ended. -/
  | finished (o : Streaming.Outcome)
deriving DecidableEq, Repr

/-- What it is time for after some news, with which so many refusals in a row have been heard. -/
def Heard.due (p : RetryPolicy) (refusals : Nat) (h : Heard) : Due :=
  match h.news with
  | .dialed none => .announce
  | .dialed (some e) =>
    if e.isConnectFailed && refusals < max 1 p.maxAttempts then
      .dial (h.time + p.delay refusals 0)
    else .finished (.failed e)
  | .announced none => .wait
  | .announced (some e) => .finished (.failed e)
  | .waited none => .finished .done
  | .waited (some .transportClosed) => .dial h.time
  | .waited (some e) => .finished (.failed e)

/-- What it is time for, by all that was heard. -/
def due (p : RetryPolicy) (hs : List Heard) : Due :=
  match hs.getLast? with
  | none => .dial 0
  | some h => h.due p (refusals hs)

/-- What can be heard of it. -/
def Due.Admits : Due → Heard → Prop
  | .dial notBefore, ⟨.dialed _, time⟩ => notBefore ≤ time
  | .announce, ⟨.announced _, _⟩ => True
  | .wait, ⟨.waited _, _⟩ => True
  | _, _ => False

/-- What can be heard from the start on: news of what it was time for, one after the other. -/
inductive Course (p : RetryPolicy) : List Heard → Prop
  | nil : Course p []
  | concat {hs : List Heard} {h : Heard} (course : Course p hs) (admits : (due p hs).Admits h)
      (order : ∀ h' ∈ hs, h'.time ≤ h.time) : Course p (hs ++ [h])

variable {u : Streaming.Setup} {p : RetryPolicy} {s t : State} {client client' : Streaming.State}
  {hs : List Heard} {h : Heard} {d : Due} {n : Nat}

theorem hears_proceed {news : News} {chance : Nat} (h : s.news? = some news) :
    hears s (.proceed chance) = [⟨news, s.client.now⟩] := by
  simp only [hears, h, Option.toList_some, List.map_cons, List.map_nil]

theorem hears_proceed_of_none {chance : Nat} (h : s.news? = none) : hears s (.proceed chance) = [] := by
  simp only [hears, h, Option.toList_none, List.map_nil]

@[simp] theorem refusals_concat (hs : List Heard) (h : Heard) :
    refusals (hs ++ [h]) = if h.news.isRefusal then refusals hs + 1 else 0 := by
  rw [refusals, List.reverse_append, List.reverse_singleton, List.singleton_append,
    List.takeWhile_cons]
  split <;> rfl

@[simp] theorem due_concat (p : RetryPolicy) (hs : List Heard) (h : Heard) :
    due p (hs ++ [h]) = h.due p (refusals (hs ++ [h])) := by
  simp only [due, List.getLast?_concat]

theorem Course.of_prefix (h : Course p hs) {hs' : List Heard} (hpre : hs' <+: hs) (hne : hs' ≠ hs) :
    ∃ h, (due p hs').Admits h := by
  induction h with
  | nil => exact absurd (List.prefix_nil.mp hpre) hne
  | @concat hs h _ admits _ ih =>
    rcases List.prefix_concat_iff.mp hpre with rfl | hpre
    · exact absurd rfl hne
    · by_cases heq : hs' = hs
      · exact ⟨h, heq ▸ admits⟩
      · exact ih hpre heq

/-- Nothing is heard any more when it is over. -/
theorem Course.first (h : Course p hs) {hs' : List Heard} (hpre : hs' <+: hs) (hne : hs' ≠ hs)
    (o : Streaming.Outcome) : due p hs' ≠ .finished o := by
  intro hfinished
  obtain ⟨h, admits⟩ := h.of_prefix hpre hne
  rw [hfinished] at admits
  exact admits

theorem Heard.due_eq_dial {notBefore : Nat} (hdue : h.due p n = .dial notBefore) :
    h.news.isRefusal = true ∧ n < max 1 p.maxAttempts ∨ h.news.isRefusal = false := by
  obtain ⟨news, time⟩ := h
  cases news with
  | dialed e =>
    cases e with
    | none => cases hdue
    | some e =>
      simp only [Heard.due] at hdue
      split at hdue
      · next hrefused =>
        rw [Bool.and_eq_true, decide_eq_true_eq] at hrefused
        exact .inl hrefused
      · cases hdue
  | announced | waited => exact .inr rfl

/-- With so many refusals in a row it is no longer time to dial. -/
theorem refusals_lt_of_dial {notBefore : Nat} (hdue : due p hs = .dial notBefore) :
    refusals hs < max 1 p.maxAttempts := by
  have hpos : 0 < max 1 p.maxAttempts := Nat.lt_of_lt_of_le Nat.zero_lt_one (Nat.le_max_left ..)
  rcases List.eq_nil_or_concat hs with rfl | ⟨hs, h, rfl⟩
  · exact hpos
  · rw [List.concat_eq_append] at hdue ⊢
    rw [due_concat] at hdue
    rcases Heard.due_eq_dial hdue with ⟨-, hlt⟩ | hother
    · exact hlt
    · rw [refusals_concat, hother, if_neg Bool.false_ne_true]
      exact hpos

theorem Due.Admits.of_isRefusal (admits : d.Admits h) (hrefusal : h.news.isRefusal = true) :
    ∃ notBefore, d = .dial notBefore ∧ notBefore ≤ h.time := by
  obtain ⟨news, time⟩ := h
  cases news with
  | dialed e =>
    cases d with
    | dial notBefore => exact ⟨notBefore, rfl, admits⟩
    | announce | wait | finished => exact admits.elim
  | announced | waited => cases hrefusal

theorem Course.refusals_le (h : Course p hs) : refusals hs ≤ max 1 p.maxAttempts := by
  induction h with
  | nil => exact Nat.zero_le _
  | concat _ admits =>
    rw [refusals_concat]
    split
    · next hrefusal =>
      obtain ⟨_, hdue, -⟩ := admits.of_isRefusal hrefusal
      exact refusals_lt_of_dial hdue
    · exact Nat.zero_le _

/-! ## Delays without jitter -/

open Float.Model (UnpackedFloat) in
theorem not_pos_of_nonpos {x : Float} (h : x ≤ 0) : ¬ 0 < x := by
  have zero : (0 : Float).toModel.unpack = .zero .positive := rfl
  have hle : x.toModel.unpack.le (.zero .positive) = true := zero ▸ of_decide_eq_true h
  intro hpos
  have hlt : (UnpackedFloat.zero .positive).lt x.toModel.unpack = true :=
    zero ▸ of_decide_eq_true hpos
  revert hle hlt
  cases x.toModel.unpack with
  | infinity s | finite s =>
    cases s with
    | positive =>
      intro hle
      cases hle
    | negative =>
      intro _ hlt
      cases hlt
  | zero | notANumber =>
    intro _ hlt
    cases hlt

/-- Without jitter a delay is not left to chance. -/
theorem delay_eq (hjitter : p.jitter ≤ 0) (n chance : Nat) : p.delay n chance = p.delay n 0 := by
  have hjittered (d k : Nat) : p.backoff.jittered d k = d := if_neg (not_pos_of_nonpos hjitter)
  simp only [RetryPolicy.delay, Backoff.delay, hjittered]

/-! ## Where a watch stands -/

/-- Where a watch stands when something is due and it has heard so many refusals in a row. -/
inductive Stands (client : Streaming.State) (refusals : Nat) : Due → Phase → Prop
  | connecting {notBefore} (due : notBefore ≤ client.now) :
      Stands client refusals (.dial notBefore) (.connecting refusals)
  | dialing {notBefore i} (due : notBefore ≤ client.now)
      (own : client.request? i = some (.connect [])) :
      Stands client refusals (.dial notBefore) (.dialing refusals i)
  | pausing {notBefore} : Stands client refusals (.dial notBefore) (.pausing refusals notBefore)
  | announcing : Stands client refusals .announce .announcing
  | waiting : Stands client refusals .wait .waiting
  | listening {i} (own : client.request? i = some .wait) : Stands client refusals .wait (.listening i)
  | ended {o} : Stands client refusals (.finished o) (.ended o)

theorem Stands.later {ph : Phase} (h : Stands client n d ph) (hlater : client.Precedes client') :
    Stands client' n d ph := by
  cases h with
  | connecting due => exact .connecting (Nat.le_trans due hlater.now)
  | dialing due own => exact .dialing (Nat.le_trans due hlater.now) (hlater.request _ _ own)
  | pausing => exact .pausing
  | announcing => exact .announcing
  | waiting => exact .waiting
  | listening own => exact .listening (hlater.request _ _ own)
  | ended => exact .ended

/-- What has been heard is a course, it is all past, and the watch stands where the law has it. -/
structure Accounts (p : RetryPolicy) (s : State) (hs : List Heard) : Prop where
  course : Course p hs
  past : ∀ h ∈ hs, h.time ≤ s.client.now
  stands : Stands s.client (refusals hs) (due p hs) s.phase

theorem Accounts.start (p : RetryPolicy) (client : Streaming.State) : Accounts p { client } [] :=
  ⟨.nil, by simp, .connecting (Nat.zero_le _)⟩

/-- Nothing is heard. -/
theorem Accounts.quiet (h : Accounts p s hs) (hlater : s.client.Precedes t.client)
    (stands : Stands t.client (refusals hs) (due p hs) t.phase) : Accounts p t hs :=
  ⟨h.course, fun h' hmem => Nat.le_trans (h.past h' hmem) hlater.now, stands⟩

/-- Something is heard, and the client is left alone. -/
theorem Accounts.news {news : News} (h : Accounts p s hs) (client : t.client = s.client)
    (admits : (due p hs).Admits ⟨news, s.client.now⟩)
    (stands : Stands t.client (refusals (hs ++ [⟨news, s.client.now⟩]))
      (due p (hs ++ [⟨news, s.client.now⟩])) t.phase) :
    Accounts p t (hs ++ [⟨news, s.client.now⟩]) where
  course := h.course.concat admits h.past
  past h' hmem := by
    rw [client]
    rcases List.mem_append.mp hmem with hmem | hmem
    · exact h.past h' hmem
    · obtain rfl := List.mem_singleton.mp hmem
      exact Nat.le_refl _
  stands := stands

/-! ## Steps -/

theorem lt_max_one_iff (n m : Nat) : n + 1 < max 1 m ↔ n + 1 < m := by omega

section
variable {now : Nat} (hs : List Heard) (o : Streaming.Outcome)

theorem stands_afterDial (hjitter : p.jitter ≤ 0) (chance : Nat) :
    Stands client (refusals (hs ++ [⟨.dialed o.error?, now⟩]))
      (due p (hs ++ [⟨.dialed o.error?, now⟩])) (afterDial p (refusals hs) now chance o) := by
  cases o with
  | done | answered => exact due_concat .. ▸ .announcing
  | failed e =>
    rw [due_concat, refusals_concat]
    cases hrefused : e.isConnectFailed with
    | false =>
      simp only [afterDial, Heard.due, Streaming.Outcome.error?, hrefused]
      exact .ended
    | true =>
      simp only [afterDial, Heard.due, Streaming.Outcome.error?, News.isRefusal, hrefused,
        RetryPolicy.allows, lt_max_one_iff, Bool.true_and, if_true, delay_eq hjitter _ chance]
      split
      · exact .pausing
      · exact .ended

theorem stands_afterHook (n : Nat) :
    Stands client n (due p (hs ++ [⟨.announced o.error?, now⟩])) (afterHook o) := by
  rw [due_concat]
  cases o with
  | done | answered => exact .waiting
  | failed => exact .ended

theorem stands_afterWait (hnow : now ≤ client.now) :
    Stands client (refusals (hs ++ [⟨.waited o.error?, now⟩]))
      (due p (hs ++ [⟨.waited o.error?, now⟩])) (afterWait o) := by
  rw [due_concat, refusals_concat]
  cases o with
  | done | answered => exact .ended
  | failed e =>
    cases e with
    | transportClosed => exact .connecting hnow
    | _ => exact .ended

end

theorem Accounts.proceed {chance : Nat} {es : List Streaming.Event} (hjitter : p.jitter ≤ 0)
    (h : Accounts p s hs) (hstep : proceed u p chance s = some (t, es)) :
    Accounts p t (hs ++ hears s (.proceed chance)) := by
  have later (r : Streaming.Request) : s.client.Precedes (s.client.start u r).1 :=
    Streaming.precedes_of_step (a := .start r) rfl
  have own (r : Streaming.Request) (hr : r.isCall = false) :
      (s.client.start u r).1.request? s.client.callers.length = some r :=
    Streaming.request?_start u s.client hr
  -- By cases on where the watch stands, which ties its phase to what is due.
  have stands := h.stands
  obtain ⟨client, phase⟩ := s
  generalize hdue : due p hs = d at stands
  cases stands with
  | @connecting notBefore hnow =>
    cases hstep
    rw [hears_proceed_of_none rfl, List.append_nil]
    refine h.quiet (later (.connect [])) ?_
    rw [hdue]
    exact .dialing (Nat.le_trans hnow (later (.connect [])).now) (own (.connect []) rfl)
  | @dialing notBefore i hnow =>
    obtain ⟨o, ho, heq⟩ := Option.map_eq_some_iff.mp hstep
    cases heq
    have hnews : State.news? { client, phase := .dialing (refusals hs) i } = some (.dialed o.error?) :=
      Option.map_eq_some_iff.mpr ⟨o, ho, rfl⟩
    rw [hears_proceed hnews]
    exact h.news rfl (by rw [hdue]; exact hnow) (stands_afterDial hs o hjitter chance)
  | pausing =>
    simp only [Watch.proceed] at hstep
    split at hstep
    · next hnow =>
      cases hstep
      rw [hears_proceed_of_none rfl, List.append_nil]
      exact h.quiet ⟨fun _ _ => id, Nat.le_refl _⟩ (hdue ▸ .connecting hnow)
    · cases hstep
  | announcing | ended => cases hstep
  | waiting =>
    cases hstep
    rw [hears_proceed_of_none rfl, List.append_nil]
    refine h.quiet (later .wait) ?_
    rw [hdue]
    exact .listening (own .wait rfl)
  | @listening i =>
    obtain ⟨o, ho, heq⟩ := Option.map_eq_some_iff.mp hstep
    cases heq
    have hnews : State.news? { client, phase := .listening i } = some (.waited o.error?) :=
      Option.map_eq_some_iff.mpr ⟨o, ho, rfl⟩
    rw [hears_proceed hnews]
    exact h.news rfl (by rw [hdue]; trivial) (stands_afterWait hs o (Nat.le_refl _))

theorem Accounts.step {a : Action} {es : List Streaming.Event} (hjitter : p.jitter ≤ 0)
    (h : Accounts p s hs) (hstep : step u p s a = some (t, es)) :
    Accounts p t (hs ++ hears s a) := by
  cases a with
  | client a =>
    obtain ⟨⟨client, fs⟩, hclient, heq⟩ := Option.map_eq_some_iff.mp hstep
    cases heq
    have later := Streaming.precedes_of_step hclient
    rw [hears, List.append_nil]
    exact h.quiet later (h.stands.later later)
  | proceed chance => exact Accounts.proceed (u := u) hjitter h hstep
  | hookEnded o =>
    have stands := h.stands
    obtain ⟨client, phase⟩ := s
    generalize hdue : due p hs = d at stands
    cases stands with
    | announcing =>
      cases hstep
      exact h.news rfl (by rw [hdue]; trivial) (stands_afterHook hs o _)
    | _ => cases hstep

theorem accounts_of_run {as : List Action} {es : List Streaming.Event} (hjitter : p.jitter ≤ 0)
    (h : run u p { client } as = some (s, es)) : Accounts p s (heard u p { client } as) := by
  refine Step.reach_induction (R := fun t as _ => Accounts p t (heard u p { client } as))
    (.start p client) ?_ h
  intro t v a as es fs hrun accounts hstep
  rw [heard, Step.history_concat hears hrun]
  exact accounts.step hjitter hstep

end Switchboard.Watch
