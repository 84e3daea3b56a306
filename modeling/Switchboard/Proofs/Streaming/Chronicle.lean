-- SUMMARY: What the halves of a connection keep of its incidents, and how they end it.
import Switchboard.Proofs.Streaming.Incidents

/-!
# Chronicles

What the halves of a connection know of its incidents is an invariant of every run: the
failed write and the failed read are on record exactly (`Link.Recalls`), a connection ends
when something befalls it and on no other ground (`Link.IsEnding`), its receive half has
crashed when the callback made it, and its transport is closed once, when both halves have
ended. `Chronicle` puts this together.

From where a connection has begun to end, its halves get to the end by themselves (`Ends`),
unless the receive half has crashed.
-/

namespace Switchboard.Streaming

/-- The writes that have failed. -/
def writeFaults (bs : List Incident) : List ClientError :=
  bs.filterMap fun
    | .writeFault e => some e
    | _ => none

/-- The reads that have failed. -/
def readFaults (bs : List Incident) : List ClientError :=
  bs.filterMap fun
    | .readFault e => some e
    | _ => none

section
variable (bs bs' : List Incident) (e : ClientError)

@[simp] theorem writeFaults_append : writeFaults (bs ++ bs') = writeFaults bs ++ writeFaults bs' :=
  List.filterMap_append

@[simp] theorem readFaults_append : readFaults (bs ++ bs') = readFaults bs ++ readFaults bs' :=
  List.filterMap_append

@[simp] theorem writeFaults_shut : writeFaults [.shut] = [] := rfl

@[simp] theorem readFaults_shut : readFaults [.shut] = [] := rfl

@[simp] theorem writeFaults_writeFault : writeFaults [.writeFault e] = [e] := rfl

@[simp] theorem readFaults_writeFault : readFaults [.writeFault e] = [] := rfl

@[simp] theorem writeFaults_readFault : writeFaults [.readFault e] = [] := rfl

@[simp] theorem readFaults_readFault : readFaults [.readFault e] = [e] := rfl

@[simp] theorem writeFaults_crash (text : String) : writeFaults [.crash text] = [] := rfl

@[simp] theorem readFaults_crash (text : String) : readFaults [.crash text] = [] := rfl

variable {bs e}

theorem mem_writeFaults : e ∈ writeFaults bs ↔ .writeFault e ∈ bs := by
  unfold writeFaults
  rw [List.mem_filterMap]
  constructor
  · rintro ⟨b, hb, he⟩
    split at he <;> cases he
    exact hb
  · exact fun hb => ⟨_, hb, rfl⟩

theorem mem_readFaults : e ∈ readFaults bs ↔ .readFault e ∈ bs := by
  unfold readFaults
  rw [List.mem_filterMap]
  constructor
  · rintro ⟨b, hb, he⟩
    split at he <;> cases he
    exact hb
  · exact fun hb => ⟨_, hb, rfl⟩

end

namespace Receiver

/-- The pending table has been emptied. -/
def hasCleared : Receiver → Bool
  | .joining _ | .closing _ | .ended _ => true
  | _ => false

/-- The send half has been waited for. -/
def hasJoined : Receiver → Bool
  | .closing _ | .ended _ => true
  | _ => false

def hasEnded : Receiver → Bool
  | .ended _ => true
  | _ => false

def hasCrashed : Receiver → Bool
  | .crashed _ => true
  | _ => false

end Receiver

variable {u : Setup} {s t v : State} {k n n' : Nat} {l l' : Link} {a : Happening}
  {as : List Happening} {bs bs' : List Incident} {es fs : List Event}

/-! ## What the halves know -/

/-- The receive half has the read that failed, if one did, and ends with the write that failed, if
there is one, and else with the read. -/
@[simp] def Receiver.Recalls (failure : Option ClientError) (faults : List ClientError) : Receiver → Prop
  | .reading | .crashed _ => faults = []
  | .leaving e | .clearing e | .joining e | .closing e => faults = e.toList
  | .ended e => ∃ read : Option ClientError, faults = read.toList ∧ e = failure.or read

/-- Which write has failed does not matter before the end. -/
theorem Receiver.Recalls.of_not_joined {r : Receiver} {failure failure' : Option ClientError}
    {faults : List ClientError} (h : r.Recalls failure faults) (hr : r.hasJoined = false) :
    r.Recalls failure' faults := by
  cases r <;> first | exact h | cases hr

namespace Link

/-- The incidents are on record as they were. No write fails once the receive half has seen the send
half end. -/
structure Recalls (l : Link) (bs : List Incident) : Prop where
  written : writeFaults bs = l.failure.toList
  atWork : l.sender.isAtWork = true → l.failure = none
  failing : l.sender = .failing → l.failure ≠ none
  read : l.receiver.Recalls l.failure (readFaults bs)
  joined : l.receiver.hasJoined = true → l.sender = .ended

theorem recalls_new : Link.Recalls {} [] where
  written := rfl
  atWork _ := rfl
  failing h := nomatch h
  read := rfl
  joined h := nomatch h

theorem Recalls.not_joined (h : l.Recalls bs) (hs : l.sender ≠ .ended) :
    l.receiver.hasJoined = false :=
  Bool.eq_false_iff.mpr fun hj => hs (h.joined hj)

theorem Recalls.pass (h : l.Recalls bs) (failure : l'.failure = l.failure)
    (receiver : l'.receiver = l.receiver)
    (sender : l'.sender = l.sender ∨ l.sender.isAtWork = true ∧ l'.sender.isAtWork = true) :
    l'.Recalls bs := by
  have read : l'.receiver.Recalls l'.failure (readFaults bs) := by
    rw [receiver, failure]
    exact h.read
  rcases sender with sender | ⟨before, after⟩
  · exact ⟨failure ▸ h.written, fun hw => failure.trans (h.atWork (sender ▸ hw)),
      fun hf => failure ▸ h.failing (sender ▸ hf), read,
      fun hj => sender.trans (h.joined (receiver ▸ hj))⟩
  · have hjoined := h.not_joined fun hended => by
      rw [hended] at before
      cases before
    refine ⟨failure ▸ h.written, fun _ => failure.trans (h.atWork before), fun hf => ?_, read,
      fun hj => ?_⟩
    · rw [hf] at after
      cases after
    · rw [receiver, hjoined] at hj
      cases hj

/-- The receive half goes on with what it has. -/
theorem Recalls.receiver {r : Receiver} (h : l.Recalls bs)
    (read : r.Recalls l.failure (readFaults (bs ++ bs'))) (quiet : writeFaults bs' = [])
    (joined : r.hasJoined = true → l.sender = .ended) :
    Link.Recalls { l with receiver := r } (bs ++ bs') :=
  ⟨by simpa [quiet] using h.written, h.atWork, h.failing, read, joined⟩

theorem Recalls.fares (h : l.Recalls bs) (step : Fares k a l l' bs' n) : l'.Recalls (bs ++ bs') := by
  have read := h.read
  cases step with
  | pass _ failure receiver sender =>
    rw [List.append_nil]
    exact h.pass failure receiver sender
  | shut => exact ⟨by simpa using h.written, h.atWork, h.failing, by simpa using h.read, h.joined⟩
  | @writeFault e writing =>
    have hnone := h.atWork writing
    have hjoined := h.not_joined fun hended => by
      rw [hended] at writing
      cases writing
    refine ⟨by simp [h.written, hnone], (nomatch ·), fun _ => by simp [hnone], ?_, fun hj => ?_⟩
    · rw [readFaults_append, readFaults_writeFault, List.append_nil]
      exact read.of_not_joined hjoined
    · rw [hjoined] at hj
      cases hj
  | abort | quit =>
    rw [List.append_nil]
    exact ⟨h.written, (nomatch ·), (nomatch ·), h.read, fun _ => rfl⟩
  | @readFault e inbound reading =>
    rw [reading] at read
    have none : readFaults bs = [] := read
    exact ⟨by simpa using h.written, h.atWork, h.failing, by simp [none], (nomatch ·)⟩
  | crash reading =>
    rw [reading] at read
    have none : readFaults bs = [] := read
    exact ⟨by simpa using h.written, h.atWork, h.failing, by simp [none], (nomatch ·)⟩
  | stop reading =>
    rw [reading] at read
    exact h.receiver (by simpa using read) rfl (nomatch ·)
  | @cancel e leaving =>
    rw [leaving] at read
    have next : Link.Recalls { l with receiver := .clearing e } (bs ++ []) :=
      h.receiver (by simpa using read) rfl (nomatch ·)
    exact ⟨next.written, next.atWork, next.failing, next.read, next.joined⟩
  | clear clearing =>
    rw [clearing] at read
    exact h.receiver (by simpa using read) rfl (nomatch ·)
  | joinSender joining ended =>
    rw [joining] at read
    exact h.receiver (by simpa using read) rfl fun _ => ended
  | @hangUp e closing =>
    rw [closing] at read
    exact h.receiver ⟨e, by simpa using read, rfl⟩ rfl fun _ => h.joined (by rw [closing]; rfl)

/-- The connection is cancelled, or a half is about to cancel it. -/
def IsEnding (l : Link) : Prop :=
  l.cancelled = true ∨ l.sender = .failing ∨ l.receiver ≠ .reading

/-- A connection ends when something befalls it, and on no other ground. -/
theorem isEnding_of_fares (step : Fares k a l l' bs n) : l'.IsEnding ↔ l.IsEnding ∨ bs ≠ [] := by
  cases step with
  | pass cancelled _ receiver sender =>
    have failing : l'.sender = .failing ↔ l.sender = .failing := by
      rcases sender with sender | ⟨before, after⟩
      · rw [sender]
      · constructor <;> intro hf
        · rw [hf] at after
          cases after
        · rw [hf] at before
          cases before
    simp [IsEnding, cancelled, receiver, failing]
  | shut | writeFault | readFault | crash => simp [IsEnding]
  | abort failing => simp [IsEnding, failing]
  | quit _ down | stop _ down => simp [IsEnding, down]
  | cancel at' | clear at' | joinSender at' | hangUp at' => simp [IsEnding, at']

end Link

/-- Only one who waits claims a connection. -/
theorem claimed_of_fares (step : Fares k a l l' bs n) (ha : ∀ i, a ≠ .act (.caller i .claim)) :
    l'.claimed = l.claimed := by
  cases step with
  | pass _ _ _ _ claimed =>
    rcases claimed with claimed | ⟨i, hi⟩
    · exact claimed
    · exact absurd hi (ha i)
  | _ => rfl

theorem hasCleared_of_fares (step : Fares k a l l' bs n) (h : l'.receiver.hasCleared = true) :
    l.receiver.hasCleared = true ∨ a = .act (.link k .clear) := by
  cases step with
  | pass _ _ receiver => exact .inl (receiver ▸ h)
  | shut | writeFault | abort | quit => exact .inl h
  | clear _ action => exact .inr action
  | joinSender at' | hangUp at' => exact .inl (by rw [at']; rfl)
  | readFault | crash | stop | cancel => cases h

theorem hasEnded_of_fares (step : Fares k a l l' bs n) :
    l'.receiver.hasEnded.toNat = l.receiver.hasEnded.toNat + n := by
  cases step with
  | pass _ _ receiver => rw [receiver, Nat.add_zero]
  | shut | writeFault | abort | quit => rfl
  | readFault at' | crash at' | stop at' | cancel at' | clear at' | joinSender at' | hangUp at' =>
    rw [at']
    rfl

/-- A receive half that has crashed stays so. -/
theorem crashed_of_fares {text : String} (step : Fares k a l l' bs n) :
    l'.receiver = .crashed text ↔ l.receiver = .crashed text ∨ .crash text ∈ bs := by
  cases step with
  | pass _ _ receiver => simp [receiver]
  | shut | writeFault | abort | quit => simp
  | crash at' => simp [at', eq_comm]
  | readFault at' | stop at' | cancel at' | clear at' | joinSender at' | hangUp at' => simp [at']

/-! ## Runs -/

/-- A connection after a run, by what has befallen it and how often its transport was closed. -/
structure Chronicle (k : Nat) (as : List Happening) (l : Link) (bs : List Incident) (n : Nat) : Prop where
  recalls : l.Recalls bs
  ending : l.IsEnding ↔ bs ≠ []
  cleared : l.receiver.hasCleared = true → .act (.link k .clear) ∈ as
  closed : n = l.receiver.hasEnded.toNat
  crashed : ∀ text, l.receiver = .crashed text ↔ .crash text ∈ bs

theorem chronicle_new (k : Nat) : Chronicle k [] {} [] 0 where
  recalls := Link.recalls_new
  ending := by simp [Link.IsEnding]
  cleared h := nomatch h
  closed := rfl
  crashed := by simp

theorem Chronicle.step (h : Chronicle k as l bs n) (step : Fares k a l l' bs' n') :
    Chronicle k (as ++ [a]) l' (bs ++ bs') (n + n') where
  recalls := h.recalls.fares step
  ending := by
    rw [Link.isEnding_of_fares step, h.ending]
    cases bs <;> simp
  cleared hc := by
    rw [List.mem_append, List.mem_singleton]
    exact (hasCleared_of_fares step hc).imp h.cleared Eq.symm
  closed := by rw [hasEnded_of_fares step, h.closed]
  crashed text := by rw [crashed_of_fares step, h.crashed, List.mem_append]

theorem Chronicle.hasCrashed (h : Chronicle k as l bs n) (calm : ∀ text, .crash text ∉ bs) :
    l.receiver.hasCrashed = false := by
  cases hr : l.receiver with
  | crashed text => exact absurd ((h.crashed text).mp hr) (calm text)
  | _ => rfl

theorem slotFilled_of_run {headers : Headers}
    (h : Step.run (happen u) (State.fresh headers) as = some (t, es)) : t.SlotFilled := by
  refine Step.reach_induction (R := fun t _ _ => t.SlotFilled) (fun _ h => nomatch h) ?_ h
  intro t v a as es fs hrun filled hstep k hk
  have ages := ages_of_happen hstep
  cases (oneLive_of_run hrun).slotStep hstep with
  | keep keeps => exact ages.lt_length (filled k (keeps.slot ▸ hk))
  | dial _ _ slot | release _ slot => exact ages.lt_length (filled k (slot ▸ hk))
  | establish _ _ slot _ _ links =>
    obtain rfl : _ = k := Option.some.inj (slot.symm.trans hk)
    simp [links]

theorem chronicle_of_run {headers : Headers}
    (h : Step.run (happen u) (State.fresh headers) as = some (t, es)) (k : Nat) :
    Chronicle k as (t.link k) (incidents u (State.fresh headers) as k) (es.count (.closed k)) := by
  refine Step.reach_induction (R := fun t as es =>
    Chronicle k as (t.link k) (incidents u (State.fresh headers) as k) (es.count (.closed k)))
    (chronicle_new k) ?_ h
  intro t v a as es fs hrun chronicle hstep
  rw [incidents, Step.history_concat befalling hrun, onLink_append, List.count_append]
  exact chronicle.step (fares_of_happen (slotFilled_of_run hrun) hstep k)

/-! ## To the end -/

/-- The step is none of reading, and it is no write that fails. -/
def LinkAction.isCalm : LinkAction → Bool
  | .receive | .crash _ | .writeFault _ => false
  | _ => true

/-- The halves of the connection get from one state to the other by themselves, and nothing befalls
it on the way. -/
def Winds (u : Setup) (k : Nat) (s t : State) : Prop :=
  ∃ as es, (∀ a ∈ as, ∃ b : LinkAction, a = .link k b ∧ b.isCalm = true) ∧ run u s as = some (t, es)

theorem Winds.refl (u : Setup) (k : Nat) (s : State) : Winds u k s s := ⟨[], [], by simp, rfl⟩

theorem Winds.trans (h : Winds u k s t) (h' : Winds u k t v) : Winds u k s v := by
  obtain ⟨as, es, own, hrun⟩ := h
  obtain ⟨bs, fs, own', hrun'⟩ := h'
  refine ⟨as ++ bs, es ++ fs, fun a ha => ?_, Step.run_append_eq_some_iff.mpr ⟨t, es, fs, hrun, hrun', rfl⟩⟩
  exact (List.mem_append.mp ha).elim (own a) (own' a)

theorem winds_of_stepLink {b : LinkAction} (calm : b.isCalm = true) (hl : s.links[k]? = some l)
    (h : stepLink s k l b = some (t, es)) : Winds u k s t := by
  have hstep : step u s (.link k b) = some (t, es) := by simp only [step, hl, Option.bind_some, h]
  exact ⟨[.link k b], es ++ [], by simpa using calm,
    Step.run_cons_eq_some_iff.mpr ⟨t, es, [], hstep, rfl, rfl⟩⟩

theorem getElem?_updateLink {f : Link → Link} (hl : s.links[k]? = some l) :
    (s.updateLink k f).links[k]? = some (f l) := by
  simp [State.updateLink, hl]

/-- The halves can get to the end of the connection by themselves. -/
def Ends (u : Setup) (k : Nat) (s : State) : Prop :=
  ∃ t l, Winds u k s t ∧ t.links[k]? = some l ∧ l.receiver.hasEnded = true

theorem Winds.ends (h : Winds u k s t) (h' : Ends u k t) : Ends u k s := by
  obtain ⟨v, l, winds, hl, ended⟩ := h'
  exact ⟨v, l, h.trans winds, hl, ended⟩

/-- The connection goes on by one step of a half. -/
theorem ends_of_stepLink {b : LinkAction} {f : Link → Link} (calm : b.isCalm = true)
    (hl : s.links[k]? = some l) (h : stepLink s k l b = some (s.updateLink k f, es))
    (next : ∀ t : State, t.links[k]? = some (f l) → Ends u k t) : Ends u k s :=
  (winds_of_stepLink calm hl h).ends (next _ (getElem?_updateLink hl))

/-- Neither half does anything more. -/
theorem stepLink_of_ended (b : LinkAction) (hs : l.sender = .ended)
    (hr : l.receiver.hasEnded = true) : stepLink s k l b = none := by
  cases h : l.receiver with
  | ended e => cases b <;> simp [stepLink, hs, h]
  | _ =>
    rw [h] at hr
    cases hr

section
variable (hl : s.links[k]? = some l)
include hl

theorem ends_of_closing {e : Option ClientError} (hr : l.receiver = .closing e) : Ends u k s := by
  have hstep : stepLink s k l .hangUp =
      some (s.updateLink k fun l => { l with receiver := .ended (l.failure.or e) }, [.closed k]) := by
    simp only [stepLink, hr]
  exact ⟨_, _, winds_of_stepLink rfl hl hstep, getElem?_updateLink hl, rfl⟩

theorem ends_of_joining {e : Option ClientError} (hr : l.receiver = .joining e)
    (hs : l.sender = .ended) : Ends u k s := by
  have hstep : stepLink s k l .joinSender =
      some (s.updateLink k fun l => { l with receiver := .closing e }, []) := by
    simp only [stepLink, hr, hs]
  exact ends_of_stepLink rfl hl hstep fun t ht => ends_of_closing ht rfl

theorem ends_of_clearing {e : Option ClientError} (hr : l.receiver = .clearing e)
    (hs : l.sender = .ended) : Ends u k s := by
  have hstep : stepLink s k l .clear =
      some ({ s with pending := [] }.updateLink k fun l => { l with receiver := .joining e }, []) := by
    simp only [stepLink, hr]
  have hl' : ({ s with pending := [] } : State).links[k]? = some l := hl
  exact (winds_of_stepLink rfl hl hstep).ends (ends_of_joining (getElem?_updateLink hl') rfl hs)

theorem ends_of_leaving {e : Option ClientError} (hr : l.receiver = .leaving e)
    (hs : l.sender = .ended) : Ends u k s := by
  have hstep : stepLink s k l .cancel =
      some (s.updateLink k fun l => { l with receiver := .clearing e, cancelled := true }, []) := by
    simp only [stepLink, hr]
  exact ends_of_stepLink rfl hl hstep fun t ht => ends_of_clearing ht rfl hs

/-- When the send half has ended, the receive half follows. -/
theorem ends_of_sender (hs : l.sender = .ended) (down : l.cancelled = true)
    (whole : l.receiver.hasCrashed = false) : Ends u k s := by
  cases hr : l.receiver with
  | reading =>
    have hstep : stepLink s k l .stop =
        some (s.updateLink k fun l => { l with receiver := .leaving none }, []) := by
      simp only [stepLink, hr, down]
    exact ends_of_stepLink rfl hl hstep fun t ht => ends_of_leaving ht rfl hs
  | leaving e => exact ends_of_leaving hl hr hs
  | clearing e => exact ends_of_clearing hl hr hs
  | joining e => exact ends_of_joining hl hr hs
  | closing e => exact ends_of_closing hl hr
  | ended e => exact ⟨s, l, .refl u k s, hl, by rw [hr]; rfl⟩
  | crashed =>
    rw [hr] at whole
    cases whole

/-- The send half of a connection that is cancelled finishes the write in hand. -/
theorem ends_of_cancelled (down : l.cancelled = true) (whole : l.receiver.hasCrashed = false) :
    Ends u k s := by
  have quits {s : State} {l : Link} (hl : s.links[k]? = some l) (hs : l.sender = .idle)
      (down : l.cancelled = true) (whole : l.receiver.hasCrashed = false) : Ends u k s := by
    have hstep : stepLink s k l .quit =
        some (s.updateLink k fun l => { l with sender := .ended, queue := [] }, []) := by
      simp only [stepLink, hs, down]
    exact ends_of_stepLink rfl hl hstep fun t ht => ends_of_sender ht rfl down whole
  cases hs : l.sender with
  | idle => exact quits hl hs down whole
  | writing m =>
    have hstep : stepLink s k l .write =
        some (s.updateLink k fun l => { l with sender := .idle }, [.sent k m]) := by
      simp only [stepLink, hs]
    exact ends_of_stepLink rfl hl hstep fun t ht => quits ht rfl down whole
  | failing =>
    have hstep : stepLink s k l .abort =
        some (s.updateLink k fun l => { l with sender := .ended, queue := [], cancelled := true }, []) := by
      simp only [stepLink, hs]
    exact ends_of_stepLink rfl hl hstep fun t ht => ends_of_sender ht rfl rfl whole
  | ended => exact ends_of_sender hl hs down whole

theorem ends_of_isEnding (sound : l.Sound) (ending : l.IsEnding)
    (whole : l.receiver.hasCrashed = false) : Ends u k s := by
  rcases ending with down | failing | stopped
  · exact ends_of_cancelled hl down whole
  · have hstep : stepLink s k l .abort =
        some (s.updateLink k fun l => { l with sender := .ended, queue := [], cancelled := true }, []) := by
      simp only [stepLink, failing]
    exact ends_of_stepLink rfl hl hstep fun t ht => ends_of_cancelled ht rfl whole
  · cases hr : l.receiver with
    | reading => exact absurd hr stopped
    | leaving e =>
      have hstep : stepLink s k l .cancel =
          some (s.updateLink k fun l => { l with receiver := .clearing e, cancelled := true }, []) := by
        simp only [stepLink, hr]
      exact ends_of_stepLink rfl hl hstep fun t ht => ends_of_cancelled ht rfl rfl
    | clearing | joining | closing | ended =>
      exact ends_of_cancelled hl (sound.receiver (by rw [hr]; rfl)) whole
    | crashed =>
      rw [hr] at whole
      cases whole

end

end Switchboard.Streaming
