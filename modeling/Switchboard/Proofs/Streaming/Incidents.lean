-- SUMMARY: What befalls a connection of a streaming client, and what a step can be to it.
import Switchboard.Proofs.Streaming.Slot

/-!
# Incidents

Three things can end a connection: it is closed from this side, a write fails, or a read
does. A fourth leaves it to itself: the callback makes a panic of a message, and with it
goes the receive half. Which of them befalls a connection, and in which order, is up to
callers, peers, the transport and the callback, and the two halves go on in any order beside
that. `incidents` reads off a run what has befallen a connection, and `Fares` lists what a
step of the client can be to it.
-/

namespace Switchboard.Streaming

inductive Incident where
  /-- The client is closed, or given up, while the connection is in its slot. -/
  | shut
  | writeFault (e : ClientError)
  | readFault (e : ClientError)
  /-- The callback has panicked on the receive half. -/
  | crash (text : String)
deriving DecidableEq, Repr

def Read.fault? : Read → Option ClientError
  | .fault e => some e
  | _ => none

/-- The connections that a step befalls, and how. -/
def befalling (s : State) : Happening → List (Nat × Incident)
  | .act (.caller _ .shut) | .act .discard => s.slot.toList.map fun k => (k, .shut)
  | .act (.link k (.writeFault e)) => [(k, .writeFault e)]
  | .act (.link k .receive) => (reading s (.link k .receive)).filterMap fun r =>
      r.2.fault?.map fun e => (r.1, .readFault e)
  | .act (.link k (.crash text)) => [(k, .crash text)]
  | _ => []

/-- What has befallen a connection in a run, in order. -/
def incidents (u : Setup) (s : State) (as : List Happening) (k : Nat) : List Incident :=
  onLink k (Step.history (happen u) befalling s as)

/-- The sender has no failed write, and has not been told to stop. -/
def Sender.isAtWork : Sender → Bool
  | .idle | .writing _ => true
  | _ => false

/-- A connection, as it is or as it would be if it were dialed now. -/
def State.link (s : State) (k : Nat) : Link := (s.links[k]?).getD {}

/-- The connection in the slot is one that there is. -/
def State.SlotFilled (s : State) : Prop := ∀ k, s.slot = some k → k < s.links.length

variable {u : Setup} {s t v : State} {i j k n n' : Nat} {c : Caller} {l l' : Link} {a : Happening}
  {as : List Happening} {bs bs' : List Incident} {es fs : List Event}

/-! ## Views of one connection -/

theorem link_of_getElem? (h : s.links[k]? = some l) : s.link k = l := by
  rw [State.link, h, Option.getD_some]

theorem link_of_links (h : t.links = s.links) (k : Nat) : t.link k = s.link k := by
  rw [State.link, State.link, h]

theorem link_updateLink_self {f : Link → Link} (h : k < s.links.length) :
    (s.updateLink k f).link k = f (s.link k) := by
  simp [State.link, State.updateLink, h]

theorem link_updateLink_ne {f : Link → Link} (h : j ≠ k) : (s.updateLink j f).link k = s.link k := by
  simp [State.link, State.updateLink, h]

theorem link_append (h : t.links = s.links ++ [({} : Link)]) (k : Nat) : t.link k = s.link k := by
  simp only [State.link, h, List.getElem?_append, List.getElem?_singleton]
  split
  · rfl
  · next hlength =>
    rw [List.getElem?_eq_none (Nat.le_of_not_lt hlength)]
    split <;> rfl

/-! ## Steps -/

/-- What a step of the client can be to a connection, with what befalls the connection in it and how
often its transport is closed. -/
inductive Fares (k : Nat) (a : Happening) (l : Link) : Link → List Incident → Nat → Prop
  /-- Something arrives, is queued or is written, or somebody comes to wait, or the step concerns
  others. -/
  | pass {l' : Link} (cancelled : l'.cancelled = l.cancelled) (failure : l'.failure = l.failure)
      (receiver : l'.receiver = l.receiver)
      (sender : l'.sender = l.sender ∨ l.sender.isAtWork = true ∧ l'.sender.isAtWork = true)
      (claimed : l'.claimed = l.claimed ∨ ∃ i, a = .act (.caller i .claim)) :
      Fares k a l l' [] 0
  | shut : Fares k a l { l with cancelled := true } [.shut] 0
  | writeFault {e : ClientError} (writing : l.sender.isAtWork = true) :
      Fares k a l { l with sender := .failing, failure := l.failure.or (some e) } [.writeFault e] 0
  | abort (failing : l.sender = .failing) :
      Fares k a l { l with sender := .ended, queue := [], cancelled := true } [] 0
  | quit (idle : l.sender = .idle) (down : l.cancelled = true) :
      Fares k a l { l with sender := .ended, queue := [] } [] 0
  | readFault {e : ClientError} {inbound : List Read} (reading : l.receiver = .reading) :
      Fares k a l { l with inbound, receiver := .leaving (some e) } [.readFault e] 0
  | crash {text : String} {inbound : List Read} (reading : l.receiver = .reading) :
      Fares k a l { l with inbound, receiver := .crashed text } [.crash text] 0
  | stop (reading : l.receiver = .reading) (down : l.cancelled = true) :
      Fares k a l { l with receiver := .leaving none } [] 0
  | cancel {e : Option ClientError} (leaving : l.receiver = .leaving e) :
      Fares k a l { l with receiver := .clearing e, cancelled := true } [] 0
  | clear {e : Option ClientError} (clearing : l.receiver = .clearing e) (action : a = .act (.link k .clear)) :
      Fares k a l { l with receiver := .joining e } [] 0
  | joinSender {e : Option ClientError} (joining : l.receiver = .joining e) (ended : l.sender = .ended) :
      Fares k a l { l with receiver := .closing e } [] 0
  | hangUp {e : Option ClientError} (closing : l.receiver = .closing e) :
      Fares k a l { l with receiver := .ended (l.failure.or e) } [] 1

theorem Fares.rest : Fares k a l l [] 0 := .pass rfl rfl rfl (.inl rfl) (.inl rfl)

/-- A step that tells nothing of connections and leaves this one as it is. -/
theorem fares_of_link (h : t.link k = s.link k) (calm : onLink k (befalling s a) = [])
    (quiet : .closed k ∉ es) :
    Fares k a (s.link k) (t.link k) (onLink k (befalling s a)) (es.count (.closed k)) := by
  rw [h, calm, List.count_eq_zero.mpr quiet]
  exact .rest

theorem fares_cancelSlot (filled : s.SlotFilled) (h : t.links = s.cancelSlot.links)
    (ha : befalling s a = s.slot.toList.map fun k => (k, .shut)) (quiet : .closed k ∉ es) :
    Fares k a (s.link k) (t.link k) (onLink k (befalling s a)) (es.count (.closed k)) := by
  cases hslot : s.slot with
  | none =>
    have hlink : t.links = s.links := by rw [h, State.cancelSlot, hslot]
    exact fares_of_link (link_of_links hlink k) (by rw [ha, hslot]; rfl) quiet
  | some j =>
    have hlink : t.link k = (s.cancelLink j).link k := by
      rw [State.cancelSlot, hslot] at h
      exact link_of_links h k
    by_cases hj : j = k
    · subst hj
      have hincident : onLink j (befalling s a) = [.shut] := by simp [ha, hslot, onLink]
      rw [hlink, State.cancelLink, link_updateLink_self (filled j hslot), hincident,
        List.count_eq_zero.mpr quiet]
      exact .shut
    · refine fares_of_link ?_ (by simp [ha, hslot, onLink, hj]) quiet
      rw [hlink, State.cancelLink, link_updateLink_ne hj]

/-! ### Callers -/

theorem closed_notMem_of_taken {b : CallerAction} (h : Taken u s i c b t es) : .closed k ∉ es := by
  intro hmem
  cases h.isOf _ hmem

/-- A connection that goes on as before, whether or not it is the one that is touched. -/
theorem fares_updateLink {f : Link → Link} (hf : ∀ l, Fares k a l (f l) [] 0) (j : Nat) :
    Fares k a (s.link k) ((s.updateLink j f).link k) [] 0 := by
  by_cases hj : j = k
  · subst hj
    by_cases hlt : j < s.links.length
    · rw [link_updateLink_self hlt]
      exact hf _
    · have hnone : (s.updateLink j f).link j = s.link j := by simp [State.link, State.updateLink, hlt]
      rw [hnone]
      exact .rest
  · rw [link_updateLink_ne hj]
    exact .rest

theorem fares_of_taken {b : CallerAction} (filled : s.SlotFilled) (h : Taken u s i c b t es) :
    Fares k (.act (.caller i b)) (s.link k) (t.link k)
      (onLink k (befalling s (.act (.caller i b)))) (es.count (.closed k)) := by
  have quiet : .closed k ∉ es := closed_notMem_of_taken h
  by_cases hb : b = .shut
  · subst hb
    refine fares_cancelSlot filled ?_ rfl quiet
    obtain ⟨v, p, fs, h, rfl, -⟩ := h
    cases h with
    | shut => rfl
    | unsent action | fail action => cases action
  have calm : onLink k (befalling s (.act (.caller i b))) = [] := by
    cases b with
    | shut => exact absurd rfl hb
    | _ => rfl
  have touches := h.touches
  generalize hlinks : t.links = links at touches
  cases touches with
  | nothing => exact fares_of_link (link_of_links hlinks k) calm quiet
  | connect => exact fares_of_link (link_append hlinks k) calm quiet
  | @queue j m =>
    rw [link_of_links hlinks, List.count_eq_zero.mpr quiet]
    exact fares_updateLink (f := fun l => { l with queue := l.queue ++ [m] })
      (fun _ => .pass rfl rfl rfl (.inl rfl) (.inl rfl)) j
  | @claim j =>
    rw [link_of_links hlinks, List.count_eq_zero.mpr quiet]
    exact fares_updateLink (f := fun l => { l with claimed := true })
      (fun _ => .pass rfl rfl rfl (.inl rfl) (.inr ⟨i, rfl⟩)) j
  | shut => exact absurd rfl hb

/-! ### Halves -/

theorem closed_notMem_deliver (s : State) (m : Message) : .closed k ∉ (s.deliver m).2 := by
  have quiet (s : State) (m : Message) : .closed k ∉ s.callBack m := by
    intro hmem
    simp only [State.callBack, Option.mem_toList, Option.map_eq_some_iff] at hmem
    obtain ⟨_, -, hmem⟩ := hmem
    cases hmem
  unfold State.deliver
  split
  · exact quiet _ _
  · dsimp only
    split
    · exact quiet _ _
    · split
      · simp
      · simp
      · exact quiet _ _

theorem befalling_receive (hl : s.links[k]? = some l) : befalling s (.act (.link k .receive)) =
    (l.reads .receive).filterMap fun r => r.fault?.map fun e => (k, .readFault e) := by
  simp [befalling, reading, State.ofLink, hl, List.filterMap_map, Function.comp_def]

/-- What a half does befalls no connection but its own. -/
theorem onLink_befalling_of_ne {b : LinkAction} (hj : j ≠ k) (hl : s.links[j]? = some l) :
    onLink k (befalling s (.act (.link j b))) = [] := by
  cases b with
  | receive =>
    rw [befalling_receive hl]
    simp [onLink, hj, List.filterMap_filterMap]
  | writeFault | crash => simp [befalling, onLink, hj]
  | _ => rfl

theorem LinkStep.closed_notMem {b : LinkAction} (h : LinkStep s j l b t es) (hj : j ≠ k) :
    .closed k ∉ es := by
  cases h with
  | sends _ half => cases half <;> simp
  | receives _ half => cases half <;> simp [Ne.symm hj]
  | clears => simp
  | @delivers _ _ _ f _ m _ _ _ delivered =>
    have quiet := closed_notMem_deliver (k := k) (s.updateLink j f) m
    rwa [delivered] at quiet

theorem Sends.fares {b : LinkAction} (h : Sends k l b l' es) (s : State) :
    Fares k (.act (.link k b)) l l' (onLink k (befalling s (.act (.link k b)))) (es.count (.closed k)) := by
  cases h with
  | take idle => exact .pass rfl rfl rfl (.inr ⟨by rw [idle]; rfl, rfl⟩) (.inl rfl)
  | write writing => exact .pass rfl rfl rfl (.inr ⟨by rw [writing]; rfl, rfl⟩) (.inl rfl)
  | @writeFault _ e writing =>
    have incident : onLink k (befalling s (.act (.link k (.writeFault e)))) = [.writeFault e] := by
      simp [befalling, onLink]
    rw [incident]
    exact .writeFault (by rw [writing]; rfl)
  | abort failing => exact .abort failing
  | quit idle down => exact .quit idle down

theorem Receives.fares {b : LinkAction} {m? : Option Message} (h : Receives k l b l' m? es)
    (hl : s.links[k]? = some l) :
    Fares k (.act (.link k b)) l l' (onLink k (befalling s (.act (.link k b)))) (es.count (.closed k)) := by
  cases h with
  | read reading next | skip reading next =>
    have calm : onLink k (befalling s (.act (.link k .receive))) = [] := by
      rw [befalling_receive hl]
      simp [Link.reads, reading, next, Read.fault?, onLink]
    rw [calm]
    exact .pass rfl rfl rfl (.inl rfl) (.inl rfl)
  | @fault e inbound reading next =>
    have incident : onLink k (befalling s (.act (.link k .receive))) = [.readFault e] := by
      rw [befalling_receive hl]
      simp [Link.reads, reading, next, Read.fault?, onLink]
    rw [incident]
    exact .readFault reading
  | @crash text _ inbound reading =>
    have incident : onLink k (befalling s (.act (.link k (.crash text)))) = [.crash text] := by
      simp [befalling, onLink]
    rw [incident]
    exact .crash reading
  | stop reading down => exact .stop reading down
  | cancel leaving => exact .cancel leaving
  | clear clearing => exact .clear clearing rfl
  | joinSender joining ended => exact .joinSender joining ended
  | hangUp closing =>
    rw [List.count_singleton_self]
    exact .hangUp closing

/-- What a half does to its own connection and, which is nothing, to others. -/
theorem fares_of_linkStep {b : LinkAction} (hl : s.links[j]? = some l) (h : LinkStep s j l b t es)
    (k : Nat) : Fares k (.act (.link j b)) (s.link k) (t.link k)
      (onLink k (befalling s (.act (.link j b)))) (es.count (.closed k)) := by
  obtain ⟨f, hlinks, -⟩ := h.links
  by_cases hj : j = k
  · subst hj
    obtain ⟨hlt, -⟩ := List.getElem?_eq_some_iff.mp hl
    have own {f : Link → Link} (hlinks : t.links = (s.updateLink j f).links) : t.link j = f l := by
      rw [link_of_links hlinks, link_updateLink_self hlt, link_of_getElem? hl]
    rw [link_of_getElem? hl]
    cases h with
    | sends same half =>
      rw [own rfl, same]
      exact half.fares s
    | receives same half | clears same half =>
      rw [own rfl, same]
      exact half.fares hl
    | @delivers _ _ _ f _ m same half _ delivered =>
      have kept := links_deliver (s.updateLink j f) m
      have quiet := closed_notMem_deliver (k := j) (s.updateLink j f) m
      rw [delivered] at kept quiet
      rw [own kept, same, List.count_eq_zero.mpr quiet]
      exact half.fares hl
  · exact fares_of_link ((link_of_links hlinks k).trans (link_updateLink_ne hj))
      (onLink_befalling_of_ne hj hl) (h.closed_notMem hj)

theorem fares_of_happen (filled : s.SlotFilled) (h : happen u s a = some (t, es)) (k : Nat) :
    Fares k a (s.link k) (t.link k) (onLink k (befalling s a)) (es.count (.closed k)) := by
  cases a with
  | drop i =>
    simp only [happen] at h
    split at h <;> cases h
    exact fares_of_link rfl rfl (by simp)
  | act a =>
    cases a with
    | caller i b =>
      obtain ⟨c, -, taken⟩ := taken_of_step h
      exact fares_of_taken filled taken
    | link j b =>
      obtain ⟨l, hl, h⟩ := linkStep_of_step (u := u) h
      exact fares_of_linkStep hl h k
    | start r =>
      have hstart : s.start u r = (t, es) := Option.some.inj h
      have hlinks : t.links = s.links := (congrArg (·.1.links) hstart).symm.trans (links_start u s r)
      refine fares_of_link (link_of_links hlinks k) rfl ?_
      cases turn_of_start hstart with
      | enter | refuse => simp
    | arrive j r =>
      cases h
      exact fares_updateLink (f := fun l => { l with inbound := l.inbound ++ [r] })
        (fun _ => .pass rfl rfl rfl (.inl rfl) (.inl rfl)) j
    | discard =>
      cases h
      exact fares_cancelSlot filled rfl rfl (by simp)
    | cancel _ | setHeaders _ | setCallback _ | pass _ =>
      cases h
      exact fares_of_link rfl rfl (by simp)

end Switchboard.Streaming
