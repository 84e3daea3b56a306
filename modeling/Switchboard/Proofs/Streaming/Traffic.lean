-- SUMMARY: What comes in and what goes out on the connections of a streaming client.
import Switchboard.Proofs.Streaming.Book

/-!
# Traffic

Each connection delivers what arrives on it in order (`messages_arrived`), and what
is written to it are the requests of callers: one that is sent as it is, or a call
under the id for which it is registered (`travels_of_run`).
-/

namespace Switchboard.Streaming

variable {u : Setup} {s t : State} {i j k : Nat} {c : Caller} {l : Link} {m : Message}
  {es es' : List Event} {ds : List Delivery} {rs : List Request}

/-! ## Views of connections -/

section
variable {α : Type} (view : Link → List α)

theorem ofLink_of_links (h : t.links = s.links) (k : Nat) : t.ofLink view k = s.ofLink view k := by
  simp only [State.ofLink, h]

theorem ofLink_updateLink (j k : Nat) {f : Link → Link} (hf : ∀ l, view (f l) = view l) :
    (s.updateLink j f).ofLink view k = s.ofLink view k := by
  simp only [State.ofLink, State.updateLink, List.getElem?_modify]
  by_cases hj : j = k <;> cases s.links[k]? <;> simp [hj, hf]

theorem ofLink_append (hnew : view {} = []) (h : t.links = s.links ++ [({} : Link)]) (k : Nat) :
    t.ofLink view k = s.ofLink view k := by
  simp only [State.ofLink, h, List.getElem?_append, List.getElem?_singleton]
  split
  · rfl
  · next hlength =>
    rw [List.getElem?_eq_none (Nat.le_of_not_lt hlength)]
    split
    · exact hnew
    · rfl

variable (hcancel : ∀ l, view { l with cancelled := true } = view l)
include hcancel

theorem ofLink_cancelSlot (k : Nat) : s.cancelSlot.ofLink view k = s.ofLink view k := by
  unfold State.cancelSlot
  split
  · exact ofLink_updateLink view _ k hcancel
  · rfl

/-- What callers do to a connection is to queue something there, to cancel it, to claim it or to make
a new one. -/
theorem ofLink_of_touches {a : CallerAction} (hnew : view {} = [])
    (hclaim : ∀ l, view { l with claimed := true } = view l) (h : Touches s c a t.links) :
    (∃ j m, Queues c.request c.phase m ∧
      t.links = (s.updateLink j fun l => { l with queue := l.queue ++ [m] }).links) ∨
    ∀ k, t.ofLink view k = s.ofLink view k := by
  generalize hlinks : t.links = links at h
  cases h with
  | nothing => exact .inr (ofLink_of_links view hlinks)
  | connect => exact .inr (ofLink_append view hnew hlinks)
  | @queue j m queues => exact .inl ⟨j, m, queues, rfl⟩
  | @claim j =>
    exact .inr fun k => (ofLink_of_links view hlinks k).trans (ofLink_updateLink view j k hclaim)
  | shut =>
    exact .inr fun k => (ofLink_of_links view hlinks k).trans (ofLink_cancelSlot view hcancel k)

end

/-! ## Arrivals -/

theorem inbound_of_taken {a : CallerAction} (h : Taken u s i c a t es) (k : Nat) :
    t.inbound k = s.inbound k := by
  rcases ofLink_of_touches Link.inbound (fun _ => rfl) rfl (fun _ => rfl) h.touches with
    ⟨j, m, -, hlinks⟩ | kept
  · exact (ofLink_of_links Link.inbound hlinks k).trans (ofLink_updateLink Link.inbound j k fun _ => rfl)
  · exact kept k

theorem Sends.inbound {b : LinkAction} {l' : Link} (h : Sends k l b l' es) :
    l.reads b ++ l'.inbound = l.inbound := by
  cases h <;> rfl

theorem Receives.inbound {b : LinkAction} {l' : Link} {m? : Option Message}
    (h : Receives k l b l' m? es) : l.reads b ++ l'.inbound = l.inbound := by
  cases h with
  | read reading next | crash reading next | skip reading next | fault reading next =>
    simp [Link.reads, reading, next]
  | stop | cancel | clear | joinSender | hangUp => rfl

/-- A connection reads the first of what it has yet to read. -/
theorem inbound_of_linkStep {b : LinkAction} (hl : s.links[j]? = some l) (h : LinkStep s j l b t es)
    (k : Nat) : onLink k (reading s (.link j b)) ++ t.inbound k = s.inbound k := by
  obtain ⟨f, hlinks, half⟩ := h.links
  have own : l.reads b ++ (f l).inbound = l.inbound := by
    rcases half with ⟨_, half⟩ | ⟨_, _, half⟩
    · exact half.inbound
    · exact half.inbound
  rw [State.inbound, ofLink_of_links _ hlinks]
  simp only [reading, State.inbound, State.ofLink, State.updateLink, List.getElem?_modify, hl]
  by_cases hj : j = k
  · subst hj
    simp [hl, onLink, List.filterMap_map, Function.comp_def, own]
  · simp [hj, onLink, List.filterMap_map, Function.comp_def]

theorem links_start (u : Setup) (s : State) (r : Request) : (s.start u r).1.links = s.links := by
  unfold State.start
  repeat' split
  all_goals rfl

/-- What arrives on a connection is yet to be read, until it is read, in order. -/
theorem inbound_of_step {a : Action} (h : step u s a = some (t, es)) (k : Nat) :
    onLink k (reading s a) ++ t.inbound k = s.inbound k ++ onLink k (arriving s a) := by
  cases a with
  | link j a =>
    obtain ⟨l, hl, h⟩ := linkStep_of_step h
    rw [inbound_of_linkStep hl h k]
    exact (List.append_nil _).symm
  | arrive j r =>
    cases h
    simp only [reading, arriving, onLink, State.inbound, State.ofLink, State.updateLink,
      List.getElem?_modify]
    by_cases hj : j = k
    · subst hj
      by_cases hlt : j < s.links.length <;> simp [hlt]
    · by_cases hlt : j < s.links.length <;> simp [hj, hlt]
  | caller i a =>
    obtain ⟨c, -, taken⟩ := taken_of_step h
    simpa [reading, arriving, onLink] using inbound_of_taken taken k
  | discard =>
    cases h
    have hkeep : s.cancelSlot.inbound k = s.inbound k := ofLink_cancelSlot Link.inbound (fun _ => rfl) k
    simpa [reading, arriving, onLink] using hkeep
  | start r =>
    have hkeep : (s.start u r).1.inbound k = s.inbound k :=
      ofLink_of_links Link.inbound (links_start u s r) k
    rw [show t = _ from (congrArg Prod.fst (Option.some.inj h)).symm]
    simpa [reading, arriving, onLink] using hkeep
  | cancel _ | setHeaders _ | setCallback _ | pass _ =>
    cases h
    simp [reading, arriving, onLink, State.inbound, State.ofLink]

theorem link_delivery (k : Nat) (m : Message) : (s.delivery k m).link = k := by
  unfold State.delivery
  split <;> rfl

theorem message_delivery (k : Nat) (m : Message) : (s.delivery k m).message = m := by
  unfold State.delivery
  split <;> rfl

/-- A connection delivers the messages among what it reads. -/
theorem messages_of_step (s : State) (a : Action) (k : Nat) :
    (onLink k (reading s a)).filterMap Read.message? =
      ((delivering s a).filter fun d => d.link = k).map Delivery.message := by
  unfold delivering
  induction reading s a with
  | nil => rfl
  | cons e rest ih =>
    obtain ⟨k', r⟩ := e
    cases r with
    | message m =>
      by_cases hk : k' = k <;>
        simpa [onLink, link_delivery, message_delivery, hk] using ih
    | nothing | fault e => by_cases hk : k' = k <;> simpa [onLink, List.filterMap_cons, hk] using ih

/-- Each connection delivers the messages that arrive on it in their order, and the rest of them
is yet to be read. -/
theorem messages_arrived {headers : Headers} {as : List Action}
    (h : run u (State.fresh headers) as = some (t, es)) (k : Nat) :
    (onLink k (arrivals u (State.fresh headers) as)).filterMap Read.message? =
      ((deliveries u (State.fresh headers) as).filter fun d => d.link = k).map Delivery.message ++
        (t.inbound k).filterMap Read.message? := by
  refine Step.reach_induction (R := fun t as _ =>
    (onLink k (arrivals u (State.fresh headers) as)).filterMap Read.message? =
      ((deliveries u (State.fresh headers) as).filter fun d => d.link = k).map Delivery.message ++
        (t.inbound k).filterMap Read.message?) rfl ?_ h
  intro t v a as es fs hrun ih hstep
  have hinbound := congrArg (List.filterMap Read.message?) (inbound_of_step hstep k)
  rw [List.filterMap_append, List.filterMap_append, messages_of_step] at hinbound
  rw [arrivals_concat hrun, deliveries_concat hrun, onLink_append, List.filterMap_append,
    ih, List.append_assoc, ← hinbound, List.filter_append, List.map_append, List.append_assoc]


/-! ## Departures -/

theorem mem_outbound_of_link (hl : s.links[k]? = some l) (hm : m ∈ l.outbound) : m ∈ s.outbound k := by
  simpa [State.outbound, State.ofLink, hl] using hm

theorem mem_outbound_updateLink {f : Link → Link} (hm : m ∈ (s.updateLink j f).outbound k) :
    m ∈ s.outbound k ∨ ∃ l, j = k ∧ s.links[j]? = some l ∧ m ∈ (f l).outbound := by
  simp only [State.outbound, State.ofLink, State.updateLink, List.getElem?_modify] at hm
  cases hl : s.links[k]? with
  | none => simp [hl] at hm
  | some l =>
    by_cases hj : j = k
    · subst hj
      exact .inr ⟨l, rfl, hl, by simpa [hl] using hm⟩
    · exact .inl (by simpa [State.outbound, State.ofLink, hl, hj] using hm)

theorem Sends.outbound {b : LinkAction} {l' : Link} (h : Sends k l b l' es) (hm : m ∈ l'.outbound) :
    m ∈ l.outbound := by
  cases h with
  | take idle queued => simpa [Link.outbound, Sender.inHand, idle, queued] using hm
  | write | writeFault => exact List.mem_append_right _ hm
  | abort | quit => exact absurd hm List.not_mem_nil

theorem Receives.outbound {b : LinkAction} {l' : Link} {m? : Option Message}
    (h : Receives k l b l' m? es) : l'.outbound = l.outbound := by
  cases h <;> rfl

/-- A connection queues nothing. -/
theorem outbound_of_linkStep {b : LinkAction} (hl : s.links[j]? = some l)
    (h : LinkStep s j l b t es) (hm : m ∈ t.outbound k) : m ∈ s.outbound k := by
  obtain ⟨f, hlinks, half⟩ := h.links
  rw [State.outbound, ofLink_of_links _ hlinks] at hm
  rcases mem_outbound_updateLink hm with hm | ⟨l', rfl, hl', hm⟩
  · exact hm
  · obtain rfl := Option.some.inj (hl.symm.trans hl')
    refine mem_outbound_of_link hl ?_
    rcases half with ⟨_, half⟩ | ⟨_, _, half⟩
    · exact half.outbound hm
    · exact half.outbound ▸ hm

/-- What is yet to be written was so before, or some caller has just queued it. -/
theorem outbound_of_step {a : Action} (h : step u s a = some (t, es)) (hm : m ∈ t.outbound k) :
    m ∈ s.outbound k ∨ ∃ i r p, s.seat? i = some (r, p) ∧ Queues r p m := by
  have kept (h : t.outbound k = s.outbound k) :
      m ∈ s.outbound k ∨ ∃ i r p, s.seat? i = some (r, p) ∧ Queues r p m := .inl (h ▸ hm)
  cases a with
  | link j a =>
    obtain ⟨l, hl, h⟩ := linkStep_of_step h
    exact .inl (outbound_of_linkStep hl h hm)
  | caller i a =>
    obtain ⟨c, hc, taken⟩ := taken_of_step h
    rcases ofLink_of_touches Link.outbound (fun _ => rfl) rfl (fun _ => rfl) taken.touches with
      ⟨j, m', queues, hlinks⟩ | same
    · rw [State.outbound, ofLink_of_links _ hlinks] at hm
      rcases mem_outbound_updateLink hm with hm | ⟨l, rfl, hl, hm⟩
      · exact .inl hm
      · rw [Link.outbound, ← List.append_assoc, List.mem_append, List.mem_singleton] at hm
        rcases hm with hm | rfl
        · exact .inl (mem_outbound_of_link hl hm)
        · exact .inr ⟨i, c.request, c.phase, seat?_of_getElem? hc, queues⟩
    · exact kept (same k)
  | arrive j r =>
    cases h
    exact kept (ofLink_updateLink Link.outbound j k fun _ => rfl)
  | discard =>
    cases h
    exact kept (ofLink_cancelSlot Link.outbound (fun _ => rfl) k)
  | start r =>
    rw [show t = _ from (congrArg Prod.fst (Option.some.inj h)).symm] at kept
    exact kept (ofLink_of_links Link.outbound (links_start u s r) k)
  | cancel _ | setHeaders _ | setCallback _ | pass _ =>
    cases h
    exact .inl hm

theorem Turn.sent (ht : Turn u s t es ds rs) (hm : .sent k m ∈ es) : m ∈ s.outbound k := by
  cases ht with
  | aside _ _ _ _ sent => exact sent k m hm
  | advance _ _ _ _ _ _ quiet =>
    obtain ⟨_, h⟩ := quiet _ hm
    cases h
  | miss | pass =>
    obtain ⟨_, _, h⟩ := List.mem_map.mp hm
    cases h
  | _ => simp at hm

/-- What is written, or is yet to be, is the message of a caller or the request of a call under
the id for which the call is registered. -/
def Travels (s : State) (es : List Event) (m : Message) : Prop :=
  ∃ i r p, s.seat? i = some (r, p) ∧ (r = .send m ∨ ∃ m' headers wire,
    r = .call m' headers ∧ wires i es = [wire] ∧ m = m'.withId wire)

theorem Travels.turn (book : Book s es ds rs) {ds' : List Delivery} {rs' : List Request}
    (ht : Turn u s t es' ds' rs') (h : Travels s es m) : Travels t (es ++ es') m := by
  obtain ⟨i, r, q, hs, h⟩ := h
  obtain ⟨p, hp, -⟩ := ht.progress book.pending hs
  refine ⟨i, r, p, hp, h.imp_right ?_⟩
  rintro ⟨m', headers, wire, hr, hwires, hm⟩
  exact ⟨m', headers, wire, hr, book.wires_turn ht hp hwires, hm⟩

theorem Book.travels (book : Book s es ds rs) {r : Request} {p : Phase} (hs : s.seat? i = some (r, p))
    (h : Queues r p m) : Travels s es m := by
  refine ⟨i, r, p, hs, h.imp_right ?_⟩
  rintro ⟨m', headers, x, rfl, rfl, rfl⟩
  exact ⟨m', headers, x.wire, rfl, ((book.standing i _ _ hs).of_exchange rfl).1, rfl⟩

/-- What a client writes to its peers, and what is yet to be written, comes from its callers. -/
theorem travels_of_run {headers : Headers} {as : List Action}
    (h : run u (State.fresh headers) as = some (t, es)) (k : Nat) (m : Message) :
    m ∈ t.outbound k ∨ .sent k m ∈ es → Travels t es m := by
  refine Step.reach_induction (R := fun t _ es => m ∈ t.outbound k ∨ .sent k m ∈ es → Travels t es m)
    ?_ ?_ h
  · rintro (hm | hm) <;> cases hm
  intro t v a as es fs hrun ih hstep hm
  have book := book_of_run hrun
  have turn := turn_of_step hstep
  rcases hm with hm | hm
  · rcases outbound_of_step hstep hm with hm | ⟨i, r, p, hs, hqueues⟩
    · exact (ih (.inl hm)).turn book turn
    · exact (book.travels hs hqueues).turn book turn
  · rcases List.mem_append.mp hm with hm | hm
    · exact (ih (.inr hm)).turn book turn
    · exact (ih (.inl (turn.sent hm))).turn book turn

end Switchboard.Streaming
