-- SUMMARY: What the steps of callers and of connections are.
import Switchboard.Client.Streaming

/-!
# Steps

`stepCaller` and `stepLink` say what a caller, or a half of a connection, makes of a client
if it can go on. `CallerStep` lists what a caller can do: what it finds, what it makes of the
client, where it goes itself and what this shows. `Sends` and `Receives` are such lists for
the two halves of a connection, and `LinkStep` says what they mean for the client. What else
is said of steps is read off these lists.
-/

namespace Switchboard.Streaming

variable {u : Setup} {s t v : State} {i k : Nat} {c : Caller} {l l' : Link} {a : CallerAction}
  {b : LinkAction} {es fs : List Event}

/-! ## Callers -/

/-- Where a caller goes that has got a connection. -/
def Request.onward (link : Nat) : Request → Phase
  | .call .. => .registering link
  | .send _ => .sending link
  | _ => .finished .done

/-- What is shown when a caller gets there: nothing, unless it comes out. -/
def Phase.shown (i : Nat) : Phase → List Event
  | .finished o => [.finished i o]
  | _ => []

theorem connected_eq (s : State) (i link : Nat) (r : Request) :
    connected s i link r = (s.moveTo i (r.onward link), (r.onward link).shown i) := by
  cases r <;> rfl

/-- The call can expect no answer. -/
def State.Forsakes (s : State) (i : Nat) (x : Exchange) : Prop :=
  s.isUp x.link = false ∨ (∃ l, s.links[x.link]? = some l ∧ l.sender = .ended) ∨
    x.handed = none ∧ s.pending.find? x.wire.key ≠ some i

/-- Why a call fails: no answer can come, none is wanted any more, or time is up. -/
inductive Fails (s : State) (i : Nat) (c : Caller) (x : Exchange) : ClientError → Prop
  | closed (forsakes : s.Forsakes i x) : Fails s i c x .transportClosed
  | cancelled (unwanted : c.cancelled = true) : Fails s i c x .cancelled
  | timedOut (late : x.deadline ≤ s.now) : Fails s i c x .timedOut

/-- A caller that takes this action may find that it has failed. -/
def CallerAction.mayFail : CallerAction → Bool
  | .enqueue | .disconnect | .giveUp | .expire | .settle => true
  | _ => false

/-- A message can be put into the queue of a connection. -/
structure Link.Accepts (u : Setup) (l : Link) : Prop where
  running : l.sender ≠ .ended
  room : l.queue.length < u.capacity

/-- What a caller can do: what becomes of the client but for the caller, where the caller goes, and
what is shown apart from its coming out. -/
inductive CallerStep (u : Setup) (s : State) (i : Nat) (c : Caller) :
    CallerAction → State → Phase → List Event → Prop
  | reuse {link} (may : mayConnect s c = true) (usable : s.usable? = some link) :
      CallerStep u s i c .reuse s (c.request.onward link) []
  | dial (may : mayConnect s c = true) (vacant : s.usable? = none) :
      CallerStep u s i c .dial { s with dialing := some i }
        (.dialing (s.now + u.config.timeouts.connect))
        [.dialed (c.request.headers.insertAll s.extraHeaders)]
  | noTransport {e} (may : mayConnect s c = true) (vacant : s.usable? = none) :
      CallerStep u s i c (.noTransport e) s (.finished (.failed e)) []
  | established {deadline} (phase : c.phase = .dialing deadline) :
      CallerStep u s i c .established
        { s with
          dialing := none, links := s.links ++ [{}], slot := some s.links.length,
          live := some s.links.length }
        (c.request.onward s.links.length) []
  | refused {deadline e} (phase : c.phase = .dialing deadline) :
      CallerStep u s i c (.refused e) { s with dialing := none } (.finished (.failed e)) []
  | lapse {deadline} (phase : c.phase = .dialing deadline) (late : deadline ≤ s.now) :
      CallerStep u s i c .expire { s with dialing := none }
        (.finished (.failed (.connectFailed ("timed out connecting to " ++ u.url.text)))) []
  | register {link} (phase : c.phase = .registering link) :
      CallerStep u s i c .register
        { s with
          drawn := s.drawn + 1
          pending := s.pending.insert (RequestId.text (u.freshId s.drawn)).key i }
        (.enqueuing { link, wire := .text (u.freshId s.drawn), deadline := s.now + u.config.timeouts.request })
        [.registered i (.text (u.freshId s.drawn))]
  | queue {x m headers} {l : Link} (phase : c.phase = .enqueuing x) (request : c.request = .call m headers)
      (there : s.links[x.link]? = some l) (accepts : l.Accepts u) :
      CallerStep u s i c .enqueue
        (s.updateLink x.link fun l => { l with queue := l.queue ++ [m.withId x.wire] }) (.awaiting x) []
  | send {k : Nat} {l : Link} {m} (phase : c.phase = .sending k) (request : c.request = .send m)
      (there : s.links[k]? = some l) (accepts : l.Accepts u) :
      CallerStep u s i c .enqueue (s.updateLink k fun l => { l with queue := l.queue ++ [m] })
        (.finished .done) []
  | unsent {a : CallerAction} {k : Nat} (action : a.mayFail = true) (phase : c.phase = .sending k)
      (down : s.isUp k = false ∨ ∃ l, s.links[k]? = some l ∧ l.sender = .ended) :
      CallerStep u s i c a s (.finished (.failed .transportClosed)) []
  /-- An answer that was handed over is not passed over, once the request is queued. -/
  | fail {a : CallerAction} {x e} (action : a.mayFail = true)
      (phase : c.phase = .enqueuing x ∨ c.phase = .awaiting x ∧ x.handed = none)
      (cause : Fails s i c x e) : CallerStep u s i c a s (.withdrawing x e) []
  | answer {x m} (phase : c.phase = .awaiting x) (handed : x.handed = some m) :
      CallerStep u s i c .settle s (.finished (.answered m)) []
  | withdraw {x e} (phase : c.phase = .withdrawing x e) :
      CallerStep u s i c .withdraw { s with pending := s.pending.erase x.wire.key }
        (.finished (.failed e)) []
  | claim {k : Nat} {l : Link} (phase : c.phase = .waiting) (request : c.request = .wait) (free : s.dialing = none)
      (slot : s.slot = some k) (there : s.links[k]? = some l) (unclaimed : l.claimed = false) :
      CallerStep u s i c .claim (s.updateLink k fun l => { l with claimed := true }) (.joining k) []
  | vacant (phase : c.phase = .waiting) (request : c.request = .wait) (free : s.dialing = none)
      (taken : ∀ k l, s.slot = some k → s.links[k]? = some l → l.claimed = true) :
      CallerStep u s i c .claim s (.finished (.failed .notConnected)) []
  | join {k : Nat} {l : Link} {o} (phase : c.phase = .joining k) (there : s.links[k]? = some l)
      (reports : l.receiver.report? = some o) : CallerStep u s i c .join s (.finished o) []
  | shut (phase : c.phase = .waiting) (request : c.request = .close) (free : s.dialing = none) :
      CallerStep u s i c .shut s.cancelSlot (.finished .done) []

/-- The caller has taken such a step: it has moved, and if it has come out, this is shown. -/
def Taken (u : Setup) (s : State) (i : Nat) (c : Caller) (a : CallerAction) (t : State)
    (es : List Event) : Prop :=
  ∃ v p fs, CallerStep u s i c a v p fs ∧ t = v.moveTo i p ∧ es = fs ++ p.shown i

theorem CallerStep.taken {p : Phase} (h : CallerStep u s i c a v p fs) :
    Taken u s i c a (v.moveTo i p) (fs ++ p.shown i) :=
  ⟨v, p, fs, h, rfl, rfl⟩

/-- Only connections are cancelled. -/
theorem cancelSlot_eq (s : State) : s.cancelSlot = { s with links := s.cancelSlot.links } := by
  unfold State.cancelSlot
  split <;> rfl

@[simp] theorem callers_cancelSlot (s : State) : s.cancelSlot.callers = s.callers := by rw [cancelSlot_eq]

@[simp] theorem pending_cancelSlot (s : State) : s.cancelSlot.pending = s.pending := by rw [cancelSlot_eq]

@[simp] theorem drawn_cancelSlot (s : State) : s.cancelSlot.drawn = s.drawn := by rw [cancelSlot_eq]

theorem waits_of_may {r : Request}
    (h : (c.phase = .waiting && s.dialing.isNone && c.request = r) = true) :
    c.phase = .waiting ∧ s.dialing = none ∧ c.request = r := by
  simpa [and_assoc] using h

theorem enqueue_cases {m : Message} {r : Except ClientError State} (h : enqueue u s k m = some r) :
    ∃ l, s.links[k]? = some l ∧
      (r = .error .transportClosed ∧ l.sender = .ended ∨ l.Accepts u ∧
        r = .ok (s.updateLink k fun l => { l with queue := l.queue ++ [m] })) := by
  unfold enqueue at h
  split at h
  · cases h
  · next l hl =>
    refine ⟨l, hl, ?_⟩
    split at h
    · next ended => exact .inl ⟨(Option.some.inj h).symm, ended⟩
    · next running =>
      split at h
      · next room => exact .inr ⟨⟨running, room⟩, (Option.some.inj h).symm⟩
      · cases h

theorem settled_cases {x : Exchange} {r : Except ClientError Message} (h : settled? s i c x = some r) :
    (∃ m, x.handed = some m ∧ r = .ok m) ∨ x.handed = none ∧ ∃ e, r = .error e ∧ Fails s i c x e := by
  unfold settled? at h
  split at h
  · next m handed => exact .inl ⟨m, handed, (Option.some.inj h).symm⟩
  · next unanswered =>
    refine .inr ⟨unanswered, ?_⟩
    split at h
    · next gone => exact ⟨_, (Option.some.inj h).symm, .closed (.inr (.inr ⟨unanswered, gone⟩))⟩
    · split at h
      · next unwanted => exact ⟨_, (Option.some.inj h).symm, .cancelled unwanted⟩
      · split at h
        · next down => exact ⟨_, (Option.some.inj h).symm, .closed (.inl (by simpa using down))⟩
        · split at h
          · next late => exact ⟨_, (Option.some.inj h).symm, .timedOut late⟩
          · cases h

/-! ### One action after the other -/

theorem taken_reuse (h : stepCaller u s i c .reuse = some (t, es)) : Taken u s i c .reuse t es := by
  simp only [stepCaller] at h
  split at h
  · next link usable =>
    split at h
    · next may =>
      rw [connected_eq] at h
      cases h
      exact (CallerStep.reuse may usable).taken
    · cases h
  · cases h

theorem taken_established (h : stepCaller u s i c .established = some (t, es)) :
    Taken u s i c .established t es := by
  simp only [stepCaller] at h
  split at h
  · next deadline phase =>
    rw [connected_eq] at h
    cases h
    exact (CallerStep.established phase).taken
  · cases h

theorem taken_enqueue (h : stepCaller u s i c .enqueue = some (t, es)) :
    Taken u s i c .enqueue t es := by
  simp only [stepCaller] at h
  split at h
  · next x m headers phase request =>
    obtain ⟨r, hr, h⟩ := Option.map_eq_some_iff.mp h
    obtain ⟨l, there, ⟨rfl, ended⟩ | ⟨accepts, rfl⟩⟩ := enqueue_cases hr <;> cases h
    · exact (CallerStep.fail rfl (.inl phase) (.closed (.inr (.inl ⟨l, there, ended⟩)))).taken
    · exact (CallerStep.queue phase request there accepts).taken
  · next k m phase request =>
    obtain ⟨r, hr, h⟩ := Option.map_eq_some_iff.mp h
    obtain ⟨l, there, ⟨rfl, ended⟩ | ⟨accepts, rfl⟩⟩ := enqueue_cases hr <;> cases h
    · exact (CallerStep.unsent rfl phase (.inr ⟨l, there, ended⟩)).taken
    · exact (CallerStep.send phase request there accepts).taken
  · cases h

theorem taken_disconnect (h : stepCaller u s i c .disconnect = some (t, es)) :
    Taken u s i c .disconnect t es := by
  simp only [stepCaller] at h
  split at h
  · next x phase =>
    split at h
    · cases h
    · next down =>
      cases h
      exact (CallerStep.fail rfl (.inl phase) (.closed (.inl (Bool.eq_false_iff.mpr down)))).taken
  · next k phase =>
    split at h
    · cases h
    · next down =>
      cases h
      exact (CallerStep.unsent rfl phase (.inl (Bool.eq_false_iff.mpr down))).taken
  · cases h

theorem taken_expire (h : stepCaller u s i c .expire = some (t, es)) : Taken u s i c .expire t es := by
  simp only [stepCaller] at h
  split at h
  · next deadline phase =>
    split at h
    · next late =>
      cases h
      exact (CallerStep.lapse phase late).taken
    · cases h
  · next x m headers phase request =>
    split at h
    · next late =>
      simp only [Bool.and_eq_true, decide_eq_true_eq] at late
      cases h
      exact (CallerStep.fail rfl (.inl phase) (.timedOut late.1.1.1)).taken
    · cases h
  · cases h

theorem taken_settle (h : stepCaller u s i c .settle = some (t, es)) : Taken u s i c .settle t es := by
  simp only [stepCaller] at h
  split at h
  · next x phase =>
    obtain ⟨r, hr, h⟩ := Option.map_eq_some_iff.mp h
    obtain ⟨m, handed, rfl⟩ | ⟨unanswered, e, rfl, cause⟩ := settled_cases hr <;> cases h
    · exact (CallerStep.answer phase handed).taken
    · exact (CallerStep.fail rfl (.inr ⟨phase, unanswered⟩) cause).taken
  · cases h

theorem taken_claim (h : stepCaller u s i c .claim = some (t, es)) : Taken u s i c .claim t es := by
  simp only [stepCaller] at h
  split at h
  · next may =>
    obtain ⟨phase, free, request⟩ := waits_of_may may
    split at h
    · next k hk =>
      cases h
      obtain ⟨slot, unclaimed⟩ := Option.filter_eq_some_iff.mp hk
      obtain ⟨l, there, unclaimed⟩ := (Option.any_eq_true _ _).mp unclaimed
      exact (CallerStep.claim phase request free slot there (by simpa using unclaimed)).taken
    · next hnone =>
      cases h
      refine (CallerStep.vacant phase request free fun k l slot there => ?_).taken
      have taken := Option.filter_eq_none_iff.mp hnone k slot
      simpa [there] using taken
  · cases h

theorem taken_join (h : stepCaller u s i c .join = some (t, es)) : Taken u s i c .join t es := by
  simp only [stepCaller] at h
  split at h
  · next k phase =>
    obtain ⟨o, reports, h⟩ := Option.map_eq_some_iff.mp h
    obtain ⟨l, there, reports⟩ := Option.bind_eq_some_iff.mp reports
    cases h
    exact (CallerStep.join phase there reports).taken
  · cases h

theorem taken_of_stepCaller (h : stepCaller u s i c a = some (t, es)) : Taken u s i c a t es := by
  cases a with
  | reuse => exact taken_reuse h
  | established => exact taken_established h
  | enqueue => exact taken_enqueue h
  | disconnect => exact taken_disconnect h
  | expire => exact taken_expire h
  | settle => exact taken_settle h
  | claim => exact taken_claim h
  | join => exact taken_join h
  | dial | noTransport e =>
    simp only [stepCaller] at h
    split at h
    · next may =>
      rw [Bool.and_eq_true, Option.isNone_iff_eq_none] at may
      cases h
      first
        | exact (CallerStep.dial may.1 may.2).taken
        | exact (CallerStep.noTransport may.1 may.2).taken
    · cases h
  | refused e =>
    simp only [stepCaller] at h
    split at h
    · next deadline phase =>
      cases h
      exact (CallerStep.refused phase).taken
    · cases h
  | register =>
    simp only [stepCaller] at h
    split at h
    · next link phase =>
      cases h
      exact (CallerStep.register phase).taken
    · cases h
  | giveUp =>
    simp only [stepCaller] at h
    split at h
    · next x phase =>
      split at h
      · next unwanted =>
        cases h
        exact (CallerStep.fail rfl (.inl phase) (.cancelled unwanted)).taken
      · cases h
    · cases h
  | withdraw =>
    simp only [stepCaller] at h
    split at h
    · next x e phase =>
      cases h
      exact (CallerStep.withdraw phase).taken
    · cases h
  | shut =>
    simp only [stepCaller] at h
    split at h
    · next may =>
      obtain ⟨phase, free, request⟩ := waits_of_may may
      cases h
      exact (CallerStep.shut phase request free).taken
    · cases h

theorem taken_of_step (h : step u s (.caller i a) = some (t, es)) :
    ∃ c, s.callers[i]? = some c ∧ Taken u s i c a t es := by
  obtain ⟨c, hc, h⟩ := Option.bind_eq_some_iff.mp h
  exact ⟨c, hc, taken_of_stepCaller h⟩

/-! ### What a caller is to others -/

/-- What a caller queues if it takes this turn: its message, or its request under its id on the
wire. -/
def Queues (r : Request) (p : Phase) (m : Message) : Prop :=
  r = .send m ∨ ∃ m' headers x, r = .call m' headers ∧ p = .enqueuing x ∧ m = m'.withId x.wire

/-- What a caller makes of the connections. -/
inductive Touches (s : State) (c : Caller) : CallerAction → List Link → Prop
  | nothing {a : CallerAction} : Touches s c a s.links
  | connect : Touches s c .established (s.links ++ [({} : Link)])
  | queue {k : Nat} {m} (queues : Queues c.request c.phase m) :
      Touches s c .enqueue (s.updateLink k fun l => { l with queue := l.queue ++ [m] }).links
  | claim {k : Nat} : Touches s c .claim (s.updateLink k fun l => { l with claimed := true }).links
  | shut : Touches s c .shut s.cancelSlot.links

theorem CallerStep.callers {p : Phase} (h : CallerStep u s i c a v p fs) : v.callers = s.callers := by
  cases h <;> simp [State.updateLink]

theorem Taken.touches (h : Taken u s i c a t es) : Touches s c a t.links := by
  obtain ⟨v, p, fs, h, rfl, -⟩ := h
  cases h with
  | established => exact .connect
  | queue phase request => exact .queue (.inr ⟨_, _, _, request, phase, rfl⟩)
  | send _ request => exact .queue (.inl request)
  | claim => exact .claim
  | shut => exact .shut
  | _ => exact .nothing

/-- The event is about a caller, or about a dial. -/
def Event.isOf (i : Nat) : Event → Bool
  | .dialed _ => true
  | .registered j _ | .finished j _ => j = i
  | _ => false

/-- A caller's step shows nothing of others. -/
theorem Taken.isOf (h : Taken u s i c a t es) : ∀ e ∈ es, e.isOf i = true := by
  obtain ⟨v, p, fs, h, -, rfl⟩ := h
  have own : ∀ e ∈ fs, e.isOf i = true := by cases h <;> simp [Event.isOf]
  intro e he
  rcases List.mem_append.mp he with he | he
  · exact own e he
  · cases p with
    | finished o =>
      cases List.mem_singleton.mp he
      simp [Event.isOf]
    | _ => cases he

/-! ## Connections -/

/-- What the send half of a connection makes of it, and what this shows. -/
inductive Sends (k : Nat) (l : Link) : LinkAction → Link → List Event → Prop
  | take {m queue} (idle : l.sender = .idle) (queued : l.queue = m :: queue) :
      Sends k l .take { l with sender := .writing m, queue } []
  | write {m} (writing : l.sender = .writing m) : Sends k l .write { l with sender := .idle } [.sent k m]
  | writeFault {m e} (writing : l.sender = .writing m) :
      Sends k l (.writeFault e) { l with sender := .failing, failure := l.failure.or (some e) } []
  | abort (failing : l.sender = .failing) :
      Sends k l .abort { l with sender := .ended, queue := [], cancelled := true } []
  | quit (idle : l.sender = .idle) (down : l.cancelled = true) :
      Sends k l .quit { l with sender := .ended, queue := [] } []

/-- What the receive half of a connection makes of it, the message that it reads, and what is shown
apart from what becomes of this message. -/
inductive Receives (k : Nat) (l : Link) : LinkAction → Link → Option Message → List Event → Prop
  | read {m inbound} (reading : l.receiver = .reading) (next : l.inbound = .message m :: inbound) :
      Receives k l .receive { l with inbound } (some m) []
  | crash {text m inbound} (reading : l.receiver = .reading) (next : l.inbound = .message m :: inbound) :
      Receives k l (.crash text) { l with inbound, receiver := .crashed text } (some m) []
  | skip {inbound} (reading : l.receiver = .reading) (next : l.inbound = .nothing :: inbound) :
      Receives k l .receive { l with inbound } none []
  | fault {e inbound} (reading : l.receiver = .reading) (next : l.inbound = .fault e :: inbound) :
      Receives k l .receive { l with inbound, receiver := .leaving (some e) } none []
  | stop (reading : l.receiver = .reading) (down : l.cancelled = true) :
      Receives k l .stop { l with receiver := .leaving none } none []
  | cancel {e} (leaving : l.receiver = .leaving e) :
      Receives k l .cancel { l with receiver := .clearing e, cancelled := true } none []
  | clear {e} (clearing : l.receiver = .clearing e) :
      Receives k l .clear { l with receiver := .joining e } none []
  | joinSender {e} (joining : l.receiver = .joining e) (ended : l.sender = .ended) :
      Receives k l .joinSender { l with receiver := .closing e } none []
  | hangUp {e} (closing : l.receiver = .closing e) :
      Receives k l .hangUp { l with receiver := .ended (l.failure.or e) } none [.closed k]

/-- What a half of a connection makes of the client. The rest of the client is touched by a teardown,
which empties the pending table, and by a message that is delivered. -/
inductive LinkStep (s : State) (k : Nat) (l : Link) : LinkAction → State → List Event → Prop
  | sends {b : LinkAction} {es : List Event} {f l'} (own : f l = l') (half : Sends k l b l' es) :
      LinkStep s k l b (s.updateLink k f) es
  | receives {b : LinkAction} {es : List Event} {f l'} (own : f l = l') (half : Receives k l b l' none es)
      (keeps : b ≠ .clear) : LinkStep s k l b (s.updateLink k f) es
  | clears {f l'} (own : f l = l') (half : Receives k l .clear l' none []) :
      LinkStep s k l .clear ({ s with pending := [] }.updateLink k f) []
  | delivers {b : LinkAction} {t : State} {es : List Event} {f l' m} (own : f l = l')
      (half : Receives k l b l' (some m) []) (heard : ∀ text, b = .crash text → (s.deliver m).2 ≠ [])
      (delivered : (s.updateLink k f).deliver m = (t, es)) : LinkStep s k l b t es

theorem links_deliver (s : State) (m : Message) : (s.deliver m).1.links = s.links := by
  unfold State.deliver
  split
  · rfl
  · dsimp only
    split
    · rfl
    · split <;> rfl

/-- A step of a half changes its own connection, and no other. -/
theorem LinkStep.links (h : LinkStep s k l b t es) : ∃ f, t.links = (s.updateLink k f).links ∧
    ((∃ fs, Sends k l b (f l) fs) ∨ ∃ m fs, Receives k l b (f l) m fs) := by
  cases h with
  | sends own half => exact ⟨_, rfl, .inl ⟨_, own ▸ half⟩⟩
  | receives own half | clears own half => exact ⟨_, rfl, .inr ⟨_, _, own ▸ half⟩⟩
  | @delivers _ _ _ f _ m own half _ delivered =>
    have kept := links_deliver (s.updateLink k f) m
    rw [delivered] at kept
    exact ⟨f, kept, .inr ⟨_, _, own ▸ half⟩⟩

theorem linkStep_of_stepLink (h : stepLink s k l b = some (t, es)) : LinkStep s k l b t es := by
  cases b with
  | take =>
    simp only [stepLink] at h
    split at h <;> cases h
    next idle queued => exact .sends rfl (.take idle queued)
  | write =>
    simp only [stepLink] at h
    split at h <;> cases h
    next writing => exact .sends rfl (.write writing)
  | writeFault e =>
    simp only [stepLink] at h
    split at h <;> cases h
    next writing => exact .sends rfl (.writeFault writing)
  | abort =>
    simp only [stepLink] at h
    split at h <;> cases h
    next failing => exact .sends rfl (.abort failing)
  | quit =>
    simp only [stepLink] at h
    split at h <;> cases h
    next idle down => exact .sends rfl (.quit idle down)
  | receive =>
    simp only [stepLink] at h
    split at h
    · next reading next =>
      exact .delivers rfl (.read reading next) (fun _ h => nomatch h) (Option.some.inj h)
    · next reading next =>
      cases h
      exact .receives rfl (.skip reading next) (by simp)
    · next reading next =>
      cases h
      exact .receives rfl (.fault reading next) (by simp)
    · cases h
  | crash text =>
    simp only [stepLink] at h
    split at h
    · next m inbound reading next =>
      split at h
      · cases h
      · next heard =>
        refine .delivers (f := fun l => { l with inbound, receiver := .crashed text }) rfl
          (.crash reading next) (fun _ _ quiet => heard ?_) (Option.some.inj h)
        rw [quiet]
        rfl
    · cases h
  | stop =>
    simp only [stepLink] at h
    split at h <;> cases h
    next reading down => exact .receives rfl (.stop reading down) (by simp)
  | cancel =>
    simp only [stepLink] at h
    split at h <;> cases h
    next leaving => exact .receives rfl (.cancel leaving) (by simp)
  | clear =>
    simp only [stepLink] at h
    split at h <;> cases h
    next clearing => exact .clears rfl (.clear clearing)
  | joinSender =>
    simp only [stepLink] at h
    split at h <;> cases h
    next joining ended => exact .receives rfl (.joinSender joining ended) (by simp)
  | hangUp =>
    simp only [stepLink] at h
    split at h <;> cases h
    next closing => exact .receives rfl (.hangUp closing) (by simp)

theorem linkStep_of_step (h : step u s (.link k b) = some (t, es)) :
    ∃ l, s.links[k]? = some l ∧ LinkStep s k l b t es := by
  obtain ⟨l, hl, h⟩ := Option.bind_eq_some_iff.mp h
  exact ⟨l, hl, linkStep_of_stepLink h⟩

end Switchboard.Streaming
