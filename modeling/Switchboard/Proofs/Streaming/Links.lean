-- SUMMARY: How the connections of a streaming client go on.
import Switchboard.Proofs.Streaming.Traffic

/-!
# Connections

A connection that is cancelled stays cancelled, and neither of its halves ends before
that (`Link.Sound`). `ages_of_step` says that each step of a client lets every
connection go on so.
-/

namespace Switchboard.Streaming

/-- The receive half has cancelled its connection. -/
def Receiver.isDown : Receiver → Bool
  | .reading | .leaving _ | .crashed _ => false
  | _ => true

namespace Link

/-- A connection of which a half has ended, or clears up, is cancelled. -/
structure Sound (l : Link) : Prop where
  sender : l.sender = .ended → l.cancelled = true
  receiver : l.receiver.isDown = true → l.cancelled = true

/-- What a connection can become. -/
structure Ages (l l' : Link) : Prop where
  cancelled : l.cancelled = true → l'.cancelled = true
  sound : l.Sound → l'.Sound

theorem sound_new : Sound {} where
  sender h := nomatch h
  receiver h := nomatch h

variable {l l' l'' : Link}

theorem Ages.trans (h : l.Ages l') (h' : l'.Ages l'') : l.Ages l'' where
  cancelled hl := h'.cancelled (h.cancelled hl)
  sound hl := h'.sound (h.sound hl)

theorem ages_of_cancelled (h : l'.cancelled = true) : l.Ages l' where
  cancelled _ := h
  sound _ := ⟨fun _ => h, fun _ => h⟩

/-- A connection goes on while neither half ends. -/
theorem ages_of_halves (cancelled : l'.cancelled = l.cancelled)
    (sender : l'.sender = .ended → l.sender = .ended)
    (receiver : l'.receiver.isDown = true → l.receiver.isDown = true) : l.Ages l' where
  cancelled hl := cancelled.trans hl
  sound hl := ⟨fun h => cancelled.trans (hl.sender (sender h)),
    fun h => cancelled.trans (hl.receiver (receiver h))⟩

end Link

/-- Each connection has gone on, and those that are new are sound. -/
structure State.Ages (s t : State) : Prop where
  old : ∀ (k : Nat) (l : Link), s.links[k]? = some l → ∃ l' : Link, t.links[k]? = some l' ∧ l.Ages l'
  new : ∀ (k : Nat) (l' : Link), s.links[k]? = none → t.links[k]? = some l' → l'.Sound

variable {u : Setup} {s t v : State} {i k : Nat} {c : Caller} {l : Link} {es : List Event}

theorem State.Ages.trans (h : s.Ages t) (h' : t.Ages v) : s.Ages v where
  old k l hl := by
    obtain ⟨l', hl', ages⟩ := h.old k l hl
    obtain ⟨l'', hl'', ages'⟩ := h'.old k l' hl'
    exact ⟨l'', hl'', ages.trans ages'⟩
  new k l'' hs hv := by
    cases ht : t.links[k]? with
    | none => exact h'.new k l'' ht hv
    | some l' =>
      obtain ⟨_, hl'', ages⟩ := h'.old k l' ht
      rw [hv] at hl''
      cases hl''
      exact ages.sound (h.new k l' hs ht)

theorem ages_of_links (h : t.links = s.links) : s.Ages t where
  old _ l hl := ⟨l, h ▸ hl, Link.ages_of_halves rfl id id⟩
  new _ _ hs ht := by
    rw [h, hs] at ht
    cases ht

theorem ages_updateLink {f : Link → Link} (hf : ∀ l, s.links[k]? = some l → l.Ages (f l)) :
    s.Ages (s.updateLink k f) where
  old j l hl := by
    simp only [State.updateLink, List.getElem?_modify, hl]
    by_cases hj : k = j
    · subst hj
      exact ⟨f l, by simp, hf l hl⟩
    · exact ⟨l, by simp [hj], Link.ages_of_halves rfl id id⟩
  new j l' hs ht := by
    simp only [State.updateLink, List.getElem?_modify, hs] at ht
    simp at ht

theorem ages_append (h : t.links = s.links ++ [({} : Link)]) : s.Ages t where
  old j l hl := by
    refine ⟨l, ?_, Link.ages_of_halves rfl id id⟩
    obtain ⟨hlt, -⟩ := List.getElem?_eq_some_iff.mp hl
    rw [h, List.getElem?_append_left hlt, hl]
  new j l' hs ht := by
    have hle := List.getElem?_eq_none_iff.mp hs
    rw [h, List.getElem?_append_right hle, List.getElem?_singleton] at ht
    split at ht
    · cases ht
      exact Link.sound_new
    · cases ht

theorem ages_cancelSlot (s : State) : s.Ages s.cancelSlot := by
  unfold State.cancelSlot
  split
  · exact ages_updateLink fun _ _ => Link.ages_of_cancelled rfl
  · exact ages_of_links rfl

theorem ages_of_touches {a : CallerAction} (h : Touches s c a t.links) : s.Ages t := by
  generalize hlinks : t.links = links at h
  cases h with
  | nothing => exact ages_of_links hlinks
  | connect => exact ages_append hlinks
  | @queue k m =>
    have hqueue : s.Ages (s.updateLink k fun l => { l with queue := l.queue ++ [m] }) :=
      ages_updateLink fun _ _ => Link.ages_of_halves rfl id id
    exact hqueue.trans (ages_of_links hlinks)
  | @claim k =>
    have hclaim : s.Ages (s.updateLink k fun l => { l with claimed := true }) :=
      ages_updateLink fun _ _ => Link.ages_of_halves rfl id id
    exact hclaim.trans (ages_of_links hlinks)
  | shut => exact (ages_cancelSlot s).trans (ages_of_links hlinks)

theorem Sends.ages {b : LinkAction} {l' : Link} (h : Sends k l b l' es) : l.Ages l' := by
  cases h with
  | take | write | writeFault => exact Link.ages_of_halves rfl (nomatch ·) id
  | abort => exact Link.ages_of_cancelled rfl
  | quit _ down => exact Link.ages_of_cancelled down

theorem Receives.ages {b : LinkAction} {l' : Link} {m? : Option Message}
    (h : Receives k l b l' m? es) : l.Ages l' := by
  cases h with
  | read | skip => exact Link.ages_of_halves rfl id id
  | crash | fault | stop => exact Link.ages_of_halves rfl id (nomatch ·)
  | cancel => exact Link.ages_of_cancelled rfl
  | clear at' | joinSender at' | hangUp at' =>
    exact Link.ages_of_halves rfl id fun _ => by rw [at']; rfl

theorem ages_of_linkStep {b : LinkAction} (hl : s.links[k]? = some l) (h : LinkStep s k l b t es) :
    s.Ages t := by
  obtain ⟨f, hlinks, half⟩ := h.links
  have own : l.Ages (f l) := by
    rcases half with ⟨_, half⟩ | ⟨_, _, half⟩
    · exact half.ages
    · exact half.ages
  have ages : s.Ages (s.updateLink k f) :=
    ages_updateLink fun l' hl' => Option.some.inj (hl.symm.trans hl') ▸ own
  exact ages.trans (ages_of_links hlinks)

theorem ages_of_step {a : Action} (h : step u s a = some (t, es)) : s.Ages t := by
  cases a with
  | start r =>
    rw [show t = _ from (congrArg Prod.fst (Option.some.inj h)).symm]
    exact ages_of_links (links_start u s r)
  | arrive k r =>
    cases h
    exact ages_updateLink fun _ _ => Link.ages_of_halves rfl id id
  | discard =>
    cases h
    exact ages_cancelSlot s
  | cancel _ | setHeaders _ | setCallback _ | pass _ =>
    cases h
    exact ages_of_links rfl
  | caller i a =>
    obtain ⟨c, -, taken⟩ := taken_of_step h
    exact ages_of_touches taken.touches
  | link k a =>
    obtain ⟨l, hl, h⟩ := linkStep_of_step h
    exact ages_of_linkStep hl h

/-! ## Runs -/

/-- A connection that there was and that is up has been up. -/
theorem State.Ages.isUp (h : s.Ages t) (hk : k < s.links.length) (hup : t.isUp k = true) :
    s.isUp k = true := by
  obtain ⟨l', ht, ages⟩ := h.old k _ (List.getElem?_eq_getElem hk)
  simp only [State.isUp, ht, Option.any_some, Bool.not_eq_true'] at hup
  simp only [State.isUp, List.getElem?_eq_getElem hk, Option.any_some, Bool.not_eq_true']
  exact Bool.eq_false_iff.mpr fun hc => Bool.eq_false_iff.mp hup (ages.cancelled hc)

theorem State.Ages.lt_length (h : s.Ages t) (hk : k < s.links.length) : k < t.links.length := by
  obtain ⟨l', ht, -⟩ := h.old k _ (List.getElem?_eq_getElem hk)
  exact (List.getElem?_eq_some_iff.mp ht).1

def State.LinksSound (s : State) : Prop := ∀ (k : Nat) (l : Link), s.links[k]? = some l → l.Sound

theorem State.LinksSound.step {a : Action} (h : s.LinksSound) (hs : step u s a = some (t, es)) :
    t.LinksSound := by
  intro k l' ht
  have ages := ages_of_step hs
  cases hl : s.links[k]? with
  | none => exact ages.new k l' hl ht
  | some l =>
    obtain ⟨_, ht', hages⟩ := ages.old k l hl
    rw [ht] at ht'
    cases ht'
    exact hages.sound (h k l hl)

theorem linksSound_of_run {headers : Headers} {as : List Action}
    (h : run u (State.fresh headers) as = some (t, es)) : t.LinksSound := by
  have hfresh : (State.fresh headers).LinksSound := by
    intro k l hl
    simp [State.fresh] at hl
  exact Step.run_keeps hfresh (fun h hs => h.step hs) h

end Switchboard.Streaming
