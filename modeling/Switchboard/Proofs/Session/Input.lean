-- SUMMARY: What a session finds in its input: messages, and the first fault.
import Switchboard.Proofs.Frame.Holding
import Switchboard.Proofs.Session.Ending

/-!
# Input

`Kind.found` says what a session finds in what has been delivered to it: a message or
a fault for each frame or packet, where an input that breaks off is a fault as well.
`Inbound.held` is what the input of a session in progress still holds when certain
actions are to come. Each arrival is the first of it, whatever those actions are
(`Inbound.meets_next`), and a session that is opened holds all that there is to find
(`Kind.held_inbound`).
-/

namespace Switchboard.Session

/-! ## What has been delivered -/

/-- What has been delivered after an action, and how it ended. Nothing counts after the end. -/
def delivered (i : List Octets × BodyEnd) : Action → List Octets × BodyEnd
  | .arrive s => if i.2 = .pending then (i.1 ++ [s], .pending) else i
  | .endInput ending => if i.2 = .pending then (i.1, ending) else i
  | _ => i

/-- What is asked of a stream that ends like this. -/
def extent : BodyEnd → Extent
  | .complete => .whole
  | _ => .soFar

/-- An input that breaks off has a fault at its end. -/
def fault : BodyEnd → List (Option Message)
  | .broken => [none]
  | _ => []

/-- What a session of this kind finds in what has been delivered: messages, and `none` for what
cannot be decoded. -/
def Kind.found (limit : Nat) (k : Kind) (i : List Octets × BodyEnd) : List (Option Message) :=
  (match k.framing? with
    | some framing => (framing.carries limit (extent i.2) i.1.flatten).map Except.toOption
    | none => i.1.map fun p => (Message.parse p).toOption) ++ fault i.2

/-- The messages before the first fault. -/
def decoded : List (Option Message) → List Message
  | some m :: rs => m :: decoded rs
  | _ => []

@[simp]
theorem decoded_append (ms : List Message) (rs : List (Option Message)) :
    decoded (ms.map some ++ rs) = ms ++ decoded rs := by
  induction ms with
  | nil => rfl
  | cons m ms ih => exact congrArg (m :: ·) ih

theorem decoded_map_some (ms : List Message) : decoded (ms.map some) = ms := by
  have happend := decoded_append ms []
  rwa [List.append_nil, show decoded [] = [] from rfl, List.append_nil] at happend

/-! ## What the input holds -/

namespace Inbound

/-- What an action does to the input. -/
def take (i : Inbound) : Action → Inbound
  | .arrive s => i.feed s
  | .endInput ending => i.close ending
  | _ => i

/-- What is in the input as it stands. -/
def owed : Inbound → List (Option Message)
  | .frames d ending => (d.owed (extent ending) []).map Except.toOption ++ fault ending
  | .packets ps ending => (ps.map fun p => (Message.parse p).toOption) ++ fault ending

/-- What is in the input after these actions. -/
def held (i : Inbound) (as : List Action) : List (Option Message) := (as.foldl take i).owed

def Sound : Inbound → Prop
  | .frames d _ => d.Sound
  | .packets .. => True

/-- The input with what has been delivered to it, which ends it in this way. -/
def add (more : List Octets × BodyEnd) : Inbound → Inbound
  | .frames d _ => .frames (d.feed more.1.flatten) more.2
  | .packets ps _ => .packets (ps ++ more.1) more.2

/-- What these actions deliver to an input with this end. -/
def supply (ending : BodyEnd) (as : List Action) : List Octets × BodyEnd := as.foldl delivered ([], ending)

theorem take_add (i : Inbound) (more : List Octets × BodyEnd) (a : Action) :
    (i.add more).take a = i.add (delivered more a) := by
  obtain ⟨chunks, ending⟩ := more
  cases a with
  | arrive s =>
    cases ending with
    | pending =>
      cases i with
      | frames d e => simp [add, take, feed, delivered]
      | packets ps e => simp [add, take, feed, delivered]
    | _ => cases i <;> rfl
  | endInput e => cases ending <;> cases i <;> rfl
  | _ => rfl

theorem held_add (i : Inbound) (more : List Octets × BodyEnd) (as : List Action) :
    (i.add more).held as = (i.add (as.foldl delivered more)).owed := by
  induction as generalizing more with
  | nil => rfl
  | cons a as ih =>
    rw [List.foldl_cons, ← ih]
    unfold held
    rw [List.foldl_cons, take_add]

theorem held_frames (d : FrameDecoder) (ending : BodyEnd) (as : List Action) :
    (frames d ending).held as = (d.owed (extent (supply ending as).2) (supply ending as).1.flatten).map
      Except.toOption ++ fault (supply ending as).2 := by
  have hself : (frames d ending).add ([], ending) = frames d ending := by
    simp [add]
  rw [← hself, held_add]
  simp only [add, owed, FrameDecoder.owed_feed, List.append_nil]
  rfl

theorem held_packets (ps : List Octets) (ending : BodyEnd) (as : List Action) :
    (packets ps ending).held as = ((ps ++ (supply ending as).1).map fun p => (Message.parse p).toOption)
      ++ fault (supply ending as).2 := by
  have hself : (packets ps ending).add ([], ending) = packets ps ending := by
    simp [add]
  rw [← hself, held_add]
  rfl

theorem supply_of_ended {ending : BodyEnd} (h : ending ≠ .pending) (as : List Action) :
    supply ending as = ([], ending) := by
  unfold supply
  induction as with
  | nil => rfl
  | cons a as ih =>
    have hnone : delivered ([], ending) a = ([], ending) := by
      cases a with
      | arrive | endInput => exact if_neg h
      | _ => rfl
    rw [List.foldl_cons, hnone, ih]

/-- What the receive half meets, as the first of what the input holds, whatever is to come. -/
inductive Meets (i : Inbound) : Option (Inbound × Arrival) → Prop where
  | message {i' : Inbound} {m : Message} : i'.Sound → (∀ as, i.held as = some m :: i'.held as) →
      Meets i (some (i', .message m))
  | bad {i' : Inbound} : (∀ as, ∃ rs, i.held as = none :: rs) → Meets i (some (i', .bad))
  | ended {i' : Inbound} : (∀ as, i.held as = []) → Meets i (some (i', .over))
  | nothing : i.owed = [] → Meets i none

theorem held_complete (d : FrameDecoder) (as : List Action) :
    (frames d .complete).held as = (d.owed .whole []).map Except.toOption := by
  rw [held_frames, supply_of_ended (by decide)]
  exact List.append_nil _

/-- A decoder that has found nothing by the end of the body looks at what is left as the last of it. -/
theorem meets_next_complete {d d' : FrameDecoder} (hdecode : d.decode = (d', .ok none)) (hsound : d'.Sound)
    (howed : ∀ x tail, d'.owed x tail = d.owed x tail) :
    Meets (.frames d .complete) (Inbound.next (.frames d .complete)) := by
  rcases FrameDecoder.decodeEnd_cases hsound with ⟨m, d'', hlast, hsound', howed'⟩ |
    ⟨e, d'', rs, hlast, howed'⟩ | ⟨d'', hlast, howed'⟩
  · have hnext : Inbound.next (.frames d .complete) = some (.frames d'' .complete, .message m) := by
      simp only [next, hdecode, hlast, ofResult]
    rw [hnext]
    refine .message hsound' fun as => ?_
    rw [held_complete, held_complete, ← howed, howed']
    rfl
  · have hnext : Inbound.next (.frames d .complete) = some (.frames d'' .complete, .bad) := by
      simp only [next, hdecode, hlast, ofResult]
    rw [hnext]
    refine .bad fun as => ⟨rs.map Except.toOption, ?_⟩
    rw [held_complete, ← howed, howed']
    rfl
  · have hnext : Inbound.next (.frames d .complete) = some (.frames d'' .complete, .over) := by
      simp only [next, hdecode, hlast, ofResult]
    rw [hnext]
    refine .ended fun as => ?_
    rw [held_complete, ← howed, howed']
    rfl

theorem meets_next_frames {d : FrameDecoder} (h : d.Sound) (ending : BodyEnd) :
    Meets (.frames d ending) (Inbound.next (.frames d ending)) := by
  rcases FrameDecoder.decode_cases h with ⟨m, d', hdecode, hsound, howed⟩ | ⟨e, d', hdecode, howed⟩ |
    ⟨d', hdecode, hsound, howed, hnone⟩
  · have hnext : Inbound.next (.frames d ending) = some (.frames d' ending, .message m) := by
      simp only [next, hdecode, ofResult]
    rw [hnext]
    refine .message hsound fun as => ?_
    rw [held_frames, held_frames, howed]
    rfl
  · have hnext : Inbound.next (.frames d ending) = some (.frames d' ending, .bad) := by
      simp only [next, hdecode, ofResult]
    rw [hnext]
    refine .bad fun as => ?_
    obtain ⟨rs, hrs⟩ := howed (extent (supply ending as).2) (supply ending as).1.flatten
    rw [held_frames, hrs]
    exact ⟨_, rfl⟩
  · -- the decoder has nothing for now, so all depends on how the input ends
    cases ending with
    | pending =>
      have hnext : Inbound.next (.frames d .pending) = none := by
        simp only [next, hdecode]
      rw [hnext]
      refine .nothing ?_
      simp only [owed, extent, ← howed, hnone, fault, List.map_nil, List.append_nil]
    | broken =>
      have hnext : Inbound.next (.frames d .broken) = some (.frames d' .broken, .bad) := by
        simp only [next, hdecode]
      rw [hnext]
      refine .bad fun as => ⟨[], ?_⟩
      rw [held_frames, supply_of_ended (by decide), extent, List.flatten_nil, ← howed, hnone]
      · rfl
      · decide
    | complete => exact meets_next_complete hdecode hsound howed

theorem meets_next_packets (ps : List Octets) (ending : BodyEnd) :
    Meets (.packets ps ending) (Inbound.next (.packets ps ending)) := by
  cases ps with
  | cons p ps =>
    cases hparse : Message.parse p with
    | ok m =>
      simp only [next, hparse]
      refine .message trivial fun as => ?_
      rw [held_packets, held_packets, List.cons_append, List.map_cons, hparse]
      rfl
    | error e =>
      simp only [next, hparse]
      refine .bad fun as => ?_
      rw [held_packets, List.cons_append, List.map_cons, hparse]
      exact ⟨_, rfl⟩
  | nil =>
    cases ending with
    | pending => exact .nothing rfl
    | broken => exact .bad fun as => ⟨[], by rw [held_packets, supply_of_ended (by decide)]; rfl⟩
    | complete => exact .ended fun as => by rw [held_packets, supply_of_ended (by decide)]; rfl

theorem meets_next {i : Inbound} (h : i.Sound) : Meets i i.next := by
  cases i with
  | frames d ending => exact meets_next_frames h ending
  | packets ps ending => exact meets_next_packets ps ending

theorem Sound.take {i : Inbound} (h : i.Sound) (a : Action) : (i.take a).Sound := by
  cases i with
  | packets ps ending => cases a <;> cases ending <;> trivial
  | frames d ending =>
    cases a with
    | arrive s =>
      cases ending with
      | pending => exact FrameDecoder.Sound.feed h s
      | _ => exact h
    | endInput e => cases ending <;> exact h
    | _ => exact h

end Inbound

/-! ## Opening -/

/-- The input of a session that is opened on a body. -/
def Kind.inbound (limit : Nat) (b : Body) (k : Kind) : Inbound :=
  match k.framing? with
  | some framing => .frames ((framing.decoder limit).feed b.chunks.flatten) b.ending
  | none => .packets b.chunks b.ending

theorem Kind.sound_inbound (limit : Nat) (b : Body) (k : Kind) : (k.inbound limit b).Sound := by
  unfold Kind.inbound
  cases k.framing? with
  | some framing => exact FrameDecoder.Sound.feed (FrameDecoder.sound_decoder framing limit) _
  | none => trivial

/-- What a session holds when it is opened is all that there is to find. -/
theorem Kind.held_inbound (limit : Nat) (b : Body) (k : Kind) (as : List Action) :
    (k.inbound limit b).held as = k.found limit (as.foldl delivered (b.chunks, b.ending)) := by
  unfold Kind.inbound Kind.found
  cases k.framing? with
  | some framing =>
    have hadd := Inbound.held_add (.frames (framing.decoder limit) .pending) (b.chunks, b.ending) as
    refine hadd.trans ?_
    simp only [Inbound.add, Inbound.owed, FrameDecoder.owed_feed, List.append_nil, FrameDecoder.owed_decoder]
  | none => exact Inbound.held_add (.packets [] .pending) (b.chunks, b.ending) as

end Switchboard.Session
