-- SUMMARY: The gRPC decoder gives what the whole stream carries, frame by frame.
import Switchboard.Frame.Grpc
import Switchboard.Proofs.Frame.Decoding
import Switchboard.Proofs.Frame.Envelope
import Mathlib.Algebra.Group.Nat.Defs

/-!
# The gRPC decoder against the whole stream

A frame is refused, or left to wait for, by its header alone, so what the decoder
does with a buffer is what the whole stream says, whatever else is to come
(`Decoder.keeps`). At the end of the stream an incomplete frame is a fault
(`Decoder.settles`). A refused header stays where it is, and it is refused again
however the decoder is used from then on (`Decoder.Refuses.of_leads`).

`Decoder.decodeChecked` decodes with operations that fail where there is no octet
to read or to take off, or where a length leaves the machine's words. None of them
does (`Decoder.decodeChecked_eq`). The words are taken to have 64 bits, so that a
length of 32 bits and a header fit one. Where they have 32, this is so as well as long
as the limit is below `2 ^ 31 - 5`: a longer frame is refused before its length is
reckoned with.
-/

namespace Switchboard.Grpc

/-! ## Payloads -/

/-- What a payload comes to: the message in the last of its fields that hold one, if it is made of
fields. -/
inductive Says (payload : Octets) : Except FrameError Message → Prop where
  | message {values : List Octets} {m : Message} : Envelope.Fields payload values →
      Message.parse (values.getLastD []) = .ok m → Says payload (.ok m)
  | garbled {values : List Octets} {e : DecodeError} : Envelope.Fields payload values →
      Message.parse (values.getLastD []) = .error e → Says payload (.error (.decode e))
  | shapeless {e : PayloadError} : (∀ values, ¬Envelope.Fields payload values) →
      Says payload (.error (.payload e))

theorem says_read (payload : Octets) : Says payload (read payload) := by
  unfold read
  split
  · next e he =>
    refine .shapeless fun values hfields => ?_
    rw [Envelope.decode_eq_ok_iff.mpr ⟨values, hfields, rfl⟩] at he
    cases he
  · next body hbody =>
    obtain ⟨values, hfields, rfl⟩ := Envelope.decode_eq_ok_iff.mp hbody
    split
    · next m hm => exact .message hfields hm
    · next e he => exact .garbled hfields he

/-! ## References -/

/-- What a stream has shown to carry before its end is known: frames up to the first refused header
or up to one that is not complete yet. -/
def outcomesSoFar (limit : Nat) : Octets → List (Except FrameError Message)
  | flag :: a :: b :: c :: d :: rest =>
    let length := lengthOf a b c d
    if flag ≠ 0 then [.error .compressed]
    else if limit < length then [.error (.tooLarge length)]
    else if rest.length < length then []
    else read (rest.take length) :: outcomesSoFar limit (rest.drop length)
  | _ => []
termination_by s => s.length
decreasing_by
  rw [List.length_drop]
  exact Nat.lt_of_le_of_lt (Nat.sub_le _ _) (Nat.lt_add_of_pos_right (by decide : 0 < 5))

/-- A reference for the decoder goes through a stream frame by frame, as far as the frames are
complete. -/
structure Framed (f : Nat → Octets → List (Except FrameError Message)) : Prop where
  compressed : ∀ limit {flag}, flag ≠ 0 → ∀ a b c d rest,
    f limit (flag :: a :: b :: c :: d :: rest) = [.error .compressed]
  tooLarge : ∀ {limit a b c d}, limit < lengthOf a b c d → ∀ rest,
    f limit (0 :: a :: b :: c :: d :: rest) = [.error (.tooLarge (lengthOf a b c d))]
  frame : ∀ {limit a b c d rest}, lengthOf a b c d ≤ limit → lengthOf a b c d ≤ rest.length →
    f limit (0 :: a :: b :: c :: d :: rest) =
      read (rest.take (lengthOf a b c d)) :: f limit (rest.drop (lengthOf a b c d))

theorem framed_outcomes : Framed outcomes where
  compressed limit flag h a b c d rest := by rw [outcomes, if_pos h]
  tooLarge h rest := by rw [outcomes, if_neg (by simp), if_pos h]
  frame h hwhole := by
    rw [outcomes, if_neg (by simp), if_neg (Nat.not_lt.mpr h), if_neg (Nat.not_lt.mpr hwhole)]

theorem framed_outcomesSoFar : Framed outcomesSoFar where
  compressed limit flag h a b c d rest := by rw [outcomesSoFar, if_pos h]
  tooLarge h rest := by rw [outcomesSoFar, if_neg (by simp), if_pos h]
  frame h hwhole := by
    rw [outcomesSoFar, if_neg (by simp), if_neg (Nat.not_lt.mpr h), if_neg (Nat.not_lt.mpr hwhole)]

/-- A frame that is not complete, and would be taken if it were. -/
inductive Incomplete (limit : Nat) : Octets → Prop
  | header {s} (short : s.length < headerLength) : Incomplete limit s
  | payload {a b c d rest} (fits : lengthOf a b c d ≤ limit)
      (short : rest.length < lengthOf a b c d) : Incomplete limit (0 :: a :: b :: c :: d :: rest)

theorem Incomplete.outcomes_eq {limit : Nat} {s : Octets} (h : Incomplete limit s) (hne : s ≠ []) :
    outcomes limit s = [.error .leftover] := by
  cases h with
  | header short =>
    match s with
    | [] => exact absurd rfl hne
    | [_] | [_, _] | [_, _, _] | [_, _, _, _] => rw [outcomes] <;> simp
    | _ :: _ :: _ :: _ :: _ :: _ =>
      simp only [List.length_cons, headerLength] at short
      omega
  | payload fits short =>
    rw [outcomes, if_neg (by simp), if_neg (Nat.not_lt.mpr fits), if_pos short]

theorem Incomplete.outcomesSoFar_eq {limit : Nat} {s : Octets} (h : Incomplete limit s) :
    outcomesSoFar limit s = [] := by
  cases h with
  | header short =>
    match s with
    | [] | [_] | [_, _] | [_, _, _] | [_, _, _, _] => rw [outcomesSoFar]; simp
    | _ :: _ :: _ :: _ :: _ :: _ =>
      simp only [List.length_cons, headerLength] at short
      omega
  | payload fits short =>
    rw [outcomesSoFar, if_neg (by simp), if_neg (Nat.not_lt.mpr fits), if_pos short]

/-- What the octets of a header say of the frame. -/
inductive Header (limit : Nat) : Octets → Prop
  | compressed {flag} (flagged : flag ≠ 0) (a b c d rest) :
      Header limit (flag :: a :: b :: c :: d :: rest)
  | tooLarge {a b c d} (exceeds : limit < lengthOf a b c d) (rest) :
      Header limit (0 :: a :: b :: c :: d :: rest)
  | whole {a b c d rest} (fits : lengthOf a b c d ≤ limit)
      (whole : lengthOf a b c d ≤ rest.length) : Header limit (0 :: a :: b :: c :: d :: rest)
  | incomplete {s} (incomplete : Incomplete limit s) : Header limit s

theorem header_cases (limit : Nat) (s : Octets) : Header limit s := by
  match s with
  | [] | [_] | [_, _] | [_, _, _] | [_, _, _, _] => exact .incomplete (.header (by simp [headerLength]))
  | flag :: a :: b :: c :: d :: rest =>
    by_cases hflag : flag = 0
    · subst hflag
      rcases Nat.lt_or_ge limit (lengthOf a b c d) with hlimit | hlimit
      · exact .tooLarge hlimit rest
      · rcases Nat.lt_or_ge rest.length (lengthOf a b c d) with hshort | hwhole
        · exact .incomplete (.payload hlimit hshort)
        · exact .whole hlimit hwhole
    · exact .compressed hflag a b c d rest

theorem read_eq_error {payload : Octets} {e : FrameError} (h : read payload = .error e) :
    (∃ f, e = .payload f) ∨ ∃ f, e = .decode f := by
  have meaning := says_read payload
  rw [h] at meaning
  cases meaning with
  | garbled => exact .inr ⟨_, rfl⟩
  | shapeless => exact .inl ⟨_, rfl⟩

namespace Decoder

/-! ## Calls -/

/-- A stream of frames is decoded up to a refused header or to an end within a frame. -/
def decoding : Decoding Decoder where
  feed := feed
  decode := decode
  decodeEnd := decodeEnd
  halts
    | .payload _ | .decode _ => false
    | _ => true

/-- What a reference says of the buffer and what is to come is owed. -/
def account (f : Nat → Octets → List (Except FrameError Message)) (limit : Nat) :
    Decoding.Account Decoder where
  sound d := d.limit = limit
  owed d tail := f limit (d.buffer ++ tail)
  work d := d.buffer.length

def Rests (d : Decoder) : Prop := Incomplete d.limit d.buffer

variable {f : Nat → Octets → List (Except FrameError Message)} {d : Decoder} {limit : Nat}

theorem decode_of_incomplete (h : Incomplete d.limit d.buffer) : d.decode = (d, .ok none) := by
  obtain ⟨limit, buffer⟩ := d
  dsimp only at h
  cases h with
  | header short =>
    match buffer with
    | [] | [_] | [_, _] | [_, _, _] | [_, _, _, _] => rfl
    | _ :: _ :: _ :: _ :: _ :: _ =>
      simp only [List.length_cons, headerLength] at short
      omega
  | payload fits short => simp [decode, Nat.not_lt.mpr fits, short]

theorem call_decode (hf : Framed f) (tail : Octets) (d : Decoder) :
    decoding.Call (account f d.limit) Rests tail d d.decode := by
  obtain ⟨limit, buffer⟩ := d
  cases header_cases limit buffer with
  | compressed flagged a b c d rest =>
    simp only [decode, if_pos flagged]
    exact .halt rfl (hf.compressed limit flagged a b c d (rest ++ tail))
  | tooLarge exceeds rest =>
    simp only [decode, ne_eq, not_true, if_false, if_pos exceeds]
    exact .halt rfl (hf.tooLarge exceeds (rest ++ tail))
  | incomplete incomplete =>
    rw [decode_of_incomplete incomplete]
    exact .nothing rfl rfl incomplete
  | @whole a b c d rest fits whole =>
    have hwhole : lengthOf a b c d ≤ (rest ++ tail).length := by
      rw [List.length_append]
      omega
    have howed := hf.frame fits hwhole
    rw [List.take_append_of_le_length whole, List.drop_append_of_le_length whole] at howed
    have less : (rest.drop (lengthOf a b c d)).length < rest.length + 5 := by
      rw [List.length_drop]
      omega
    simp only [decode, ne_eq, not_true, if_false, Nat.not_lt.mpr fits, Nat.not_lt.mpr whole]
    cases hread : read (rest.take (lengthOf a b c d)) with
    | ok m => exact .message rfl (hread ▸ howed) less
    | error e =>
      refine .error ?_ rfl (hread ▸ howed) less
      rcases read_eq_error hread with ⟨_, rfl⟩ | ⟨_, rfl⟩ <;> rfl

/-- However the octets come, each call gives the first of what the stream still carries. -/
theorem keeps (hf : Framed f) (limit : Nat) : decoding.Keeps (account f limit) Rests where
  feed _ _ h := h
  owed_feed d s tail := by simp [account, decoding, Decoder.feed]
  decode tail d hd := hd ▸ call_decode hf tail d

theorem settles (limit : Nat) : decoding.Settles (account outcomes limit) := by
  rintro d rfl
  have hcall := call_decode framed_outcomes [] d
  show decoding.Call _ _ _ _ d.decodeEnd
  rw [decodeEnd]
  generalize d.decode = r at hcall
  cases hcall with
  | message sound owed less => exact .message sound owed less
  | error goes sound owed less => exact .error goes sound owed less
  | halt halts owed => exact .halt halts owed
  | @nothing d' sound owed rests =>
    dsimp only
    split
    · next hempty =>
      refine .nothing sound owed ?_
      simp only [account, hempty, List.append_nil]
      rw [outcomes]
    · next hne =>
      refine .halt rfl (owed.symm.trans ?_)
      simp only [account, List.append_nil]
      exact sound ▸ rests.outcomes_eq hne

theorem sound_new (f : Nat → Octets → List (Except FrameError Message)) (limit : Nat) :
    (account f limit).sound { limit } :=
  rfl

theorem rests_new (limit : Nat) : Rests { limit } := .header (Nat.zero_lt_succ _)

/-- What the chunks gave and the decoder they leave are right for any tail that may come. -/
theorem exists_feeds (hf : Framed f) (limit : Nat) (chunks : List Octets) :
    ∃ rs halted d, decoding.Feeds { limit } chunks rs halted d ∧
      ∀ tail, (account f limit).Leaves Rests tail (f limit (chunks.flatten ++ tail)) rs halted d :=
  (keeps hf limit).exists_feeds (sound_new f limit) (rests_new limit) chunks

theorem feeds_iff {chunks : List Octets} {rs : List (Except FrameError Message)} :
    (∃ halted d, decoding.Feeds { limit } chunks rs halted d) ↔
      rs = outcomesSoFar limit chunks.flatten := by
  obtain ⟨rs', halted', d', feeds', leaves⟩ := exists_feeds framed_outcomesSoFar limit chunks
  replace leaves := leaves []
  rw [List.append_nil] at leaves
  have hrs : outcomesSoFar limit chunks.flatten = rs' := by
    cases halted' with
    | true => exact leaves
    | false =>
      obtain ⟨rfl, rests, howed⟩ := leaves
      have hnone : (account outcomesSoFar d'.limit).owed d' [] = [] := by
        simp only [account, List.append_nil]
        exact rests.outcomesSoFar_eq
      rwa [hnone, List.append_nil] at howed
  rw [hrs]
  constructor
  · rintro ⟨halted, d, feeds⟩
    exact (feeds.unique feeds').1
  · rintro rfl
    exact ⟨halted', d', feeds'⟩

theorem reads_iff {chunks : List Octets} {rs : List (Except FrameError Message)} :
    decoding.Reads { limit } chunks rs ↔ rs = outcomes limit chunks.flatten :=
  (keeps framed_outcomes limit).reads_iff (settles limit) (sound_new outcomes limit) (rests_new limit)

/-! ## Refused headers -/

/-- The errors that a header is refused with. -/
def isRefusal : FrameError → Bool
  | .compressed | .tooLarge _ => true
  | _ => false

/-- The header at the front of the buffer is refused with this error, whatever comes. -/
def Refuses (d : Decoder) (e : FrameError) : Prop :=
  ∀ more, (d.feed more).decode = (d.feed more, .error e)

variable {d' : Decoder} {e : FrameError}

theorem feed_nil (d : Decoder) : d.feed [] = d := by rw [feed, List.append_nil]

theorem feed_feed (d : Decoder) (s more : Octets) : (d.feed s).feed more = d.feed (s ++ more) := by
  simp only [feed, List.append_assoc]

theorem refuses_of_decode (h : d.decode = (d', .error e)) (he : isRefusal e = true) :
    d.Refuses e := by
  intro more
  obtain ⟨limit, buffer⟩ := d
  cases header_cases limit buffer with
  | compressed flagged a b c d rest =>
    simp only [decode, if_pos flagged] at h
    cases h
    simp only [feed, List.cons_append, decode, if_pos flagged]
  | tooLarge exceeds rest =>
    simp only [decode, ne_eq, not_true, if_false, if_pos exceeds] at h
    cases h
    simp [feed, decode, exceeds]
  | incomplete incomplete => cases (decode_of_incomplete incomplete).symm.trans h
  | @whole a b c d rest fits whole =>
    -- a frame that is taken gives an error of its payload
    simp only [decode, ne_eq, not_true, if_false, Nat.not_lt.mpr fits, Nat.not_lt.mpr whole] at h
    cases hread : read (rest.take (lengthOf a b c d)) with
    | ok m =>
      rw [hread] at h
      cases h
    | error e' =>
      rw [hread] at h
      cases h
      rcases read_eq_error hread with ⟨_, rfl⟩ | ⟨_, rfl⟩ <;> cases he

theorem Refuses.feed (h : d.Refuses e) (s : Octets) : (d.feed s).Refuses e := by
  intro more
  rw [feed_feed]
  exact h (s ++ more)

theorem Refuses.decode_eq (h : d.Refuses e) : d.decode = (d, .error e) := by
  have hdecode := h []
  rwa [feed_nil] at hdecode

theorem Refuses.decodeEnd_eq (h : d.Refuses e) : d.decodeEnd = (d, .error e) := by
  rw [decodeEnd, h.decode_eq]

/-- However the decoder is used from then on, it only grows. -/
theorem Refuses.of_leads (h : d.Refuses e) (hleads : decoding.Leads d d') :
    d'.Refuses e ∧ ∃ more, d' = d.feed more := by
  induction hleads with
  | refl => exact ⟨h, [], (feed_nil d).symm⟩
  | feed s _ ih =>
    obtain ⟨hrefuses, more, rfl⟩ := ih
    exact ⟨hrefuses.feed s, more ++ s, feed_feed d more s⟩
  | decode _ ih =>
    simp only [decoding, ih.1.decode_eq]
    exact ih
  | decodeEnd _ ih =>
    simp only [decoding, ih.1.decodeEnd_eq]
    exact ih

/-! ## Reads and lengths -/

/-- The sum of two lengths, unless it leaves the machine's words of 64 bits. -/
def addLength? (m n : Nat) : Option Nat := if m + n < 2 ^ 64 then some (m + n) else none

/-- The difference of two lengths, unless it is below zero. -/
def subLength? (m n : Nat) : Option Nat := if n ≤ m then some (m - n) else none

/-- Room for so many octets more, unless the buffer would be larger than a buffer can be on a machine
of 64 bits. -/
def reserve? (s : Octets) (n : Nat) : Option Octets :=
  if s.length + n < 2 ^ 63 then some s else none

/-- The first octets and the rest, unless there are not as many. -/
def splitTo? (n : Nat) (s : Octets) : Option (Octets × Octets) :=
  if n ≤ s.length then some (s.take n, s.drop n) else none

/-- `decode` by operations that fail outside the buffer or outside the machine's words. -/
def decodeChecked (d : Decoder) : Option (Decoder × Except FrameError (Option Message)) :=
  if d.buffer.length < headerLength then some (d, .ok none)
  else do
    let flag ← d.buffer[0]?
    if flag ≠ 0 then return (d, .error .compressed)
    let length := lengthOf (← d.buffer[1]?) (← d.buffer[2]?) (← d.buffer[3]?) (← d.buffer[4]?)
    if d.limit < length then return (d, .error (.tooLarge length))
    if d.buffer.length < (← addLength? headerLength length) then
      let missing ← subLength? (← addLength? headerLength length) d.buffer.length
      return ({ d with buffer := ← reserve? d.buffer missing }, .ok none)
    let (_, rest) ← splitTo? headerLength d.buffer
    let (payload, rest) ← splitTo? length rest
    return ({ d with buffer := rest }, (read payload).map some)

theorem lengthOf_lt (a b c d : UInt8) : lengthOf a b c d < 2 ^ 32 := by
  have := a.toNat_lt
  have := b.toNat_lt
  have := c.toNat_lt
  have := d.toNat_lt
  simp only [lengthOf]
  omega

theorem addLength?_eq (a b c d : UInt8) :
    addLength? headerLength (lengthOf a b c d) = some (headerLength + lengthOf a b c d) := by
  have := lengthOf_lt a b c d
  exact if_pos (by simp only [headerLength]; omega)

/-- No read is outside the buffer, and no length leaves the machine's words. -/
theorem decodeChecked_eq (d : Decoder) : d.decodeChecked = some d.decode := by
  obtain ⟨limit, buffer⟩ := d
  rw [decodeChecked]
  match buffer with
  | [] | [_] | [_, _] | [_, _, _] | [_, _, _, _] => rfl
  | flag :: a :: b :: c :: e :: rest =>
    have hheader : (flag :: a :: b :: c :: e :: rest).length = headerLength + rest.length := by
      simp only [List.length_cons, headerLength]
      omega
    have hlength := lengthOf_lt a b c e
    rw [if_neg (by rw [hheader]; omega)]
    by_cases hflag : flag = 0
    · subst hflag
      by_cases hlimit : limit < lengthOf a b c e
      · simp [decode, hlimit]
      · by_cases hshort : rest.length < lengthOf a b c e
        · have hsub : subLength? (headerLength + lengthOf a b c e) (headerLength + rest.length) =
              some (lengthOf a b c e - rest.length) := by
            rw [subLength?, if_pos (by omega), Nat.add_sub_add_left]
          have hreserve : reserve? (0 :: a :: b :: c :: e :: rest) (lengthOf a b c e - rest.length) =
              some (0 :: a :: b :: c :: e :: rest) :=
            if_pos (by rw [hheader, headerLength]; omega)
          rw [hheader]
          simp [decode, hlimit, hshort, addLength?_eq, hsub, hreserve]
        · have hadvance : splitTo? headerLength (0 :: a :: b :: c :: e :: rest) =
              some ([0, a, b, c, e], rest) := if_pos (by rw [hheader]; omega)
          have hsplit : splitTo? (lengthOf a b c e) rest =
              some (rest.take (lengthOf a b c e), rest.drop (lengthOf a b c e)) :=
            if_pos (Nat.le_of_not_lt hshort)
          rw [hheader]
          simp [decode, hlimit, hshort, addLength?_eq, hadvance, hsplit]
    · simp [decode, hflag]

/-! ## The decoder as a whole -/

/-- However a stream is cut into chunks, the calls on them and then at the end give what the stream
carries, and those on the chunks alone have given all that the stream has shown by then. A refused
header is never passed, and decoding reads nothing but its buffer and, where a word of the machine
has 64 bits, keeps to its words. -/
theorem gives_frames_or_refuses :
    (∀ limit chunks rs, decoding.Reads { limit } chunks rs ↔ rs = outcomes limit chunks.flatten) ∧
    (∀ limit chunks rs, (∃ halted d, decoding.Feeds { limit } chunks rs halted d) ↔
      rs = outcomesSoFar limit chunks.flatten) ∧
    (∀ d d₁ e, d.decode = (d₁, .error e) → isRefusal e = true → d₁ = d ∧
      ∀ d', decoding.Leads d d' → (∃ more, d' = d.feed more) ∧
        d'.decode = (d', .error e) ∧ d'.decodeEnd = (d', .error e)) ∧
    ∀ d : Decoder, d.decodeChecked = some d.decode := by
  refine ⟨fun _ _ _ => reads_iff, fun _ _ _ => feeds_iff, fun d d₁ e h he => ?_, decodeChecked_eq⟩
  have hrefuses := refuses_of_decode h he
  refine ⟨(Prod.mk.inj (h.symm.trans hrefuses.decode_eq)).1, fun d' hleads => ?_⟩
  obtain ⟨hrefuses', hmore⟩ := hrefuses.of_leads hleads
  exact ⟨hmore, hrefuses'.decode_eq, hrefuses'.decodeEnd_eq⟩

/-- The header of a compressed frame, without its payload. -/
def flagged : Decoder := { limit := 16, buffer := [1, 0, 0, 0, 4] }

theorem gives_frames_or_refuses_flagged :
    flagged.decode = (flagged, .error .compressed) ∧ isRefusal .compressed = true ∧
      (flagged.feed [10, 2, 0x7b, 0x7d]).decode =
        (flagged.feed [10, 2, 0x7b, 0x7d], .error .compressed) := by
  have hdecode : flagged.decode = (flagged, .error .compressed) := by rfl
  refine ⟨hdecode, rfl, ?_⟩
  exact ((gives_frames_or_refuses.2.2.1 _ _ _ hdecode rfl).2 _ (.feed _ .refl)).2.1

end Decoder

end Switchboard.Grpc
