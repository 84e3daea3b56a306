-- SUMMARY: The line decoder gives what the whole stream carries, segment by segment.
import Switchboard.Frame.Lines
import Switchboard.Proofs.Frame.Decoding
import Switchboard.Proofs.Text.Trim

/-!
# The line decoder against the whole stream

The decoder sees a buffer, and more octets may come. While it discards, the rest of a
refused segment is of no account, up to the next newline; otherwise its buffer starts
a segment (`Decoder.account`). One take is one of three (`Decoder.Taken`): the first
segment, up to a newline within reach; nothing yet; or a refusal, since the first
segment will be too long whatever comes. Decoding takes lines until one carries
something, so each call gives the first of what the stream still carries
(`Decoder.keeps`), and the chunks in which it came do not show
(`Decoder.reads_iff`).
-/

namespace Switchboard.Lines

/-! ## Lines -/

/-- What a line comes to when its carriage return is off: the message in its text without the blanks
around it. -/
inductive Says : Octets → Except FrameError (Option Message) → Prop where
  | notText {s : Octets} : (∀ text, s ≠ Text.octets text) → Says s (.error .notText)
  | blank {text : String} : (∀ c ∈ text.toList, Text.isBlank c) → Says (Text.octets text) (.ok none)
  | message {pad pad' : List Char} {line text : String} {m : Message} : Text.Bare text →
      (∀ c ∈ pad, Text.isBlank c) → (∀ c ∈ pad', Text.isBlank c) →
      line = String.ofList pad ++ text ++ String.ofList pad' →
      Message.parse (Text.octets text) = .ok m → Says (Text.octets line) (.ok (some m))
  | garbled {pad pad' : List Char} {line text : String} {e : DecodeError} : Text.Bare text →
      (∀ c ∈ pad, Text.isBlank c) → (∀ c ∈ pad', Text.isBlank c) →
      line = String.ofList pad ++ text ++ String.ofList pad' →
      Message.parse (Text.octets text) = .error e → Says (Text.octets line) (.error (.decode e))

theorem withoutReturn_cases (line : Octets) : line = withoutReturn line ++ [carriageReturn] ∨
    line = withoutReturn line ∧ line.getLast? ≠ some carriageReturn := by
  unfold withoutReturn
  split
  · next h =>
    obtain ⟨s, rfl⟩ := List.getLast?_eq_some_iff.mp h
    exact .inl (by rw [List.dropLast_concat])
  · next h => exact .inr ⟨rfl, h⟩

theorem says_read (line : Octets) : ∃ s, (line = s ++ [carriageReturn] ∨
    line = s ∧ line.getLast? ≠ some carriageReturn) ∧ Says s (read line) := by
  refine ⟨withoutReturn line, withoutReturn_cases line, ?_⟩
  unfold read
  cases htext : Text.ofOctets? (withoutReturn line) with
  | none =>
    refine .notText fun text heq => ?_
    rw [heq, Text.ofOctets?_octets] at htext
    cases htext
  | some text =>
    rw [← Text.octets_of_ofOctets? htext]
    rcases Text.exists_padding text with hblank | ⟨pad, pad', hbare, hpad, hpad', heq⟩
    · have htrim : Text.trim text = "" := by
        have h := Text.trim_of_blank hblank
        rwa [String.ofList_toList] at h
      simp only [htrim]
      exact .blank hblank
    · have hne : (Text.trim text).isEmpty = false := by
        obtain ⟨c, cs, hcs, -⟩ := hbare.head
        rw [Bool.eq_false_iff, Ne, String.isEmpty_iff]
        intro hempty
        rw [hempty] at hcs
        cases hcs
      simp only [hne, Bool.false_eq_true, if_false]
      split
      · next m hm => exact .message hbare hpad hpad' heq hm
      · next e he => exact .garbled hbare hpad hpad' heq he

/-! ## Segments -/

theorem outcomes_append_newline (limit : Nat) {line : Octets} (h : newline ∉ line) (rest : Octets) :
    outcomes limit (line ++ newline :: rest) = (outcome? limit line).toList ++ outcomes limit rest := by
  rw [outcomes, segments, List.splitOn_append_cons_self_of_not_mem h, List.filterMap_cons]
  cases outcome? limit line <;> rfl

theorem outcomes_of_not_mem (limit : Nat) {line : Octets} (h : newline ∉ line) :
    outcomes limit line = (outcome? limit line).toList := by
  rw [outcomes, segments, List.splitOn_eq_singleton h, List.filterMap_cons]
  cases outcome? limit line <;> rfl

theorem outcome?_of_too_long {limit : Nat} {line : Octets} (h : limit < line.length) :
    outcome? limit line = some (.error (.tooLarge 0)) := by
  rw [outcome?, if_pos h]

/-- What follows the first newline; nothing if there is none. -/
def afterNewline : Octets → Octets
  | [] => []
  | b :: s => if b = newline then s else afterNewline s

theorem afterNewline_append {line : Octets} (h : newline ∉ line) (s : Octets) :
    afterNewline (line ++ s) = afterNewline s := by
  induction line with
  | nil => rfl
  | cons b line ih =>
    rw [List.mem_cons, not_or] at h
    rw [List.cons_append, afterNewline, if_neg (Ne.symm h.1), ih h.2]

theorem afterNewline_append_newline {line : Octets} (h : newline ∉ line) (rest : Octets) :
    afterNewline (line ++ newline :: rest) = rest := by
  rw [afterNewline_append h, afterNewline, if_pos rfl]

/-- A stream is one segment, or a segment and what follows its newline. -/
theorem exists_segment (s : Octets) : (newline ∉ s ∧ afterNewline s = []) ∨
    ∃ line, newline ∉ line ∧ s = line ++ newline :: afterNewline s := by
  induction s with
  | nil => exact .inl ⟨List.not_mem_nil, rfl⟩
  | cons b s ih =>
    by_cases hb : b = newline
    · refine .inr ⟨[], List.not_mem_nil, ?_⟩
      rw [List.nil_append, afterNewline, if_pos hb, hb]
    · rw [afterNewline, if_neg hb]
      rcases ih with ⟨hmem, hnone⟩ | ⟨line, hmem, hs⟩
      · exact .inl ⟨by simp [Ne.symm hb, hmem], hnone⟩
      · refine .inr ⟨b :: line, by simp [Ne.symm hb, hmem], ?_⟩
        rw [List.cons_append, ← hs]

/-! ## References -/

/-- What a stream has shown to carry before its end is known: what its segments carry up to the
last, which shows nothing yet unless it is too long already. -/
def outcomesSoFar (limit : Nat) (stream : Octets) : List (Except FrameError Message) :=
  (segments stream).dropLast.filterMap (outcome? limit) ++
    if limit < ((segments stream).getLastD []).length then [.error (.tooLarge 0)] else []

theorem outcomesSoFar_append_newline (limit : Nat) {line : Octets} (h : newline ∉ line)
    (rest : Octets) : outcomesSoFar limit (line ++ newline :: rest) =
      (outcome? limit line).toList ++ outcomesSoFar limit rest := by
  obtain ⟨first, others, hsegments⟩ :=
    List.exists_cons_of_ne_nil (List.splitOn_ne_nil newline rest)
  rw [outcomesSoFar, outcomesSoFar, segments, segments,
    List.splitOn_append_cons_self_of_not_mem h, hsegments]
  simp only [List.dropLast_cons_cons, List.getLastD_cons, List.filterMap_cons]
  cases outcome? limit line <;> rfl

theorem outcomesSoFar_of_not_mem (limit : Nat) {line : Octets} (h : newline ∉ line) :
    outcomesSoFar limit line = if limit < line.length then [.error (.tooLarge 0)] else [] := by
  rw [outcomesSoFar, segments, List.splitOn_eq_singleton h]
  rfl

/-- A reference for the decoder goes through a stream segment by segment. -/
structure Segmental (f : Nat → Octets → List (Except FrameError Message)) : Prop where
  nil : ∀ limit, f limit [] = []
  segment : ∀ limit {line}, newline ∉ line → ∀ rest,
    f limit (line ++ newline :: rest) = (outcome? limit line).toList ++ f limit rest
  tooLong : ∀ {limit line}, newline ∉ line → limit < line.length →
    f limit line = [.error (.tooLarge 0)]

theorem segmental_outcomes : Segmental outcomes where
  nil limit := by
    have hread : read [] = .ok none := rfl
    rw [outcomes_of_not_mem limit List.not_mem_nil, outcome?, if_neg (by simp), hread]
    rfl
  segment limit _ h rest := outcomes_append_newline limit h rest
  tooLong h hlong := by
    rw [outcomes_of_not_mem _ h, outcome?_of_too_long hlong]
    rfl

theorem segmental_outcomesSoFar : Segmental outcomesSoFar where
  nil limit := by
    rw [outcomesSoFar_of_not_mem limit List.not_mem_nil, if_neg (by simp)]
  segment limit _ h rest := outcomesSoFar_append_newline limit h rest
  tooLong h hlong := by rw [outcomesSoFar_of_not_mem _ h, if_pos hlong]

/-- A first segment that is too long is refused once and goes up to its newline. -/
theorem Segmental.eq_tooLarge_cons {f : Nat → Octets → List (Except FrameError Message)}
    (hf : Segmental f) {limit : Nat} {s : Octets} (h : newline ∉ s.take (limit + 1))
    (hlong : limit < s.length) : f limit s = .error (.tooLarge 0) :: f limit (afterNewline s) := by
  rcases exists_segment s with ⟨hmem, hnone⟩ | ⟨line, hmem, hs⟩
  · rw [hf.tooLong hmem hlong, hnone, hf.nil]
  · have hline : limit < line.length := by
      refine Nat.lt_of_not_le fun hshort => h ?_
      rw [hs, List.take_append, List.mem_append]
      have hpos : limit + 1 - line.length = limit - line.length + 1 := by omega
      rw [hpos, List.take_succ_cons]
      exact .inr List.mem_cons_self
    have houtcomes := hf.segment limit hmem (afterNewline s)
    rwa [← hs, outcome?_of_too_long hline] at houtcomes

namespace Decoder

/-! ## The state of a decoder -/

/-- What has been scanned holds no newline. -/
structure Sound (d : Decoder) : Prop where
  within : d.scanned ≤ d.buffer.length
  scanned : newline ∉ d.buffer.take d.scanned

theorem sound_of_unscanned {d : Decoder} (h : d.scanned = 0) : d.Sound where
  within := h ▸ Nat.zero_le _
  scanned := by simp [h]

theorem Sound.feed {d : Decoder} (h : d.Sound) (s : Octets) : (d.feed s).Sound where
  within := by
    have hwithin := h.within
    simp only [Decoder.feed, List.length_append]
    omega
  scanned := by
    have hscanned := h.scanned
    simp only [Decoder.feed]
    rwa [List.take_append_of_le_length h.within]

/-- The stream from the next segment on, if a certain tail is to come. -/
def ahead (d : Decoder) (tail : Octets) : Octets :=
  if d.discarding then afterNewline (d.buffer ++ tail) else d.buffer ++ tail

/-- Each octet of the buffer may give something, and so may the start of a segment, which is refused
when it becomes too long. -/
def work (d : Decoder) : Nat := 2 * d.buffer.length + if d.discarding then 0 else 1

theorem work_lt_of_length_lt {d d' : Decoder} (h : d'.buffer.length < d.buffer.length) :
    d'.work < d.work := by
  simp only [work]
  split <;> split <;> omega

/-- What a reference says of the stream ahead is owed. -/
def account (f : Nat → Octets → List (Except FrameError Message)) (limit : Nat) :
    Decoding.Account Decoder where
  sound d := d.limit = limit ∧ d.Sound
  owed d tail := f limit (d.ahead tail)
  work := work

/-- A decoder that needs more octets holds at most the start of a segment. -/
inductive Rests (d : Decoder) : Prop
  | discarding (discarding : d.discarding = true) (empty : d.buffer = [])
  | waiting (discarding : d.discarding = false) (mem : newline ∉ d.buffer)
      (fits : d.buffer.length ≤ d.limit)

theorem newline_of_newline? {d : Decoder} (h : d.Sound) {i : Nat} (hi : d.newline? = some i) :
    i ≤ d.limit ∧ newline ∉ d.buffer.take i ∧
      d.buffer = d.buffer.take i ++ newline :: d.buffer.drop (i + 1) := by
  simp only [newline?, Option.map_eq_some_iff, List.findIdx?_eq_some_iff_getElem] at hi
  obtain ⟨j, ⟨hj, hnewline, hbefore⟩, rfl⟩ := hi
  simp only [List.length_drop, List.length_take, reach] at hj
  simp only [List.getElem_drop, List.getElem_take, beq_iff_eq] at hnewline hbefore
  have hlength : d.scanned + j < d.buffer.length := by omega
  refine ⟨by omega, ?_, ?_⟩
  · intro hmem
    obtain ⟨k, hk, hkn⟩ := List.mem_take_iff_getElem.mp hmem
    by_cases hlt : k < d.scanned
    · refine h.scanned (List.mem_take_iff_getElem.mpr ⟨k, ?_, hkn⟩)
      omega
    · have hne := hbefore (k - d.scanned) (by omega)
      have hsum : d.scanned + (k - d.scanned) = k := by omega
      simp only [hsum] at hne
      exact hne hkn
  · have hdrop := List.drop_eq_getElem_cons hlength
    rw [hnewline] at hdrop
    rw [← hdrop, List.take_append_drop]

theorem not_mem_of_newline? {d : Decoder} (h : d.Sound) (hnone : d.newline? = none) :
    newline ∉ d.buffer.take d.reach := by
  simp only [newline?, Option.map_eq_none_iff, List.findIdx?_eq_none_iff] at hnone
  intro hmem
  rw [← List.take_append_drop d.scanned (d.buffer.take d.reach), List.mem_append] at hmem
  rcases hmem with hmem | hmem
  · rw [List.take_take, Nat.min_comm, ← List.take_take] at hmem
    exact h.scanned (List.mem_of_mem_take hmem)
  · simpa using hnone _ hmem

/-! ## Taking a line -/

theorem line_of_some {d : Decoder} {i : Nat} (hi : d.newline? = some i) :
    d.line = if d.discarding then ({ d.skip (i + 1) with discarding := false }).line
      else (d.skip (i + 1), .ok (some (d.buffer.take i))) := by
  rw [line]
  split
  · next j hj =>
    cases hi.symm.trans hj
    rfl
  · next hnone => cases hi.symm.trans hnone

theorem line_of_none {d : Decoder} (hi : d.newline? = none) :
    d.line = if d.discarding then
        if d.buffer.length ≤ d.reach then (d.skip d.reach, .ok none) else (d.skip d.reach).line
      else if d.limit < d.buffer.length then
        ({ d with discarding := true }, .error (.tooLarge 0))
      else ({ d with scanned := d.reach }, .ok none) := by
  rw [line]
  split
  · next j hj => cases hi.symm.trans hj
  · rfl

/-- A decoder that discards drops the rest of its segment and goes on behind the newline, if that
has come. -/
theorem line_of_discarding {d : Decoder} (h : d.Sound) (hdiscarding : d.discarding = true) :
    (newline ∉ d.buffer ∧ d.line = ({ d with buffer := [], scanned := 0 }, .ok none)) ∨
    ∃ front rest, newline ∉ front ∧ d.buffer = front ++ newline :: rest ∧
      d.line = ({ d with buffer := rest, scanned := 0, discarding := false } : Decoder).line := by
  induction hlength : d.buffer.length using Nat.strongRecOn generalizing d with
  | _ length ih =>
    cases hi : d.newline? with
    | some i =>
      obtain ⟨-, hmem, hbuffer⟩ := newline_of_newline? h hi
      refine .inr ⟨_, _, hmem, hbuffer, ?_⟩
      rw [line_of_some hi, if_pos hdiscarding]
      rfl
    | none =>
      have hmem := not_mem_of_newline? h hi
      rw [line_of_none hi, if_pos hdiscarding]
      split
      · next hreach =>
        rw [List.take_of_length_le hreach] at hmem
        refine .inl ⟨hmem, ?_⟩
        rw [skip, List.drop_of_length_le hreach]
      · next hreach =>
        have hshorter : (d.skip d.reach).buffer.length < length := by
          simp only [skip, List.length_drop, reach] at hreach ⊢
          omega
        have hsplit := List.take_append_drop d.reach d.buffer
        rcases ih _ hshorter (d := d.skip d.reach) (sound_of_unscanned rfl) hdiscarding rfl with
          ⟨hrest, hline⟩ | ⟨front, rest, hfront, hrest, hline⟩
        · refine .inl ⟨?_, hline⟩
          rw [← hsplit, List.mem_append, not_or]
          exact ⟨hmem, hrest⟩
        · refine .inr ⟨d.buffer.take d.reach ++ front, rest, ?_, ?_, hline⟩
          · rw [List.mem_append, not_or]
            exact ⟨hmem, hfront⟩
          · rw [List.append_assoc, ← hrest]
            exact hsplit.symm

theorem line_suffix (d : Decoder) : d.line.1.buffer <:+ d.buffer := by
  fun_induction line d with
  | case1 d i hi hdiscarding ih => exact ih.trans (List.drop_suffix _ _)
  | case2 d i hi hdiscarding => exact List.drop_suffix _ _
  | case3 d hi hdiscarding hreach => exact List.drop_suffix _ _
  | case4 d hi hdiscarding hreach ih => exact ih.trans (List.drop_suffix _ _)
  | case5 | case6 => exact List.suffix_rfl

/-- A take has given the next segment or refused it, or has stopped as it may. -/
inductive Taken (f : Nat → Octets → List (Except FrameError Message)) (stop : Decoder → Prop)
    (tail : Octets) (d : Decoder) : Decoder × Except FrameError (Option Octets) → Prop
  | nothing {d'} (limit : d'.limit = d.limit) (sound : d'.Sound)
      (owed : f d.limit (d'.ahead tail) = f d.limit (d.ahead tail)) (stops : stop d') :
      Taken f stop tail d (d', .ok none)
  | line {l d'} (limit : d'.limit = d.limit) (sound : d'.Sound)
      (shorter : d'.buffer.length < d.buffer.length) (fits : l.length ≤ d.limit)
      (owed : f d.limit (d.ahead tail) =
        (outcome? d.limit l).toList ++ f d.limit (d'.ahead tail)) :
      Taken f stop tail d (d', .ok (some l))
  | refusal {d'} (limit : d'.limit = d.limit) (sound : d'.Sound) (less : d'.work < d.work)
      (owed : f d.limit (d.ahead tail) = .error (.tooLarge 0) :: f d.limit (d'.ahead tail)) :
      Taken f stop tail d (d', .error (.tooLarge 0))

variable {f : Nat → Octets → List (Except FrameError Message)} {stop : Decoder → Prop}
  {tail : Octets} {d d' : Decoder} {limit : Nat}

theorem ahead_of_discarding (h : d.discarding = true) :
    d.ahead tail = afterNewline (d.buffer ++ tail) := by
  rw [ahead, if_pos h]

theorem ahead_of_not_discarding (h : d.discarding = false) : d.ahead tail = d.buffer ++ tail := by
  simp only [ahead, h, Bool.false_eq_true, if_false]

theorem taken_line_of_not_discarding (hf : Segmental f) (tail : Octets) (h : d.Sound)
    (hdiscarding : d.discarding = false) : Taken f Rests tail d d.line := by
  have hahead : d.ahead tail = d.buffer ++ tail := ahead_of_not_discarding hdiscarding
  cases hi : d.newline? with
  | some i =>
    obtain ⟨hlimit, hmem, hbuffer⟩ := newline_of_newline? h hi
    rw [line_of_some hi, if_neg (by simp [hdiscarding])]
    refine .line rfl (sound_of_unscanned rfl) ?_ ?_ ?_
    · have hpos := List.length_pos_iff.mpr (buffer_ne_nil_of_newline? hi)
      simp only [skip, List.length_drop]
      omega
    · exact Nat.le_trans (List.length_take_le _ _) hlimit
    · have howed := hf.segment d.limit hmem (d.buffer.drop (i + 1) ++ tail)
      rw [← List.cons_append, ← List.append_assoc, ← hbuffer] at howed
      rw [hahead, howed]
      simp [ahead, skip, hdiscarding]
  | none =>
    have hmem := not_mem_of_newline? h hi
    rw [line_of_none hi, if_neg (by simp [hdiscarding])]
    by_cases hlong : d.limit < d.buffer.length
    · have hreach : d.reach = d.limit + 1 := by
        rw [reach]
        omega
      rw [hreach] at hmem
      rw [if_pos hlong]
      refine .refusal rfl ⟨h.within, h.scanned⟩ ?_ ?_
      · simp [work, hdiscarding]
      · have htake : newline ∉ (d.buffer ++ tail).take (d.limit + 1) := by
          rwa [List.take_append_of_le_length hlong]
        have hlength : d.limit < (d.buffer ++ tail).length := by
          rw [List.length_append]
          omega
        rw [hahead, hf.eq_tooLarge_cons htake hlength, ahead_of_discarding rfl]
    · have hreach : d.reach = d.buffer.length := by
        rw [reach]
        omega
      rw [hreach, List.take_length] at hmem
      rw [if_neg hlong]
      refine .nothing rfl ⟨?_, ?_⟩ rfl (.waiting hdiscarding hmem (Nat.le_of_not_lt hlong))
      · simp [hreach]
      · exact fun hn => hmem (List.mem_of_mem_take hn)

theorem taken_line (hf : Segmental f) (tail : Octets) (h : d.Sound) :
    Taken f Rests tail d d.line := by
  cases hdiscarding : d.discarding with
  | false => exact taken_line_of_not_discarding hf tail h hdiscarding
  | true =>
    have hahead : d.ahead tail = afterNewline (d.buffer ++ tail) := ahead_of_discarding hdiscarding
    rcases line_of_discarding h hdiscarding with ⟨hmem, hline⟩ | ⟨front, rest, hmem, hbuffer, hline⟩
    · rw [hline]
      refine .nothing rfl (sound_of_unscanned rfl) ?_ (.discarding hdiscarding rfl)
      rw [hahead, afterNewline_append hmem]
      simp [ahead, hdiscarding]
    · -- the decoder behind the newline has the same ahead and less work
      have hahead : d.ahead tail = rest ++ tail := by
        rw [hahead, hbuffer, List.append_assoc, List.cons_append, afterNewline_append_newline hmem]
      have hshorter : rest.length < d.buffer.length := by
        rw [hbuffer, List.length_append, List.length_cons]
        omega
      have htaken := taken_line_of_not_discarding hf tail (sound_of_unscanned rfl)
        (d := { d with buffer := rest, scanned := 0, discarding := false }) rfl
      rw [hline]
      generalize Decoder.line _ = r at htaken
      cases htaken with
      | nothing limit sound owed stops => exact .nothing limit sound (hahead ▸ owed) stops
      | line limit sound shorter fits owed =>
        exact .line limit sound (Nat.lt_trans shorter hshorter) fits (hahead ▸ owed)
      | refusal limit sound less owed =>
        exact .refusal limit sound (Nat.lt_trans less (work_lt_of_length_lt hshorter))
          (hahead ▸ owed)

/-- At the end of the stream what is left is a segment. -/
theorem taken_lastLine (hd : (account outcomes limit).sound d) :
    Taken outcomes (fun d' => outcomes limit (d'.ahead []) = []) [] d d.lastLine := by
  obtain ⟨rfl, h⟩ := hd
  have htaken := taken_line segmental_outcomes [] h
  have hsuffix := d.line_suffix
  rw [lastLine]
  generalize d.line = r at htaken hsuffix
  cases htaken with
  | line limit sound shorter fits owed => exact .line limit sound shorter fits owed
  | refusal limit sound less owed => exact .refusal limit sound less owed
  | @nothing d' limit sound owed rests =>
    dsimp only
    rw [← limit] at owed ⊢
    cases rests with
    | discarding hdiscarding hempty =>
      rw [if_pos (.inl hempty)]
      refine .nothing limit (sound_of_unscanned rfl) (limit ▸ owed) ?_
      simp only [ahead, hdiscarding, hempty, if_true, List.append_nil]
      exact segmental_outcomes.nil _
    | waiting hdiscarding hmem hfits =>
      have hlast : outcomes d'.limit (d'.ahead []) = (outcome? d'.limit d'.buffer).toList := by
        rw [ahead_of_not_discarding hdiscarding, List.append_nil, outcomes_of_not_mem _ hmem]
      split
      · next hblank =>
        refine .nothing limit (sound_of_unscanned rfl) (limit ▸ owed) ?_
        have hread : read d'.buffer = .ok none := by
          rcases hblank with hblank | hblank <;> rw [hblank] <;> rfl
        rw [outcome?, if_neg (Nat.not_lt.mpr hfits), hread] at hlast
        exact hlast
      · next hfilled =>
        have hpos : 0 < d'.buffer.length := List.length_pos_iff.mpr fun h => hfilled (.inl h)
        refine .line limit (sound_of_unscanned rfl) ?_ (limit ▸ hfits) ?_
        · simp only [skip, List.drop_length, List.length_nil]
          exact Nat.lt_of_lt_of_le hpos hsuffix.length_le
        · have hnil : (d'.skip d'.buffer.length).ahead [] = [] := by simp [ahead, skip, hdiscarding]
          rw [← limit, ← owed, hlast, hnil, segmental_outcomes.nil, List.append_nil]

/-! ## Calls -/

/-- A stream of lines is decoded to its end, past any error. -/
def decoding : Decoding Decoder where
  feed := feed
  decode := decode
  decodeEnd := decodeEnd
  halts _ := false

/-- Lines that carry nothing are passed over, so a call is as good as the take that ends it. -/
theorem call_message {take : Decoder → Decoder × Except FrameError (Option Octets)}
    (takes : ∀ d, (account f limit).sound d → Taken f stop tail d (take d)) {fuel : Nat}
    (hfuel : d.buffer.length < fuel) (hd : (account f limit).sound d) :
    decoding.Call (account f limit) stop tail d (message take fuel d) := by
  induction fuel generalizing d with
  | zero => exact absurd hfuel (Nat.not_lt_zero _)
  | succ fuel ih =>
    have htaken := takes d hd
    obtain ⟨rfl, -⟩ := hd
    rw [message]
    generalize take d = r at htaken
    cases htaken with
    | nothing limit sound owed stops => exact .nothing ⟨limit, sound⟩ owed stops
    | refusal limit sound less owed => exact .error rfl ⟨limit, sound⟩ owed less
    | @line l d₁ limit sound shorter fits owed =>
      have less := work_lt_of_length_lt shorter
      rw [outcome?, if_neg (Nat.not_lt.mpr fits)] at owed
      dsimp only
      generalize read l = r at owed
      match r with
      | .ok none => exact (ih (by omega) ⟨limit, sound⟩).of_owed_eq owed (Nat.le_of_lt less)
      | .ok (some m) => exact .message ⟨limit, sound⟩ owed less
      | .error e => exact .error rfl ⟨limit, sound⟩ owed less

/-- However the octets come, each call gives the first of what the stream still carries. -/
theorem keeps (hf : Segmental f) (limit : Nat) : decoding.Keeps (account f limit) Rests where
  feed _ s h := ⟨h.1, h.2.feed s⟩
  owed_feed d s tail := by simp [account, ahead, decoding, Decoder.feed]
  decode tail _ hd := call_message (fun _ hd => taken_line hf tail hd.2) (Nat.lt_succ_self _) hd

theorem settles (limit : Nat) : decoding.Settles (account outcomes limit) :=
  fun _ hd => call_message (fun _ => taken_lastLine) (Nat.lt_succ_self _) hd

theorem Rests.outcomesSoFar_ahead (h : Rests d) : outcomesSoFar d.limit (d.ahead []) = [] := by
  cases h with
  | discarding hdiscarding hempty =>
    rw [ahead_of_discarding hdiscarding, hempty]
    exact segmental_outcomesSoFar.nil _
  | waiting hdiscarding hmem hfits =>
    rw [ahead_of_not_discarding hdiscarding, List.append_nil, outcomesSoFar_of_not_mem _ hmem,
      if_neg (Nat.not_lt.mpr hfits)]

theorem rests_new (limit : Nat) : Rests { limit } :=
  .waiting rfl List.not_mem_nil (Nat.zero_le _)

/-- What the chunks gave and the decoder they leave are right for any tail that may come. -/
theorem exists_feeds (hf : Segmental f) (limit : Nat) (chunks : List Octets) :
    ∃ rs d, decoding.Feeds { limit } chunks rs false d ∧ d.limit = limit ∧ Rests d ∧
      ∀ tail, f limit (chunks.flatten ++ tail) = rs ++ f limit (d.ahead tail) := by
  obtain ⟨rs, halted, d, feeds, leaves⟩ :=
    (keeps hf limit).exists_feeds ⟨rfl, sound_of_unscanned rfl⟩ (rests_new limit) chunks
  cases feeds.eq_false_of_goes fun _ => rfl
  exact ⟨rs, d, feeds, (leaves []).1.1, (leaves []).2.1, fun tail => (leaves tail).2.2⟩

theorem feeds_iff {limit : Nat} {chunks : List Octets} {rs : List (Except FrameError Message)} :
    (∃ d, decoding.Feeds { limit } chunks rs false d) ↔
      rs = outcomesSoFar limit chunks.flatten := by
  obtain ⟨rs', d', feeds', rfl, rests, howed⟩ := exists_feeds segmental_outcomesSoFar limit chunks
  have hrs := howed []
  rw [rests.outcomesSoFar_ahead, List.append_nil, List.append_nil] at hrs
  rw [hrs]
  constructor
  · rintro ⟨d, feeds⟩
    exact (feeds.unique feeds').1
  · rintro rfl
    exact ⟨d', feeds'⟩

theorem reads_iff {limit : Nat} {chunks : List Octets} {rs : List (Except FrameError Message)} :
    decoding.Reads { limit } chunks rs ↔ rs = outcomes limit chunks.flatten :=
  (keeps segmental_outcomes limit).reads_iff (settles limit) ⟨rfl, sound_of_unscanned rfl⟩
    (rests_new limit)

/-- However a stream is cut into chunks, the calls on them and then at the end give what the stream
carries, and those on the chunks alone have given all that the stream has shown by then. -/
theorem gives_outcomes (limit : Nat) (chunks : List Octets)
    (rs : List (Except FrameError Message)) :
    (decoding.Reads { limit } chunks rs ↔ rs = outcomes limit chunks.flatten) ∧
    ((∃ d, decoding.Feeds { limit } chunks rs false d) ↔
      rs = outcomesSoFar limit chunks.flatten) :=
  ⟨reads_iff, feeds_iff⟩

end Decoder

end Switchboard.Lines
