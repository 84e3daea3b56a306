-- SUMMARY: The reader takes back every canonical value from its compact and from its indented text.
import Switchboard.Proofs.Json.Layout

/-!
# Reading what was written

Every reader of this library leaves what follows its value untouched. `Takes` says
so for one text: whatever comes next, unless it could go on with a number, is still
there when the value has been read. A reader of items that takes each of them takes
the array (`array_layout`), and one that takes each member takes the object; the
induction over a canonical value puts them together (`takes_layout`).
-/

namespace Switchboard.Json

namespace Reader

open Text

variable {α : Type} {item : Octets → Except Fault (α × Octets)}

/-- The reader takes the text off every document and returns `x`, unless what follows could go on
with a number. -/
def Takes (item : Octets → Except Fault (α × Octets)) (text : Octets) (x : α) : Prop :=
  ∀ rest, EndsNumber rest → item (text ++ rest) = .ok (x, rest)

/-! ## Blanks -/

theorem skipBlanks_append {bs : Octets} (h : ∀ b ∈ bs, isBlank b) (rest : Octets) :
    skipBlanks (bs ++ rest) = skipBlanks rest :=
  List.dropWhile_append_of_pos h

theorem skipBlanks_cons {b : UInt8} (h : isBlank b = false) (s : Octets) :
    skipBlanks (b :: s) = b :: s := by
  simp [skipBlanks, h]

theorem valueWith_append {bs : Octets} (h : ∀ b ∈ bs, isBlank b)
    (nested : Option (Octets → Except Fault (Json × Octets))) (rest : Octets) :
    valueWith nested (bs ++ rest) = valueWith nested rest := by
  rw [valueWith, skipBlanks_append h, valueWith]

theorem value_append {bs : Octets} (h : ∀ b ∈ bs, isBlank b) (levels : Nat) (rest : Octets) :
    value levels (bs ++ rest) = value levels rest := by
  cases levels with
  | zero => exact valueWith_append h none rest
  | succ levels => exact valueWith_append h (some (value levels)) rest

theorem endsNumber_cons {b : UInt8} (s : Octets)
    (h : isDigit b = false ∧ ascii b ≠ '.' ∧ ascii b ≠ 'e' ∧ ascii b ≠ 'E') : EndsNumber (b :: s) := by
  intro c t hs
  obtain ⟨rfl, -⟩ := List.cons.inj hs
  exact h

theorem endsNumber_of_isBlank {b : UInt8} (h : isBlank b) (s : Octets) : EndsNumber (b :: s) := by
  simp only [isBlank, Bool.or_eq_true, beq_iff_eq] at h
  obtain ((rfl | rfl) | rfl) | rfl := h <;> exact endsNumber_cons s (by decide)

theorem EndsNumber.append {bs rest : Octets} (h : ∀ b ∈ bs, isBlank b) (hrest : EndsNumber rest) :
    EndsNumber (bs ++ rest) := by
  cases bs with
  | nil => exact hrest
  | cons b bs => exact endsNumber_of_isBlank (h b List.mem_cons_self) (bs ++ rest)

/-! ## Around a member -/

theorem colon_cons (s : Octets) : colon (0x3a :: s) = .ok s := rfl

theorem closeObject_cons (s : Octets) : closeObject (0x7d :: s) = .ok s := rfl

theorem keyAfterComma_cons (s : Octets) : keyAfterComma (0x22 :: s) = .ok s := rfl

theorem keyAfterComma_append {bs : Octets} (h : ∀ b ∈ bs, isBlank b) (rest : Octets) :
    keyAfterComma (bs ++ rest) = keyAfterComma rest := by
  rw [keyAfterComma, skipBlanks_append h, keyAfterComma]

theorem member_append {k : String} {x : α} {text rest : Octets} (hread : item text = .ok (x, rest)) :
    member item (quotedOctets k.toList ++ 0x22 :: 0x3a :: text) = .ok ((k, x), rest) := by
  simp only [member, string_append, colon_cons, hread, bind, Except.bind, pure, Except.pure]

/-! ## Where a value starts -/

/-- The text starts with an octet that is neither blank nor the end of an array. -/
def Starts (text : Octets) : Prop := ∃ b t, text = b :: t ∧ isBlank b = false ∧ ascii b ≠ ']'

theorem Starts.append {text : Octets} (h : Starts text) (rest : Octets) :
    ∃ b t, text ++ rest = b :: t ∧ isBlank b = false ∧ ascii b ≠ ']' := by
  obtain ⟨b, t, rfl, hb⟩ := h
  exact ⟨b, t ++ rest, rfl, hb⟩

theorem starts_of_isDigit {c : Char} (h : c.isDigit) (cs : List Char) : Starts (plainOctets (c :: cs)) := by
  have hd := isDigit_ofNat h
  refine ⟨UInt8.ofNat c.toNat, plainOctets cs, rfl, ?_, ?_⟩
  · rw [Bool.eq_false_iff]
    intro hb
    have hends := (endsNumber_of_isBlank hb [] _ _ rfl).1
    rw [hd] at hends
    cases hends
  · rw [ascii_ofNat (toNat_lt_of_isDigit h)]
    rintro rfl
    exact absurd h (by decide)

theorem valueWith_digits {c : Char} (h : c.isDigit)
    (nested : Option (Octets → Except Fault (Json × Octets))) (cs : List Char) (rest : Octets) :
    valueWith nested (plainOctets (c :: cs) ++ rest) =
      (number false (plainOctets (c :: cs) ++ rest)).map fun r => (.num r.1, r.2) := by
  have hlt := toNat_lt_of_isDigit h
  have hd := isDigit_ofNat h
  obtain ⟨b, t, hbt, hblank, -⟩ := starts_of_isDigit h cs
  obtain ⟨rfl, rfl⟩ := List.cons.inj hbt
  rw [plainOctets_cons, List.cons_append, valueWith, skipBlanks_cons hblank]
  simp only [ascii_ofNat hlt, hd, if_true]
  -- no other branch is for a digit
  split <;> first | rfl | exact absurd h (by decide)

end Reader

/-! ## Scalars -/

section Scalars

open Reader Text

variable (nested : Option (Octets → Except Fault (Json × Octets)))

theorem octets_token {n : JsonNumber} {negative : Bool} {w f e : List Char}
    (hw : JsonNumber.IsWhole w) (hf : JsonNumber.IsFraction f) (he : JsonNumber.IsExponent e)
    (hn : n.token = String.ofList (JsonNumber.signOf negative ++ w ++ f ++ e)) :
    octets n.token = plainOctets (JsonNumber.signOf negative) ++ plainOctets (w ++ f ++ e) := by
  have hplain : ∀ c ∈ JsonNumber.signOf negative ++ w ++ f ++ e, c.toNat < 0x80 :=
    fun c hc => (JsonNumber.isMark_of_mem_numeral hw hf he c hc).bounds.2
  rw [hn, octets_ofList_of_plain hplain, ← plainOctets_append]
  simp only [List.append_assoc]

theorem exists_digit_of_isWhole {w : List Char} (h : JsonNumber.IsWhole w) :
    ∃ c cs, w = c :: cs ∧ c.isDigit := by
  obtain rfl | ⟨c, ds, rfl, hc, -⟩ := h
  · exact ⟨'0', [], rfl, by decide⟩
  · exact ⟨c, ds, rfl, hc⟩

theorem starts_token {n : JsonNumber} (h : n.IsNumeral) : Starts (octets n.token) := by
  obtain ⟨negative, w, f, e, hw, hf, he, hn⟩ := h
  rw [octets_token hw hf he hn]
  cases negative with
  | true => exact ⟨0x2d, _, rfl, by decide, by decide⟩
  | false =>
    obtain ⟨c, cs, rfl, hc⟩ := exists_digit_of_isWhole hw
    exact starts_of_isDigit hc _

theorem takes_token {n : JsonNumber} (h : n.IsNumeral) :
    Takes (valueWith nested) (octets n.token) (.num n) := by
  intro rest hrest
  obtain ⟨negative, w, f, e, hw, hf, he, hn⟩ := h
  have hnumber := @number_append negative _ _ _ _ hw hf he hrest
  rw [← hn] at hnumber
  rw [octets_token hw hf he hn]
  cases negative with
  | true =>
    have hminus : ascii 0x2d = '-' := by decide
    have hblank : isBlank 0x2d = false := by decide
    change valueWith nested (0x2d :: (plainOctets (w ++ f ++ e) ++ rest)) = _
    simp only [valueWith, skipBlanks_cons hblank, hminus, hnumber, Except.map]
  | false =>
    obtain ⟨c, cs, rfl, hc⟩ := exists_digit_of_isWhole hw
    change valueWith nested (plainOctets (c :: (cs ++ f ++ e)) ++ rest) = _
    rw [valueWith_digits hc]
    change (number false (plainOctets (c :: cs ++ f ++ e) ++ rest)).map _ = _
    rw [hnumber]
    rfl

theorem takes_null : Takes (valueWith nested) (octets "null") .null := by
  intro rest _
  have h : octets "null" = [0x6e, 0x75, 0x6c, 0x6c] := by decide
  rw [h]
  rfl

theorem takes_boolText (b : Bool) : Takes (valueWith nested) (octets (boolText b)) (.bool b) := by
  intro rest _
  have htrue : octets "true" = [0x74, 0x72, 0x75, 0x65] := by decide
  have hfalse : octets "false" = [0x66, 0x61, 0x6c, 0x73, 0x65] := by decide
  cases b with
  | true =>
    change valueWith nested (octets "true" ++ rest) = _
    rw [htrue]
    rfl
  | false =>
    change valueWith nested (octets "false" ++ rest) = _
    rw [hfalse]
    rfl

theorem takes_quote (s : String) : Takes (valueWith nested) (octets (quote s)) (.str s) := by
  intro rest _
  have hquote : ascii 0x22 = '"' := by decide
  have hblank : isBlank 0x22 = false := by decide
  have hstring := string_append s rest
  rw [octets_quote, List.cons_append, List.append_assoc, List.singleton_append]
  simp only [valueWith, skipBlanks_cons hblank, hquote, hstring, Except.map]

end Scalars

/-! ## Containers -/

section Containers

open Reader Text

variable {σ : Spacing} {depth : Nat} {item : Octets → Except Fault (Json × Octets)}

theorem octets_layoutItems_nil :
    octets (layoutItems σ depth []) = octets (σ.gap depth) ++ [0x5d] := by
  have h : octets "]" = [0x5d] := by decide
  rw [layoutItems, octets_append, h]

theorem octets_layoutItems_cons (x : Json) (xs : List Json) :
    octets (layoutItems σ depth (x :: xs)) =
      0x2c :: (octets (σ.gap (depth + 1)) ++ (octets (x.layout σ (depth + 1))
        ++ octets (layoutItems σ depth xs))) := by
  have h : octets "," = [0x2c] := by decide
  simp only [layoutItems, octets_append, h, List.append_assoc, List.cons_append, List.nil_append]

theorem octets_layout_arr (x : Json) (xs : List Json) :
    octets ((Json.arr (x :: xs)).layout σ depth) =
      0x5b :: (octets (σ.gap (depth + 1)) ++ (octets (x.layout σ (depth + 1))
        ++ octets (layoutItems σ depth xs))) := by
  have h : octets "[" = [0x5b] := by decide
  simp only [layout, octets_append, h, List.append_assoc, List.cons_append, List.nil_append]

theorem octets_layoutMembers_nil :
    octets (layoutMembers σ depth []) = octets (σ.gap depth) ++ [0x7d] := by
  have h : octets "\x7d" = [0x7d] := by decide
  rw [layoutMembers, octets_append, h]

/-- The octets of a member from the opening quote of its key on, and what follows the member. -/
def memberOctets (σ : Spacing) (depth : Nat) (k : String) (v : Json) (rest : Octets) : Octets :=
  quotedOctets k.toList ++ 0x22 :: 0x3a :: (octets σ.afterColon
    ++ (octets (v.layout σ (depth + 1)) ++ rest))

theorem octets_layoutMembers_cons (k : String) (v : Json) (ms : Keyed Json) :
    octets (layoutMembers σ depth ((k, v) :: ms)) =
      0x2c :: (octets (σ.gap (depth + 1)) ++ 0x22 ::
        memberOctets σ depth k v (octets (layoutMembers σ depth ms))) := by
  have hcomma : octets "," = [0x2c] := by decide
  have hcolon : octets ":" = [0x3a] := by decide
  simp only [layoutMembers, octets_append, hcomma, hcolon, octets_quote, memberOctets,
    List.append_assoc, List.cons_append, List.nil_append]

theorem octets_layout_obj (k : String) (v : Json) (ms : Keyed Json) :
    octets ((Json.obj ((k, v) :: ms)).layout σ depth) =
      0x7b :: (octets (σ.gap (depth + 1)) ++ 0x22 ::
        memberOctets σ depth k v (octets (layoutMembers σ depth ms))) := by
  have hbrace : octets "\x7b" = [0x7b] := by decide
  have hcolon : octets ":" = [0x3a] := by decide
  simp only [layout, octets_append, hbrace, hcolon, octets_quote, memberOctets,
    List.append_assoc, List.cons_append, List.nil_append]

theorem memberOctets_append (k : String) (v : Json) (s rest : Octets) :
    memberOctets σ depth k v s ++ rest = memberOctets σ depth k v (s ++ rest) := by
  simp only [memberOctets, List.append_assoc, List.cons_append]

theorem starts_layout {v : Json} (hv : v.Canonical) : Starts (octets (v.layout σ depth)) := by
  cases hv with
  | null => exact ⟨0x6e, [0x75, 0x6c, 0x6c], by simp only [layout]; decide, by decide, by decide⟩
  | bool b =>
    cases b with
    | true => exact ⟨0x74, [0x72, 0x75, 0x65], by simp only [layout]; decide, by decide, by decide⟩
    | false =>
      exact ⟨0x66, [0x61, 0x6c, 0x73, 0x65], by simp only [layout]; decide, by decide, by decide⟩
  | num h =>
    simp only [layout]
    exact starts_token h
  | str s =>
    simp only [layout, octets_quote]
    exact ⟨0x22, _, rfl, by decide, by decide⟩
  | @arr xs _ =>
    cases xs with
    | nil => exact ⟨0x5b, [0x5d], by simp only [layout]; decide, by decide, by decide⟩
    | cons x xs =>
      rw [octets_layout_arr]
      exact ⟨0x5b, _, rfl, by decide, by decide⟩
  | @obj ms _ _ =>
    cases ms with
    | nil => exact ⟨0x7b, [0x7d], by simp only [layout]; decide, by decide, by decide⟩
    | cons e ms =>
      obtain ⟨k, v⟩ := e
      rw [octets_layout_obj]
      exact ⟨0x7b, _, rfl, by decide, by decide⟩

theorem endsNumber_layoutItems (hσ : σ.Blank) (depth : Nat) (xs : List Json) (rest : Octets) :
    EndsNumber (octets (layoutItems σ depth xs) ++ rest) := by
  cases xs with
  | nil =>
    rw [octets_layoutItems_nil, List.append_assoc]
    exact .append (hσ.gap depth) (endsNumber_cons rest (by decide))
  | cons x xs =>
    rw [octets_layoutItems_cons, List.cons_append]
    exact endsNumber_cons _ (by decide)

theorem endsNumber_layoutMembers (hσ : σ.Blank) (depth : Nat) (ms : Keyed Json) (rest : Octets) :
    EndsNumber (octets (layoutMembers σ depth ms) ++ rest) := by
  cases ms with
  | nil =>
    rw [octets_layoutMembers_nil, List.append_assoc]
    exact .append (hσ.gap depth) (endsNumber_cons rest (by decide))
  | cons e ms =>
    obtain ⟨k, v⟩ := e
    rw [octets_layoutMembers_cons, List.cons_append]
    exact endsNumber_cons _ (by decide)

theorem moreItems_layout (hσ : σ.Blank) {xs : List Json} (hstarts : ∀ x ∈ xs, x.Canonical)
    (hitem : ∀ x ∈ xs, Takes item (octets (x.layout σ (depth + 1))) x) (rest : Octets) :
    ∀ fuel, xs.length < fuel →
      moreItems item fuel (octets (layoutItems σ depth xs) ++ rest) = .ok (xs, rest) := by
  have hcomma : ascii 0x2c = ',' := by decide
  have hclose : ascii 0x5d = ']' := by decide
  have hne : ',' ≠ ']' := by decide
  have hblank : isBlank 0x2c = false := by decide
  have hend : isBlank 0x5d = false := by decide
  induction xs with
  | nil =>
    intro fuel hfuel
    cases fuel with
    | zero => cases hfuel
    | succ fuel =>
      rw [octets_layoutItems_nil, List.append_assoc, List.singleton_append]
      simp only [moreItems, skipBlanks_append (hσ.gap depth), skipBlanks_cons hend, hclose, if_true]
  | cons x xs ih =>
    intro fuel hfuel
    cases fuel with
    | zero => cases hfuel
    | succ fuel =>
      obtain ⟨hx, hxs⟩ := List.forall_mem_cons.mp hstarts
      obtain ⟨htakes, hmore⟩ := List.forall_mem_cons.mp hitem
      have hread := htakes _ (endsNumber_layoutItems hσ depth xs rest)
      have hrest := ih hxs hmore fuel (Nat.lt_of_succ_lt_succ hfuel)
      obtain ⟨b, t, hbt, hb, hopen⟩ :=
        (starts_layout hx).append (octets (layoutItems σ depth xs) ++ rest)
      rw [hbt] at hread
      rw [octets_layoutItems_cons, List.cons_append, List.append_assoc, List.append_assoc, moreItems]
      simp only [skipBlanks_cons hblank, hcomma, hne, if_false, if_true,
        skipBlanks_append (hσ.gap (depth + 1)), hbt, skipBlanks_cons hb, hopen, hread, hrest, bind,
        Except.bind, pure, Except.pure]

theorem moreMembers_layout (hσ : σ.Blank) {ms : Keyed Json}
    (hitem : ∀ e ∈ ms, Takes item (octets σ.afterColon ++ octets (e.2.layout σ (depth + 1))) e.2)
    (rest : Octets) :
    ∀ fuel, ms.length < fuel →
      moreMembers item fuel (octets (layoutMembers σ depth ms) ++ rest) = .ok (ms, rest) := by
  have hcomma : ascii 0x2c = ',' := by decide
  have hclose : ascii 0x7d = '\x7d' := by decide
  have hne : ',' ≠ '\x7d' := by decide
  have hblank : isBlank 0x2c = false := by decide
  have hend : isBlank 0x7d = false := by decide
  induction ms with
  | nil =>
    intro fuel hfuel
    cases fuel with
    | zero => cases hfuel
    | succ fuel =>
      rw [octets_layoutMembers_nil, List.append_assoc, List.singleton_append]
      simp only [moreMembers, skipBlanks_append (hσ.gap depth), skipBlanks_cons hend, hclose, if_true]
  | cons e ms ih =>
    obtain ⟨k, v⟩ := e
    intro fuel hfuel
    cases fuel with
    | zero => cases hfuel
    | succ fuel =>
      obtain ⟨htakes, hmore⟩ := List.forall_mem_cons.mp hitem
      have hread := htakes _ (endsNumber_layoutMembers hσ depth ms rest)
      have hrest := ih hmore fuel (Nat.lt_of_succ_lt_succ hfuel)
      rw [List.append_assoc] at hread
      have hmember := member_append (k := k) hread
      rw [octets_layoutMembers_cons, List.cons_append, List.append_assoc, List.cons_append,
        memberOctets_append, moreMembers]
      simp only [skipBlanks_cons hblank, hcomma, hne, if_false, if_true,
        keyAfterComma_append (hσ.gap (depth + 1)), keyAfterComma_cons, memberOctets, hmember, hrest,
        bind, Except.bind, pure, Except.pure]

theorem length_le_layoutItems (σ : Spacing) (depth : Nat) (xs : List Json) :
    xs.length ≤ (octets (layoutItems σ depth xs)).length := by
  induction xs with
  | nil => exact Nat.zero_le _
  | cons x xs ih =>
    rw [octets_layoutItems_cons]
    simp only [List.length_cons, List.length_append]
    omega

theorem length_le_layoutMembers (σ : Spacing) (depth : Nat) (ms : Keyed Json) :
    ms.length ≤ (octets (layoutMembers σ depth ms)).length := by
  induction ms with
  | nil => exact Nat.zero_le _
  | cons e ms ih =>
    obtain ⟨k, v⟩ := e
    rw [octets_layoutMembers_cons]
    simp only [memberOctets, List.length_cons, List.length_append]
    omega

theorem array_layout (hσ : σ.Blank) (depth : Nat) {x : Json} {xs : List Json}
    (hstarts : ∀ y ∈ x :: xs, y.Canonical)
    (hitem : ∀ y ∈ x :: xs, Takes item (octets (y.layout σ (depth + 1))) y) (rest : Octets) :
    array item (octets (σ.gap (depth + 1)) ++ (octets (x.layout σ (depth + 1))
      ++ (octets (layoutItems σ depth xs) ++ rest))) = .ok (x :: xs, rest) := by
  obtain ⟨hx, hxs⟩ := List.forall_mem_cons.mp hstarts
  obtain ⟨htakes, hmore⟩ := List.forall_mem_cons.mp hitem
  have hread := htakes _ (endsNumber_layoutItems hσ depth xs rest)
  have hfuel : xs.length < (octets (layoutItems σ depth xs) ++ rest).length + 1 := by
    have h := length_le_layoutItems σ depth xs
    rw [List.length_append]
    omega
  have hrest := moreItems_layout hσ hxs hmore rest _ hfuel
  obtain ⟨b, t, hbt, hb, hopen⟩ :=
    (starts_layout hx).append (octets (layoutItems σ depth xs) ++ rest)
  rw [hbt] at hread
  simp only [array, skipBlanks_append (hσ.gap (depth + 1)), hbt, skipBlanks_cons hb, hopen, if_false,
    hread, hrest, bind, Except.bind, pure, Except.pure]

/-- The members may stand in any order. -/
theorem object_layout (hσ : σ.Blank) (depth : Nat) {k : String} {v : Json} {ms : Keyed Json}
    (hk : k ≠ JsonNumber.reservedKey)
    (hitem : ∀ e ∈ (k, v) :: ms,
      Takes item (octets σ.afterColon ++ octets (e.2.layout σ (depth + 1))) e.2) (rest : Octets) :
    object item (octets (σ.gap (depth + 1)) ++ 0x22 :: memberOctets σ depth k v
      (octets (layoutMembers σ depth ms) ++ rest)) = .ok (.ofMembers ((k, v) :: ms), rest) := by
  have hquote : ascii 0x22 = '"' := by decide
  have hne : '"' ≠ '\x7d' := by decide
  have hkey : isBlank 0x22 = false := by decide
  obtain ⟨htakes, hmore⟩ := List.forall_mem_cons.mp hitem
  have hread := htakes _ (endsNumber_layoutMembers hσ depth ms rest)
  rw [List.append_assoc] at hread
  have hfuel : ms.length < (octets (layoutMembers σ depth ms) ++ rest).length + 1 := by
    have h := length_le_layoutMembers σ depth ms
    rw [List.length_append]
    omega
  have hrest := moreMembers_layout hσ hmore rest _ hfuel
  simp only [object, skipBlanks_append (hσ.gap (depth + 1)), skipBlanks_cons hkey, hquote, hne,
    if_false, if_true, memberOctets, string_append, colon_cons, hk, hread, hrest, bind, Except.bind,
    pure, Except.pure]

end Containers

/-! ## Values and documents -/

open Reader Text

theorem takes_value_scalar {levels : Nat} {text : Octets} {v : Json}
    (h : ∀ nested, Takes (valueWith nested) text v) : Takes (value levels) text v := by
  cases levels with
  | zero => exact h none
  | succ levels => exact h (some (value levels))

/-- The reader takes an object whose members it takes, in any order. -/
theorem takes_layout_obj {σ : Spacing} (hσ : σ.Blank) (depth : Nat) {ms : List (String × Json)}
    {levels : Nat} (hkeys : ∀ e ∈ ms, e.1 ≠ JsonNumber.reservedKey)
    (hvalues : ∀ e ∈ ms, Takes (value levels) (octets (e.2.layout σ (depth + 1))) e.2) :
    Takes (value (levels + 1)) (octets ((Json.obj ms).layout σ depth)) (.ofMembers ms) := by
  have hbrace : ascii 0x7b = '\x7b' := by decide
  have hblank : isBlank 0x7b = false := by decide
  have hitem : ∀ e ∈ ms,
      Takes (value levels) (octets σ.afterColon ++ octets (e.2.layout σ (depth + 1))) e.2 := by
    intro e he rest hrest
    rw [List.append_assoc, value_append hσ.afterColon]
    exact hvalues e he rest hrest
  intro rest _
  cases ms with
  | nil =>
    have h : octets "\x7b\x7d" = [0x7b, 0x7d] := by decide
    rw [layout, h]
    rfl
  | cons e ms =>
    obtain ⟨k, v⟩ := e
    have hobject := object_layout hσ depth (hkeys _ List.mem_cons_self) hitem rest
    rw [octets_layout_obj, List.cons_append, List.append_assoc, List.cons_append,
      memberOctets_append]
    simp only [value, valueWith, skipBlanks_cons hblank, hbrace, hobject]

/-- The reader takes a canonical value that is laid out with blanks, unless an object in it has the
reserved key or it nests too deep. -/
theorem takes_layout {σ : Spacing} (hσ : σ.Blank) {v : Json} (hv : v.Canonical)
    (hkey : ¬v.HasKey JsonNumber.reservedKey) {levels depth : Nat} (hdeep : v.nesting ≤ levels) :
    Takes (value levels) (octets (v.layout σ depth)) v := by
  induction hv generalizing levels depth with
  | null =>
    rw [layout]
    exact takes_value_scalar fun nested => takes_null nested
  | bool b =>
    rw [layout]
    exact takes_value_scalar fun nested => takes_boolText nested b
  | num h =>
    rw [layout]
    exact takes_value_scalar fun nested => takes_token nested h
  | str s =>
    rw [layout]
    exact takes_value_scalar fun nested => takes_quote nested s
  | @arr xs hxs ih =>
    cases levels with
    | zero => cases hdeep
    | succ levels =>
    rw [nesting_arr_le_iff] at hdeep
    have hbracket : ascii 0x5b = '[' := by decide
    have hblank : isBlank 0x5b = false := by decide
    have hitem : ∀ x ∈ xs, Takes (value levels) (octets (x.layout σ (depth + 1))) x :=
      fun x hx => ih x hx (fun h => hkey (.item hx h)) (hdeep x hx)
    intro rest _
    cases xs with
    | nil =>
      have h : octets "[]" = [0x5b, 0x5d] := by decide
      rw [layout, h]
      rfl
    | cons x xs =>
      have harray := array_layout hσ depth hxs hitem rest
      rw [octets_layout_arr, List.cons_append, List.append_assoc, List.append_assoc]
      simp only [value, valueWith, skipBlanks_cons hblank, hbracket, harray, Except.map]
  | @obj ms hsorted hms ih =>
    cases levels with
    | zero => cases hdeep
    | succ levels =>
    rw [nesting_obj_le_iff] at hdeep
    have hkeys : ∀ e ∈ ms, e.1 ≠ JsonNumber.reservedKey := by
      rintro ⟨k, v⟩ he rfl
      exact hkey (.here he)
    have htakes := takes_layout_obj hσ depth hkeys fun e he =>
      ih e he (fun h => hkey (.member he h)) (hdeep e he)
    rwa [ofMembers, Keyed.ofList_of_sorted hsorted] at htakes

/-- A document that the reader takes whole. -/
theorem document_of_takes {α : Type} {read : Octets → Except Fault (α × Octets)} {doc : Octets} {x : α}
    (h : Takes read doc x) : document read doc = .ok x := by
  have hend : EndsNumber [] := fun _ _ h => by cases h
  have hread := h [] hend
  rw [List.append_nil] at hread
  simp only [document, hread, bind, Except.bind, pure, Except.pure]
  rfl

theorem read?_layout {σ : Spacing} (hσ : σ.Blank) {v : Json} (hv : v.Canonical)
    (hkey : ¬v.HasKey JsonNumber.reservedKey) (hdeep : v.nesting ≤ maxNesting) (depth : Nat) :
    read? (octets (v.layout σ depth)) = .ok v :=
  document_of_takes (takes_layout hσ hv hkey hdeep)

theorem read?_compact {v : Json} (hv : v.Canonical) (hkey : ¬v.HasKey JsonNumber.reservedKey)
    (hdeep : v.nesting ≤ maxNesting) : read? (octets v.compact) = .ok v := by
  rw [compact_eq_layout 0]
  exact read?_layout Spacing.blank_compact hv hkey hdeep 0

theorem read?_pretty {v : Json} (hv : v.Canonical) (hkey : ¬v.HasKey JsonNumber.reservedKey)
    (hdeep : v.nesting ≤ maxNesting) : read? (octets v.pretty) = .ok v := by
  rw [pretty, prettyAt_eq_layout]
  exact read?_layout Spacing.blank_pretty hv hkey hdeep 0

end Switchboard.Json
