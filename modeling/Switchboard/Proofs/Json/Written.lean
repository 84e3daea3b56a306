-- SUMMARY: What is read is canonical, and every key of a value that was read is written in its document.
import Mathlib.Data.List.Forall2
import Switchboard.Proofs.Except
import Switchboard.Proofs.Json.Canonical

/-!
# What a document writes

A value does not show all that its document writes: repeated keys leave no trace,
and an object may be taken for a number. `Reader.written` reads a value as it is
written, objects with all of their members in the order of the document. A document
that has a value writes one (`value_follows`), the keys of the value are among
those written, and the value is canonical and nests no deeper than the reader goes.
-/

namespace Switchboard.Json

namespace Reader

/-! ## Values as written -/

/-- A value as it is written: an object has its members in the order of the document, and none of
them makes it a number. -/
def writtenWith (nested : Option (Octets → Except Fault (Json × Octets))) (s : Octets) :
    Except Fault (Json × Octets) :=
  match skipBlanks s, nested with
  | b :: t, some item =>
    if Text.ascii b = '\x7b' then (members item t).map fun r => (.obj r.1, r.2)
    else valueWith nested s
  | _, _ => valueWith nested s

/-- A value as it is written that nests at most so many levels deep. -/
def written : (levels : Nat) → Octets → Except Fault (Json × Octets)
  | 0 => writtenWith none
  | levels + 1 => writtenWith (some (written levels))

end Reader

/-- Some object of the document has the key, as written. -/
def WritesKey (key : String) (doc : Octets) : Prop :=
  ∃ v, Reader.document (Reader.written Reader.maxNesting) doc = .ok v ∧ v.HasKey key

namespace Reader

/-- `v` is what the reader makes of the value `w` that the document writes. -/
structure Stands (levels : Nat) (v w : Json) : Prop where
  canonical : v.Canonical
  nesting : v.nesting ≤ levels
  hasKey : ∀ key, v.HasKey key → w.HasKey key

theorem Stands.scalar {levels : Nat} {v w : Json} (hv : v.Canonical) (hdeep : v.nesting = 0)
    (hkey : ∀ key, ¬v.HasKey key) : Stands levels v w where
  canonical := hv
  nesting := by
    rw [hdeep]
    exact Nat.zero_le levels
  hasKey key h := absurd h (hkey key)

theorem Stands.num {levels : Nat} {n : JsonNumber} (h : n.IsNumeral) (w : Json) :
    Stands levels (.num n) w :=
  .scalar (.num h) rfl (by rintro key ⟨⟩)

theorem exists_of_forall₂ {α β : Type} {P : α → β → Prop} {xs : List α} {ys : List β}
    (h : List.Forall₂ P xs ys) {x : α} (hx : x ∈ xs) : ∃ y ∈ ys, P x y := by
  induction h with
  | nil => cases hx
  | cons hxy _ ih =>
    rcases List.mem_cons.mp hx with rfl | hx
    · exact ⟨_, List.mem_cons_self, hxy⟩
    · obtain ⟨y, hy, hxy⟩ := ih hx
      exact ⟨y, List.mem_cons_of_mem _ hy, hxy⟩

theorem Stands.arr {levels : Nat} {xs ys : List Json} (h : List.Forall₂ (Stands levels) xs ys) :
    Stands (levels + 1) (.arr xs) (.arr ys) := by
  refine ⟨.arr ?_, nesting_arr_le_iff.mpr ?_, ?_⟩
  · intro x hx
    obtain ⟨y, -, hstands⟩ := exists_of_forall₂ h hx
    exact hstands.canonical
  · intro x hx
    obtain ⟨y, -, hstands⟩ := exists_of_forall₂ h hx
    exact hstands.nesting
  · intro key hkey
    cases hkey with
    | item hx hkey =>
      obtain ⟨y, hy, hstands⟩ := exists_of_forall₂ h hx
      exact .item hy (hstands.hasKey key hkey)

/-- The members have one key, and their values are related. -/
def SameKey {α β : Type} (P : α → β → Prop) (e : String × α) (d : String × β) : Prop := e.1 = d.1 ∧ P e.2 d.2

theorem Stands.ofMembers {levels : Nat} {ms ns : List (String × Json)}
    (h : List.Forall₂ (SameKey (Stands levels)) ms ns) :
    Stands (levels + 1) (Json.ofMembers ms) (.obj ns) := by
  have hmember : ∀ e ∈ Keyed.ofList ms, ∃ d ∈ ns, SameKey (Stands levels) e d :=
    fun e he => exists_of_forall₂ h (Keyed.mem_of_mem_ofList he)
  refine ⟨.obj (Keyed.sorted_ofList ms) ?_, nesting_obj_le_iff.mpr ?_, ?_⟩
  · intro e he
    obtain ⟨d, -, -, hstands⟩ := hmember e he
    exact hstands.canonical
  · intro e he
    obtain ⟨d, -, -, hstands⟩ := hmember e he
    exact hstands.nesting
  · intro key hkey
    cases hkey with
    | here he =>
      obtain ⟨⟨k, w⟩, hd, hk, -⟩ := hmember _ he
      cases hk
      exact .here hd
    | member he hkey =>
      obtain ⟨d, hd, -, hstands⟩ := hmember _ he
      exact .member hd (hstands.hasKey key hkey)

/-! ## Readers that follow one another -/

section Follows

variable {α β : Type} {P : α → β → Prop} {item : Octets → Except Fault (α × Octets)}
  {other : Octets → Except Fault (β × Octets)}

/-- Whatever the first reader reads, the second one reads with the same rest. -/
def Follows (P : α → β → Prop) (item : Octets → Except Fault (α × Octets))
    (other : Octets → Except Fault (β × Octets)) : Prop :=
  ∀ s x rest, item s = .ok (x, rest) → ∃ y, other s = .ok (y, rest) ∧ P x y

theorem moreItems_follows (h : Follows P item other) (fuel : Nat) :
    Follows (List.Forall₂ P) (moreItems item fuel) (moreItems other fuel) := by
  induction fuel with
  | zero =>
    intro s xs rest hread
    cases hread
  | succ fuel ih =>
    intro s xs rest hread
    simp only [moreItems] at hread ⊢
    split at hread
    · cases hread
    next b t hs =>
    split at hread
    · cases hread
      exact ⟨[], by simp_all, .nil⟩
    next hclose =>
    split at hread
    · next hcomma =>
      split at hread
      · cases hread
      next c u ht =>
      split at hread
      · cases hread
      next hopen =>
      obtain ⟨⟨x, s₁⟩, hx, hread⟩ := bind_eq_ok.mp hread
      obtain ⟨⟨xs', s₂⟩, hxs, hread⟩ := bind_eq_ok.mp hread
      cases hread
      obtain ⟨y, hy, hxy⟩ := h _ _ _ hx
      obtain ⟨ys, hys, hall⟩ := ih _ _ _ hxs
      refine ⟨y :: ys, ?_, .cons hxy hall⟩
      simp [hcomma, hopen, hy, hys, bind, Except.bind, pure, Except.pure]
    · cases hread

theorem array_follows (h : Follows P item other) :
    Follows (List.Forall₂ P) (array item) (array other) := by
  intro s xs rest hread
  simp only [array] at hread ⊢
  split at hread
  · cases hread
  next b t hs =>
  split at hread
  · cases hread
    exact ⟨[], by simp_all, .nil⟩
  next hclose =>
  obtain ⟨⟨x, s₁⟩, hx, hread⟩ := bind_eq_ok.mp hread
  obtain ⟨⟨xs', s₂⟩, hxs, hread⟩ := bind_eq_ok.mp hread
  cases hread
  obtain ⟨y, hy, hxy⟩ := h _ _ _ hx
  obtain ⟨ys, hys, hall⟩ := moreItems_follows h _ _ _ _ hxs
  refine ⟨y :: ys, ?_, .cons hxy hall⟩
  simp [hclose, hy, hys, bind, Except.bind, pure, Except.pure]

theorem member_follows (h : Follows P item other) :
    Follows (SameKey P) (member item) (member other) := by
  intro s m rest hread
  simp only [member] at hread ⊢
  obtain ⟨⟨key, s₁⟩, hkey, hread⟩ := bind_eq_ok.mp hread
  obtain ⟨s₂, hcolon, hread⟩ := bind_eq_ok.mp hread
  obtain ⟨⟨x, s₃⟩, hx, hread⟩ := bind_eq_ok.mp hread
  cases hread
  obtain ⟨y, hy, hxy⟩ := h _ _ _ hx
  refine ⟨(key, y), ?_, rfl, hxy⟩
  simp [hkey, hcolon, hy, bind, Except.bind, pure, Except.pure]

theorem moreMembers_follows (h : Follows P item other) (fuel : Nat) :
    Follows (List.Forall₂ (SameKey P)) (moreMembers item fuel) (moreMembers other fuel) := by
  induction fuel with
  | zero =>
    intro s ms rest hread
    cases hread
  | succ fuel ih =>
    intro s ms rest hread
    simp only [moreMembers] at hread ⊢
    split at hread
    · cases hread
    next b t hs =>
    split at hread
    · cases hread
      exact ⟨[], by simp_all, .nil⟩
    next hclose =>
    split at hread
    · next hcomma =>
      obtain ⟨s₁, hquote, hread⟩ := bind_eq_ok.mp hread
      obtain ⟨⟨m, s₂⟩, hm, hread⟩ := bind_eq_ok.mp hread
      obtain ⟨⟨ms', s₃⟩, hms, hread⟩ := bind_eq_ok.mp hread
      cases hread
      obtain ⟨n, hn, hmn⟩ := member_follows h _ _ _ hm
      obtain ⟨ns, hns, hall⟩ := ih _ _ _ hms
      refine ⟨n :: ns, ?_, .cons hmn hall⟩
      simp [hcomma, hquote, hn, hns, bind, Except.bind, pure, Except.pure]
    · cases hread

end Follows

/-! ## Numbers -/

theorem isNumeral_of_ofText? {text : String} {n : JsonNumber} (h : JsonNumber.ofText? text = .ok n) :
    n.IsNumeral := by
  simp only [JsonNumber.ofText?] at h
  split at h
  · next m hread =>
    cases h
    split at hread
    · cases hread
    · split at hread
      · exact isNumeral_of_number hread
      · split at hread
        · exact isNumeral_of_number hread
        · cases hread
  · cases h
  · cases h

/-- An object that is taken for a number has one member as written, a string. -/
theorem spelledNumber_ok {s rest : Octets} {n : JsonNumber} (h : spelledNumber s = .ok (n, rest)) :
    n.IsNumeral ∧ ∃ b t text, skipBlanks s = b :: t ∧ Text.ascii b = '"' ∧
      string t = .ok (text, rest) := by
  simp only [spelledNumber] at h
  split at h
  · cases h
  next b t hs =>
  split at h
  · next hquote =>
    obtain ⟨⟨text, u⟩, htext, h⟩ := bind_eq_ok.mp h
    dsimp only at h
    split at h
    · next m hm =>
      cases h
      exact ⟨isNumeral_of_ofText? hm, b, t, text, hs, hquote, htext⟩
    · cases h
  · cases h

theorem closeObject_ok {s rest : Octets} (h : closeObject s = .ok rest) :
    ∃ b, skipBlanks s = b :: rest ∧ Text.ascii b = '\x7d' := by
  simp only [closeObject] at h
  split at h
  · cases h
  next b t hs =>
  split at h
  · next hclose =>
    cases h
    exact ⟨b, hs, hclose⟩
  · split at h <;> cases h

/-! ## Values -/

theorem map_eq_ok {ε γ δ : Type} {x : Except ε γ} {f : γ → δ} {r : δ} :
    x.map f = .ok r ↔ ∃ a, x = .ok a ∧ f a = r := by
  cases x with
  | error e => simp [Except.map]
  | ok a => simp [Except.map]

theorem stands_of_valueWith_none {s rest : Octets} {v : Json} (h : valueWith none s = .ok (v, rest))
    (levels : Nat) : Stands levels v v := by
  simp only [valueWith] at h
  split at h
  · cases h
  split at h
  · obtain ⟨t, -, h⟩ := map_eq_ok.mp h
    cases h
    exact .scalar .null rfl (by rintro key ⟨⟩)
  · obtain ⟨t, -, h⟩ := map_eq_ok.mp h
    cases h
    exact .scalar (.bool true) rfl (by rintro key ⟨⟩)
  · obtain ⟨t, -, h⟩ := map_eq_ok.mp h
    cases h
    exact .scalar (.bool false) rfl (by rintro key ⟨⟩)
  · obtain ⟨⟨n, t⟩, hn, h⟩ := map_eq_ok.mp h
    cases h
    exact .num (isNumeral_of_number hn) _
  · obtain ⟨⟨text, t⟩, -, h⟩ := map_eq_ok.mp h
    cases h
    exact .scalar (.str text) rfl (by rintro key ⟨⟩)
  · cases h
  · cases h
  · split at h
    · obtain ⟨⟨n, t⟩, hn, h⟩ := map_eq_ok.mp h
      cases h
      exact .num (isNumeral_of_number hn) _
    · cases h

/-- A value is a scalar, or an array or object whose nested values are read. -/
theorem valueWith_cases {nested : Option (Octets → Except Fault (Json × Octets))} {s rest : Octets}
    {v : Json} (h : valueWith nested s = .ok (v, rest)) :
    valueWith none s = .ok (v, rest) ∨
      ∃ item b t, nested = some item ∧ skipBlanks s = b :: t ∧
        ((Text.ascii b = '[' ∧ ∃ xs, array item t = .ok (xs, rest) ∧ v = .arr xs) ∨
          (Text.ascii b = '\x7b' ∧ object item t = .ok (v, rest))) := by
  simp only [valueWith] at h ⊢
  split at h
  · cases h
  next b t hs =>
  split at h
  · simp_all
  · simp_all
  · simp_all
  · simp_all
  · simp_all
  · next hb =>
    split at h
    · next item =>
      obtain ⟨⟨xs, u⟩, hxs, h⟩ := map_eq_ok.mp h
      cases h
      exact .inr ⟨item, b, t, rfl, hs, .inl ⟨hb, xs, hxs, rfl⟩⟩
    · cases h
  · next hb =>
    split at h
    · next item => exact .inr ⟨item, b, t, rfl, hs, .inr ⟨hb, h⟩⟩
    · cases h
  · next h1 h2 h3 h4 h5 h6 h7 =>
    exact .inl (by simp_all)

theorem valueWith_of_none {s rest : Octets} {v : Json} (h : valueWith none s = .ok (v, rest))
    (nested : Option (Octets → Except Fault (Json × Octets))) :
    valueWith nested s = .ok (v, rest) := by
  simp only [valueWith] at h ⊢
  split at h
  · cases h
  next b t hs =>
  split at h <;> simp_all

theorem writtenWith_of_none {s rest : Octets} {v : Json} (h : valueWith none s = .ok (v, rest))
    (nested : Option (Octets → Except Fault (Json × Octets))) :
    writtenWith nested s = .ok (v, rest) := by
  have hread := valueWith_of_none h nested
  cases nested with
  | none =>
    unfold writtenWith
    split <;> first | assumption | contradiction
  | some item =>
    cases hs : skipBlanks s with
    | nil =>
      simp only [valueWith, hs] at h
      cases h
    | cons b t =>
      have hne : Text.ascii b ≠ '\x7b' := by
        intro hbrace
        simp only [valueWith, hs, hbrace] at h
        cases h
      simp only [writtenWith, hs, hne, if_false, hread]

/-- A string is written as it is read. -/
theorem writtenWith_string {s t rest : Octets} {b : UInt8} {text : String}
    (hs : skipBlanks s = b :: t) (hquote : Text.ascii b = '"') (htext : string t = .ok (text, rest))
    (nested : Option (Octets → Except Fault (Json × Octets))) :
    writtenWith nested s = .ok (.str text, rest) := by
  refine writtenWith_of_none ?_ nested
  simp only [valueWith, hs, hquote, htext, Except.map]

theorem object_follows {levels : Nat} {item other : Octets → Except Fault (Json × Octets)}
    (h : Follows (Stands levels) item other)
    (hstring : ∀ s b t text rest, skipBlanks s = b :: t → Text.ascii b = '"' →
      string t = .ok (text, rest) → other s = .ok (.str text, rest)) :
    Follows (fun v ms => Stands (levels + 1) v (.obj ms)) (object item) (members other) := by
  intro s v rest hread
  simp only [object] at hread
  split at hread
  · cases hread
  next b t hs =>
  split at hread
  · next hclose =>
    cases hread
    refine ⟨[], ?_, .ofMembers .nil⟩
    simp only [members, hs, hclose, if_true]
  next hclose =>
  split at hread
  · next hquote =>
    obtain ⟨⟨key, s₁⟩, hkey, hread⟩ := bind_eq_ok.mp hread
    obtain ⟨s₂, hcolon, hread⟩ := bind_eq_ok.mp hread
    dsimp only at hcolon hread
    split at hread
    · -- the object is taken for a number
      obtain ⟨⟨n, s₃⟩, hn, hread⟩ := bind_eq_ok.mp hread
      obtain ⟨s₄, hend, hread⟩ := bind_eq_ok.mp hread
      cases hread
      obtain ⟨hnumeral, c, u, text, hc, hcquote, htext⟩ := spelledNumber_ok hn
      obtain ⟨d, hd, hdclose⟩ := closeObject_ok hend
      have hvalue := hstring _ _ _ _ _ hc hcquote htext
      refine ⟨[(key, .str text)], ?_, .num hnumeral _⟩
      have hmore : moreMembers other (s₃.length + 1) s₃ = .ok ([], rest) := by
        simp only [moreMembers, hd, hdclose, if_true]
      simp [members, hs, hquote, member, hkey, hcolon, hvalue, hmore, bind, Except.bind,
        pure, Except.pure]
    · obtain ⟨⟨x, s₃⟩, hx, hread⟩ := bind_eq_ok.mp hread
      obtain ⟨⟨ms, s₄⟩, hms, hread⟩ := bind_eq_ok.mp hread
      cases hread
      obtain ⟨y, hy, hxy⟩ := h _ _ _ hx
      obtain ⟨ns, hns, hall⟩ := moreMembers_follows h _ _ _ _ hms
      refine ⟨(key, y) :: ns, ?_, .ofMembers (.cons ⟨rfl, hxy⟩ hall)⟩
      simp [members, hs, hquote, member, hkey, hcolon, hy, hns, bind, Except.bind, pure,
        Except.pure]
  · cases hread

theorem written_string (levels : Nat) (s : Octets) (b : UInt8) (t : Octets) (text : String)
    (rest : Octets) (hs : skipBlanks s = b :: t) (hquote : Text.ascii b = '"')
    (htext : string t = .ok (text, rest)) : written levels s = .ok (.str text, rest) := by
  cases levels with
  | zero => exact writtenWith_string hs hquote htext none
  | succ levels => exact writtenWith_string hs hquote htext (some (written levels))

/-- A value that is read is written there, and it stands for what is written. -/
theorem value_follows (levels : Nat) : Follows (Stands levels) (value levels) (written levels) := by
  induction levels with
  | zero =>
    intro s v rest hread
    exact ⟨v, writtenWith_of_none hread none, stands_of_valueWith_none hread 0⟩
  | succ levels ih =>
    intro s v rest hread
    rcases valueWith_cases hread with hscalar | ⟨item, b, t, hitem, hs, hcontainer⟩
    · exact ⟨v, writtenWith_of_none hscalar _, stands_of_valueWith_none hscalar _⟩
    cases hitem
    rcases hcontainer with ⟨hbracket, xs, hxs, rfl⟩ | ⟨hbrace, hobject⟩
    · obtain ⟨ys, hys, hall⟩ := array_follows ih _ _ _ hxs
      have hne : '[' ≠ '\x7b' := by decide
      refine ⟨.arr ys, ?_, .arr hall⟩
      simp only [written, writtenWith, hs, hbracket, hne, if_false, valueWith, hys, Except.map]
    · obtain ⟨ms, hms, hstands⟩ := object_follows ih (written_string levels) _ _ _ hobject
      refine ⟨.obj ms, ?_, hstands⟩
      simp only [written, writtenWith, hs, hbrace, if_true, hms, Except.map]

end Reader

/-! ## Documents -/

open Reader

theorem exists_value_of_read? {doc : Octets} {v : Json} (h : read? doc = .ok v) :
    ∃ rest, value maxNesting doc = .ok (v, rest) ∧ skipBlanks rest = [] := by
  simp only [read?, document] at h
  cases hvalue : value maxNesting doc with
  | error f =>
    rw [hvalue] at h
    cases h
  | ok r =>
    rw [hvalue] at h
    simp only [bind, Except.bind, pure, Except.pure] at h
    split at h
    · next hrest =>
      cases h
      exact ⟨r.2, rfl, hrest⟩
    · cases h

theorem read?_stands {doc : Octets} {v : Json} (h : read? doc = .ok v) :
    ∃ w, document (written maxNesting) doc = .ok w ∧ Stands maxNesting v w := by
  obtain ⟨rest, hvalue, hrest⟩ := exists_value_of_read? h
  obtain ⟨w, hw, hstands⟩ := value_follows _ _ _ _ hvalue
  refine ⟨w, ?_, hstands⟩
  simp only [document, hw, hrest, bind, Except.bind, pure, Except.pure, Except.mapError]

/-- What is read is canonical and nests no deeper than the reader goes. -/
theorem canonical_of_read? {doc : Octets} {v : Json} (h : read? doc = .ok v) :
    v.Canonical ∧ v.nesting ≤ maxNesting := by
  obtain ⟨w, -, hstands⟩ := read?_stands h
  exact ⟨hstands.canonical, hstands.nesting⟩

/-- A key of what is read is one that the document writes. -/
theorem writesKey_of_read? {doc : Octets} {v : Json} {key : String} (h : read? doc = .ok v)
    (hkey : v.HasKey key) : WritesKey key doc := by
  obtain ⟨w, hw, hstands⟩ := read?_stands h
  exact ⟨w, hw, hstands.hasKey key hkey⟩

end Switchboard.Json
