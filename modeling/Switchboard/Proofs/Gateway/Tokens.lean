-- SUMMARY: The tokens that a header lists stay the same however its values are written.
import Mathlib.Data.List.TakeWhile
import Switchboard.Gateway.Route
import Switchboard.Proofs.Http.Headers

/-!
# Tokens of a header

`Connection` and `Upgrade` list tokens, and one list can be written in many ways: in one
value or in several, in any order, in any letter case, with blanks around the tokens.
`Respelled` relates the values of a header that differ in this only. `HasToken` says when
a value has a token, in terms of what stands between its commas; a look-up finds just
those (`listsToken_iff`). `Route.words` is what the relation keeps: all tokens in lower
case, as often as they occur (`Respelled.perm_words`).
-/

namespace Switchboard

/-! ## Letter case -/

namespace Text

theorem toLower_cases (c : Char) :
    c.toLower = c ∨ 0x41 ≤ c.toNat ∧ c.toNat ≤ 0x5a ∧ c.toLower.toNat = c.toNat + 0x20 := by
  unfold Char.toLower
  split
  · next hc =>
    have hlow : 0x41 ≤ c.val.toNat := hc.1
    have hhigh : c.val.toNat ≤ 0x5a := hc.2
    refine .inr ⟨hlow, hhigh, ?_⟩
    show (c.val + 0x20).toNat = c.val.toNat + 0x20
    rw [UInt32.toNat_add]
    exact Nat.mod_eq_of_lt (by show c.val.toNat + 0x20 < 2 ^ 32; omega)
  · exact .inl rfl

/-- What is the same on all letters does not see their case. -/
theorem apply_toLower {α : Type} {f : Char → α} {a : α}
    (hf : ∀ c : Char, 0x41 ≤ c.toNat → c.toNat ≤ 0x7a → f c = a) (c : Char) : f c.toLower = f c := by
  rcases toLower_cases c with hc | ⟨hlow, hhigh, hc⟩
  · rw [hc]
  · rw [hf c hlow (by omega), hf c.toLower (by omega) (by omega)]

theorem ne_of_letter {c d : Char} (hc : 0x41 ≤ c.toNat) (hd : d.toNat < 0x41) : c ≠ d := by
  rintro rfl
  omega

end Text

/-! ## Text -/

namespace Headers

theorem isVisible_lowerAscii (value : String) : isVisible (lowerAscii value) = isVisible value := by
  have hlower := Text.apply_toLower (f := fun c => c == '\t' || (0x20 ≤ c.toNat && c.toNat < 0x7f))
    (a := true) fun c hlow hhigh => by
      simp only [Bool.or_eq_true, Bool.and_eq_true, decide_eq_true_eq]
      omega
  simp only [isVisible, lowerAscii, String.toList_ofList, List.all_map]
  exact congrArg value.toList.all (funext hlower)

theorem isVisible_append (s t : String) : isVisible (s ++ t) = (isVisible s && isVisible t) := by
  simp [isVisible]

theorem isVisible_join (values : List String) :
    isVisible (",".intercalate values) = values.all isVisible := by
  induction values with
  | nil => rfl
  | cons value rest ih =>
    by_cases hrest : rest = []
    · simp [hrest]
    · have hcomma : isVisible "," = true := by decide
      rw [String.intercalate_cons_of_ne_nil hrest, isVisible_append, isVisible_append, hcomma, ih,
        Bool.and_true, List.all_cons]

end Headers

namespace Route

/-! ## Blanks -/

/-- Spaces and tabs, if anything. -/
def IsPadding (s : String) : Prop := ∀ c ∈ s.toList, c = ' ' ∨ c = '\t'

instance (s : String) : Decidable (IsPadding s) :=
  List.decidableBAll (fun c => c = ' ' ∨ c = '\t') s.toList

theorem isPadding_iff {s : String} : IsPadding s ↔ ∀ c ∈ s.toList, isPad c = true := by
  simp [IsPadding, isPad]

theorem IsPadding.comma_notMem {s : String} (hs : IsPadding s) : ',' ∉ s.toList := by
  intro hcomma
  have hpad := hs ',' hcomma
  revert hpad
  decide

theorem IsPadding.isVisible {s : String} (hs : IsPadding s) : Headers.isVisible s = true := by
  rw [Headers.isVisible, List.all_eq_true]
  intro c hc
  rcases hs c hc with rfl | rfl <;> decide

theorem unpadded_padded {left right : String} (hleft : IsPadding left) (hright : IsPadding right)
    (cs : List Char) : unpadded (left.toList ++ cs ++ right.toList) = unpadded cs := by
  rw [isPadding_iff] at hleft hright
  have hright' : ∀ c ∈ right.toList.reverse, isPad c = true := fun c hc =>
    hright c (List.mem_reverse.mp hc)
  rw [unpadded, List.append_assoc, List.dropWhile_append_of_pos hleft, List.dropWhile_append]
  by_cases hcs : (cs.dropWhile isPad).isEmpty = true
  · have hnil : right.toList.dropWhile isPad = [] := List.dropWhile_eq_nil_iff.mpr hright
    rw [if_pos hcs, hnil, unpadded, List.isEmpty_iff.mp hcs]
  · rw [if_neg hcs, List.reverse_append, List.dropWhile_append_of_pos hright', unpadded]

theorem unpadded_of_forall {cs : List Char} (hcs : ∀ c ∈ cs, isPad c = false) : unpadded cs = cs := by
  have hdrop {ds : List Char} (hds : ∀ c ∈ ds, isPad c = false) : ds.dropWhile isPad = ds := by
    cases ds with
    | nil => rfl
    | cons d ds => simp [hds d List.mem_cons_self]
  have hcs' : ∀ c ∈ cs.reverse, isPad c = false := fun c hc => hcs c (List.mem_reverse.mp hc)
  rw [unpadded, hdrop hcs, hdrop hcs', List.reverse_reverse]

/-- Only blanks are taken off. -/
theorem exists_padding (cs : List Char) :
    ∃ left right, IsPadding left ∧ IsPadding right ∧
      cs = left.toList ++ unpadded cs ++ right.toList := by
  let rest := cs.dropWhile isPad
  refine ⟨String.ofList (cs.takeWhile isPad), String.ofList (rest.reverse.takeWhile isPad).reverse,
    ?_, ?_, ?_⟩
  · rw [isPadding_iff, String.toList_ofList]
    exact fun c hc => List.mem_takeWhile_imp hc
  · rw [isPadding_iff, String.toList_ofList]
    exact fun c hc => List.mem_takeWhile_imp (List.mem_reverse.mp hc)
  · have hrest : unpadded cs ++ (rest.reverse.takeWhile isPad).reverse = rest := by
      rw [unpadded, ← List.reverse_append, List.takeWhile_append_dropWhile, List.reverse_reverse]
    rw [String.toList_ofList, String.toList_ofList, List.append_assoc, hrest,
      List.takeWhile_append_dropWhile]

theorem isPad_toLower (c : Char) : isPad c.toLower = isPad c := by
  refine Text.apply_toLower (f := isPad) (a := false) (fun d hd _ => ?_) c
  simp [isPad, Text.ne_of_letter hd (d := ' ') (by decide), Text.ne_of_letter hd (d := '\t') (by decide)]

theorem unpadded_map {f : Char → Char} (hf : ∀ c, isPad (f c) = isPad c) (cs : List Char) :
    unpadded (cs.map f) = (unpadded cs).map f := by
  have hcomp : isPad ∘ f = isPad := funext hf
  simp only [unpadded, List.dropWhile_map, ← List.map_reverse, hcomp]

/-! ## Words -/

/-- The tokens of a value in lower case, be it text or not. -/
def words (value : String) : List (List Char) :=
  (value.toList.splitOn ',').map fun p => (unpadded p).map Char.toLower

theorem tokens_eq (value : String) :
    tokens value = if Headers.isVisible value then words value else [] := rfl

theorem toLower_eq_comma (c : Char) : c.toLower = ',' ↔ c = ',' := by
  refine iff_of_eq (Text.apply_toLower (f := (· = ',')) (a := False) (fun d hd _ => ?_) c)
  exact eq_false (Text.ne_of_letter hd (by decide))

theorem map_splitOn {f : Char → Char} {a : Char} (hf : ∀ c, f c = a ↔ c = a) (cs : List Char) :
    (cs.map f).splitOn a = (cs.splitOn a).map (List.map f) := by
  induction cs with
  | nil => rfl
  | cons c cs ih =>
    rw [List.map_cons, List.splitOn_cons_eq_if_modifyHead, List.splitOn_cons_eq_if_modifyHead, ih]
    obtain ⟨p, ps, hps⟩ := List.exists_cons_of_ne_nil (List.splitOn_ne_nil a cs)
    by_cases hc : c = a
    · simp [hc, (hf a).mpr rfl]
    · simp [hc, mt (hf c).mp hc, hps]

theorem words_eq (value : String) :
    words value = ((Headers.lowerAscii value).toList.splitOn ',').map unpadded := by
  rw [Headers.lowerAscii, String.toList_ofList, map_splitOn toLower_eq_comma, List.map_map, words]
  exact List.map_congr_left fun p _ => (unpadded_map isPad_toLower p).symm

theorem words_of_lowerAscii_eq {value value' : String}
    (h : Headers.lowerAscii value = Headers.lowerAscii value') : words value = words value' := by
  rw [words_eq, words_eq, h]

theorem words_join {values : List String} (hvalues : values ≠ []) :
    words (",".intercalate values) = values.flatMap words := by
  induction values with
  | nil => exact absurd rfl hvalues
  | cons value rest ih =>
    by_cases hrest : rest = []
    · simp [hrest]
    · have hlist : (value ++ "," ++ ",".intercalate rest).toList =
          value.toList ++ ',' :: (",".intercalate rest).toList := by simp
      rw [String.intercalate_cons_of_ne_nil hrest, List.flatMap_cons, ← ih hrest, words, hlist,
        List.splitOn_append_cons_self, List.map_append]
      rfl

/-- A value without commas is one token. -/
theorem words_of_notMem {value : String} (hvalue : ',' ∉ value.toList) :
    words value = [(unpadded value.toList).map Char.toLower] := by
  rw [words, List.splitOn_eq_singleton hvalue, List.map_singleton]

theorem words_padded {left token right : String} (hleft : IsPadding left) (hright : IsPadding right)
    (htoken : ',' ∉ token.toList) : words (left ++ token ++ right) = words token := by
  have hcomma : ',' ∉ (left ++ token ++ right).toList := by
    simp [hleft.comma_notMem, htoken, hright.comma_notMem]
  rw [words_of_notMem hcomma, words_of_notMem htoken, String.toList_append, String.toList_append,
    unpadded_padded hleft hright]

/-! ## Having a token -/

/-- The token, in some letter case, is all that the value has between two commas or between a comma
and one of its ends, blanks apart. -/
inductive HasToken (token : String) : String → Prop where
  | mk (before after : List String) {left word right : String} :
      IsPadding left → IsPadding right → Headers.lowerAscii word = token →
      HasToken token (",".intercalate (before ++ (left ++ word ++ right) :: after))

/-- One of the values that are text has the token. -/
def Lists (values : List String) (token : String) : Prop :=
  ∃ value ∈ values, Headers.isVisible value = true ∧ HasToken token value

section
variable {token : String} (htoken : ∀ c ∈ token.toList, c ≠ ',' ∧ isPad c = false)
include htoken

theorem mem_words_of_lowerAscii_eq {left word right : String} (hleft : IsPadding left)
    (hright : IsPadding right) (hword : Headers.lowerAscii word = token) :
    token.toList ∈ words (left ++ word ++ right) := by
  have hlower : word.toList.map Char.toLower = token.toList := by
    rw [← hword, Headers.lowerAscii, String.toList_ofList]
  have hmem (c : Char) (hc : c ∈ word.toList) := htoken c.toLower (hlower ▸ List.mem_map_of_mem hc)
  have hcomma : ',' ∉ word.toList := fun hc => (hmem ',' hc).1 rfl
  have hbare : unpadded word.toList = word.toList :=
    unpadded_of_forall fun c hc => (isPad_toLower c).symm.trans (hmem c hc).2
  rw [words_padded hleft hright hcomma, words_of_notMem hcomma, hbare, hlower]
  exact List.mem_singleton_self _

theorem mem_words_iff {value : String} : token.toList ∈ words value ↔ HasToken token value := by
  constructor
  · intro hmem
    obtain ⟨p, hp, hlower⟩ := List.mem_map.mp hmem
    obtain ⟨before, after, hsplit⟩ := List.append_of_mem hp
    obtain ⟨left, right, hleft, hright, hpadded⟩ := exists_padding p
    -- The commas of the value join just the parts into which it is split.
    have hparts : (before.map String.ofList ++
        (left ++ String.ofList (unpadded p) ++ right) :: after.map String.ofList).map String.toList =
          before ++ p :: after := by
      simp [Function.comp_def, ← hpadded]
    have hvalue : value = ",".intercalate (before.map String.ofList ++
        (left ++ String.ofList (unpadded p) ++ right) :: after.map String.ofList) := by
      rw [← String.toList_inj, String.toList_intercalate, hparts, ← hsplit]
      exact (List.intercalate_splitOn ',').symm
    rw [hvalue]
    refine .mk _ _ hleft hright ?_
    rw [Headers.lowerAscii, String.toList_ofList, hlower, String.ofList_toList]
  · rintro ⟨before, after, hleft, hright, hword⟩
    rw [words_join (by simp), List.flatMap_append, List.flatMap_cons]
    exact List.mem_append_right _
      (List.mem_append_left _ (mem_words_of_lowerAscii_eq htoken hleft hright hword))

theorem listsToken_iff (h : Headers) (name : String) :
    listsToken h name token = true ↔ Lists (h.getAll name) token := by
  simp only [listsToken, List.any_eq_true, Lists, tokens_eq, List.contains_iff_mem]
  refine exists_congr fun value => and_congr_right fun _ => ?_
  by_cases hvisible : Headers.isVisible value = true
  · simp [hvisible, mem_words_iff htoken]
  · simp [hvisible]

end

/-! ## Values written anew -/

/-- The values of a header and the same tokens written anew: values joined by commas, or one split
there; another order; another letter case; blanks put around a token, or taken from there. -/
inductive Respelled : List String → List String → Prop where
  | joined (before values after : List String) :
      values ≠ [] → Respelled (before ++ values ++ after) (before ++ ",".intercalate values :: after)
  | permuted {values values' : List String} : values.Perm values' → Respelled values values'
  | recased (before after : List String) {value value' : String} :
      Headers.lowerAscii value = Headers.lowerAscii value' →
      Respelled (before ++ value :: after) (before ++ value' :: after)
  | padded (before pre : List String) (left token right : String) (post after : List String) :
      IsPadding left → ',' ∉ token.toList → IsPadding right →
      Respelled (before ++ ",".intercalate (pre ++ token :: post) :: after)
        (before ++ ",".intercalate (pre ++ (left ++ token ++ right) :: post) :: after)
  | symm {values values' : List String} : Respelled values values' → Respelled values' values
  | trans {values values' values'' : List String} :
      Respelled values values' → Respelled values' values'' → Respelled values values''

variable {values values' : List String}

theorem Respelled.perm_words (h : Respelled values values') :
    (values.flatMap words).Perm (values'.flatMap words) := by
  induction h with
  | joined before values after hvalues =>
    rw [List.append_assoc, List.flatMap_append, List.flatMap_append, List.flatMap_append,
      List.flatMap_cons, words_join hvalues]
  | permuted hperm => exact hperm.flatMap_right _
  | recased before after hvalue =>
    rw [List.flatMap_append, List.flatMap_append, List.flatMap_cons, List.flatMap_cons,
      words_of_lowerAscii_eq hvalue]
  | padded before pre left token right post after hleft htoken hright =>
    rw [List.flatMap_append, List.flatMap_append, List.flatMap_cons, List.flatMap_cons,
      words_join (by simp), words_join (by simp), List.flatMap_append, List.flatMap_append,
      List.flatMap_cons, List.flatMap_cons, words_padded hleft hright htoken]
  | symm _ ih => exact ih.symm
  | trans _ _ ih ih' => exact ih.trans ih'

theorem Respelled.all_isVisible (h : Respelled values values') :
    values.all Headers.isVisible = values'.all Headers.isVisible := by
  induction h with
  | joined before values after hvalues =>
    rw [List.append_assoc, List.all_append, List.all_append, List.all_append, List.all_cons,
      Headers.isVisible_join]
  | permuted hperm => exact hperm.all_eq
  | @recased before after value value' hvalue =>
    have hvisible : Headers.isVisible value = Headers.isVisible value' := by
      rw [← Headers.isVisible_lowerAscii, hvalue, Headers.isVisible_lowerAscii]
    rw [List.all_append, List.all_append, List.all_cons, List.all_cons, hvisible]
  | padded before pre left token right post after hleft htoken hright =>
    have hvisible : Headers.isVisible (left ++ token ++ right) = Headers.isVisible token := by
      rw [Headers.isVisible_append, Headers.isVisible_append, hleft.isVisible, hright.isVisible, Bool.true_and,
        Bool.and_true]
    simp only [List.all_append, List.all_cons, Headers.isVisible_join, hvisible]
  | symm _ ih => exact ih.symm
  | trans _ _ ih ih' => exact ih.trans ih'

section
variable {h h' : Headers} {name : String}

/-- Of values that are text all tokens count. -/
theorem listsToken_of_visible (hvisible : (h.getAll name).all Headers.isVisible = true)
    (token : String) :
    listsToken h name token = ((h.getAll name).flatMap words).contains token.toList := by
  rw [List.all_eq_true] at hvisible
  rw [listsToken, Bool.eq_iff_iff, List.any_eq_true, List.contains_iff_mem, List.mem_flatMap]
  refine exists_congr fun value => and_congr_right fun hvalue => ?_
  rw [tokens_eq, if_pos (hvisible value hvalue), List.contains_iff_mem]

theorem listsToken_respelled (hvisible : (h.getAll name).all Headers.isVisible = true)
    (hrespelled : Respelled (h.getAll name) (h'.getAll name)) (token : String) :
    listsToken h' name token = listsToken h name token := by
  -- Beside a value that is not text the tokens would count, but not once they are joined to it.
  have hvisible' := hrespelled.all_isVisible ▸ hvisible
  rw [listsToken_of_visible hvisible, listsToken_of_visible hvisible', Bool.eq_iff_iff,
    List.contains_iff_mem, List.contains_iff_mem]
  exact hrespelled.perm_words.mem_iff.symm

end

end Route

end Switchboard
