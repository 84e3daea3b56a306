-- SUMMARY: Trimming takes the blanks off a text and nothing else.
import Switchboard.Text.Blank

/-!
# Trimming

A text that neither starts nor ends with a blank is what trimming leaves of it,
whatever blanks are put around it. Every text is of this form, or blank as a whole
(`exists_padding`).
-/

namespace Switchboard.Text

/-- The text is not empty, and neither end of it is blank. -/
structure Bare (s : String) : Prop where
  head : ∃ c cs, s.toList = c :: cs ∧ isBlank c = false
  last : ∃ cs c, s.toList = cs ++ [c] ∧ isBlank c = false

theorem bare_of_forall {s : String} (hs : s.toList ≠ []) (h : ∀ c ∈ s.toList, isBlank c = false) : Bare s where
  head := by
    obtain ⟨c, cs, hcs⟩ := List.exists_cons_of_ne_nil hs
    exact ⟨c, cs, hcs, h c (hcs ▸ List.mem_cons_self)⟩
  last := by
    have hlast := List.dropLast_concat_getLast hs
    exact ⟨_, _, hlast.symm, h _ (List.getLast_mem hs)⟩

/-- What starts and ends with characters that are not blank. -/
theorem bare_append {s inner t : String} (hs : Bare s) (ht : Bare t) : Bare (s ++ inner ++ t) where
  head := by
    obtain ⟨c, cs, h, hc⟩ := hs.head
    exact ⟨c, cs ++ inner.toList ++ t.toList, by simp [h], hc⟩
  last := by
    obtain ⟨cs, c, h, hc⟩ := ht.last
    exact ⟨s.toList ++ inner.toList ++ cs, c, by simp [h], hc⟩

theorem trim_padded {s : String} (hs : Bare s) {pad pad' : List Char} (hpad : ∀ c ∈ pad, isBlank c)
    (hpad' : ∀ c ∈ pad', isBlank c) : trim (String.ofList pad ++ s ++ String.ofList pad') = s := by
  obtain ⟨c, cs, hhead, hc⟩ := hs.head
  obtain ⟨ds, d, hlast, hd⟩ := hs.last
  have hstart : trimStart (s.toList ++ pad') = s.toList ++ pad' := by
    simp [trimStart, hhead, hc]
  have hend : trimEnd s.toList = s.toList := by
    simp [trimEnd, hlast, hd]
  rw [trim, String.toList_append, String.toList_append, String.toList_ofList, String.toList_ofList,
    List.append_assoc, trimStart_append_of_blank hpad, hstart, trimEnd_append_of_blank hpad', hend,
    String.ofList_toList]

theorem trim_of_bare {s : String} (hs : Bare s) : trim s = s := by
  have h := trim_padded hs (List.forall_mem_nil _) (List.forall_mem_nil _)
  simpa using h

theorem trim_of_blank {pad : List Char} (h : ∀ c ∈ pad, isBlank c) : trim (String.ofList pad) = "" := by
  have hstart : trimStart (pad ++ []) = trimStart [] := trimStart_append_of_blank h
  rw [List.append_nil] at hstart
  rw [trim, String.toList_ofList, hstart]
  rfl

theorem trimStart_cases (cs : List Char) : (∀ c ∈ cs, isBlank c) ∨
    ∃ pad c rest, (∀ b ∈ pad, isBlank b) ∧ isBlank c = false ∧ cs = pad ++ c :: rest ∧
      trimStart cs = c :: rest := by
  induction cs with
  | nil => exact .inl (List.forall_mem_nil _)
  | cons d cs ih =>
    cases hd : isBlank d with
    | false => exact .inr ⟨[], d, cs, List.forall_mem_nil _, hd, rfl, by simp [trimStart, hd]⟩
    | true =>
      rcases ih with hall | ⟨pad, c, rest, hpad, hc, rfl, htrim⟩
      · exact .inl (List.forall_mem_cons.mpr ⟨hd, hall⟩)
      · refine .inr ⟨d :: pad, c, rest, List.forall_mem_cons.mpr ⟨hd, hpad⟩, hc, rfl, ?_⟩
        rwa [trimStart, List.dropWhile_cons, if_pos hd]

theorem trimEnd_cases (cs : List Char) : (∀ c ∈ cs, isBlank c) ∨
    ∃ front c pad, (∀ b ∈ pad, isBlank b) ∧ isBlank c = false ∧ cs = front ++ c :: pad ∧
      trimEnd cs = front ++ [c] := by
  rcases trimStart_cases cs.reverse with hall | ⟨pad, c, rest, hpad, hc, heq, htrim⟩
  · exact .inl fun c hc => hall c (List.mem_reverse.mpr hc)
  · refine .inr ⟨rest.reverse, c, pad.reverse, fun b hb => hpad b (List.mem_reverse.mp hb), hc, ?_, ?_⟩
    · rw [← List.reverse_reverse cs, heq]
      simp
    · rw [trimEnd, ← trimStart, htrim, List.reverse_cons]

/-- A text is blank, or it is what trimming leaves with blanks around it. -/
theorem exists_padding (s : String) : (∀ c ∈ s.toList, isBlank c) ∨
    ∃ pad pad', Bare (trim s) ∧ (∀ c ∈ pad, isBlank c) ∧ (∀ c ∈ pad', isBlank c) ∧
      s = String.ofList pad ++ trim s ++ String.ofList pad' := by
  rcases trimStart_cases s.toList with hall | ⟨pad, c, rest, hpad, hc, hs, hstart⟩
  · exact .inl hall
  rcases trimEnd_cases (c :: rest) with hall | ⟨front, d, pad', hpad', hd, hrest, hend⟩
  · rw [hall c List.mem_cons_self] at hc
    cases hc
  · have htrim : trim s = String.ofList (front ++ [d]) := by rw [trim, hstart, hend]
    refine .inr ⟨pad, pad', ⟨?_, ?_⟩, hpad, hpad', ?_⟩
    · rw [htrim, String.toList_ofList]
      cases front with
      | nil => exact ⟨d, [], rfl, hd⟩
      | cons e front =>
        obtain ⟨rfl, -⟩ := List.cons.inj hrest
        exact ⟨c, front ++ [d], rfl, hc⟩
    · exact ⟨front, d, by rw [htrim, String.toList_ofList], hd⟩
    · rw [htrim, ← String.ofList_append, ← String.ofList_append, ← String.ofList_toList (s := s), hs, hrest]
      simp

end Switchboard.Text
