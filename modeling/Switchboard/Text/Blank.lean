-- SUMMARY: The blank characters of Unicode and the trimming of text.

/-!
# Blanks

The characters with the Unicode property `White_Space`, and `trim`, which takes
them off both ends of a text. The property has 25 members, all of them in the
Basic Multilingual Plane.
-/

namespace Switchboard.Text

/-- Membership in the Unicode property `White_Space`. -/
def isBlank (c : Char) : Bool :=
  let n := c.toNat
  (0x09 ≤ n && n ≤ 0x0d) || n == 0x20 || n == 0x85 || n == 0xa0 || n == 0x1680
    || (0x2000 ≤ n && n ≤ 0x200a) || n == 0x2028 || n == 0x2029 || n == 0x202f
    || n == 0x205f || n == 0x3000

def trimStart (cs : List Char) : List Char := cs.dropWhile isBlank

def trimEnd (cs : List Char) : List Char := (cs.reverse.dropWhile isBlank).reverse

/-- The text without the blanks at its two ends. -/
def trim (s : String) : String := String.ofList (trimEnd (trimStart s.toList))

theorem trimStart_append_of_blank {pad cs : List Char} (h : ∀ c ∈ pad, isBlank c) :
    trimStart (pad ++ cs) = trimStart cs := by
  induction pad with
  | nil => rfl
  | cons c pad ih =>
    simp only [trimStart, List.cons_append, List.dropWhile_cons, h c (by simp), if_true]
    exact ih fun d hd => h d (by simp [hd])

theorem trimEnd_append_of_blank {pad cs : List Char} (h : ∀ c ∈ pad, isBlank c) :
    trimEnd (cs ++ pad) = trimEnd cs := by
  have h' : ∀ c ∈ pad.reverse, isBlank c := fun c hc => h c (by simpa using hc)
  have h' : trimStart (pad.reverse ++ cs.reverse) = trimStart cs.reverse :=
    trimStart_append_of_blank h'
  simp only [trimStart] at h'
  simp [trimEnd, List.reverse_append, h']

end Switchboard.Text
