-- SUMMARY: International labels in ASCII.

/-!
# Punycode

A label with characters beyond ASCII is written as its ASCII characters, a hyphen,
and the other characters in increasing order, each as the distance from the one
before. Distances are written in base 36 with thresholds that adapt to what has
been written.
-/

namespace Switchboard.Punycode

def digit (n : Nat) : Char := if n < 26 then Char.ofNat (0x61 + n) else Char.ofNat (0x30 + (n - 26))

def threshold (k bias : Nat) : Nat :=
  if k ≤ bias then 1 else if bias + 26 ≤ k then 26 else k - bias

/-- Divides by 35 until at most 455 is left, counting 36 for each time. -/
def damp (delta k : Nat) : Nat × Nat :=
  if 455 < delta then damp (delta / 35) (k + 36) else (delta, k)
termination_by delta

def adapt (delta count : Nat) (first : Bool) : Nat :=
  let d := if first then delta / 700 else delta / 2
  let (d, k) := damp (d + d / count) 0
  k + 36 * d / (d + 38)

theorem threshold_pos (k bias : Nat) : 1 ≤ threshold k bias ∧ threshold k bias ≤ 26 := by
  unfold threshold
  split
  · omega
  · split <;> omega

def distance (bias k q : Nat) : List Char :=
  let t := threshold k bias
  if q < t then [digit q]
  else digit (t + (q - t) % (36 - t)) :: distance bias (k + 36) ((q - t) / (36 - t))
termination_by q
decreasing_by
  have := threshold_pos k bias
  have := Nat.div_le_self (q - threshold k bias) (36 - threshold k bias)
  omega

/-- What has been written, the distance so far, the bias, and how many characters
have been handled. -/
structure State where
  written : List Char
  delta : Nat
  bias : Nat
  handled : Nat

/-- Looks at one character of the label while those with the value `n` are due. -/
def look (basic n : Nat) (s : State) (c : Char) : State :=
  if c.toNat < n then { s with delta := s.delta + 1 }
  else if c.toNat = n then
    { written := s.written ++ distance s.bias 36 s.delta, delta := 0
      bias := adapt s.delta (s.handled + 1) (s.handled == basic), handled := s.handled + 1 }
  else s

/-- Handles the given values, which increase; values below `n` are done. -/
def walk (label : List Char) (basic : Nat) : List Nat → (n : Nat) → State → State
  | [], _, s => s
  | m :: ms, n, s =>
    let s := { s with delta := s.delta + (m - n) * (s.handled + 1) }
    let s := label.foldl (look basic m) s
    walk label basic ms (m + 1) { s with delta := s.delta + 1 }

/-- The ASCII form of a label, without the mark that it is one. -/
def encode (label : List Char) : List Char :=
  let basic := label.filter fun c => c.toNat < 0x80
  let values := ((label.map Char.toNat).filter fun n => 0x80 ≤ n).eraseDups.mergeSort
  let start := if basic.isEmpty then [] else basic ++ ['-']
  (walk label basic.length values 0x80 ⟨start, 0, 72, basic.length⟩).written

/-! ## Reading -/

def value? (c : Char) : Option Nat :=
  if 'a' ≤ c && c ≤ 'z' then some (c.toNat - 0x61)
  else if c.isDigit then some (c.toNat - 0x30 + 26)
  else none

/-- The distance at the front, whose next digit counts `weight`, and what follows it. -/
def readDistance? (bias : Nat) : (k weight : Nat) → List Char → Option (Nat × List Char)
  | _, _, [] => none
  | k, weight, c :: cs =>
    match value? c with
    | none => none
    | some d =>
      if d < threshold k bias then some (d * weight, cs)
      else match readDistance? bias (k + 36) (weight * (36 - threshold k bias)) cs with
        | some (n, rest) => some (d * weight + n, rest)
        | none => none

theorem length_lt_of_readDistance? {bias k weight n : Nat} {cs rest : List Char}
    (h : readDistance? bias k weight cs = some (n, rest)) : rest.length < cs.length := by
  induction cs generalizing k weight n with
  | nil => simp [readDistance?] at h
  | cons c cs ih =>
    simp only [readDistance?] at h
    split at h
    · simp at h
    · split at h
      · simp only [Option.some.injEq, Prod.mk.injEq] at h
        simp [← h.2]
      · split at h
        · rename_i hr
          simp only [Option.some.injEq, Prod.mk.injEq] at h
          have := ih (h.2 ▸ hr)
          simp only [List.length_cons]
          omega
        · simp at h

/-- Puts the characters whose distances are given into the label. `n` and `i` are the
value of the one before and the place behind it. -/
def fill? (label : List Char) (n i bias : Nat) (first : Bool) (digits : List Char) :
    Option (List Char) :=
  if digits.isEmpty then some label
  else match _h : readDistance? bias 36 1 digits with
    | none => none
    | some (delta, rest) =>
      let count := label.length + 1
      let n := n + (i + delta) / count
      let i := (i + delta) % count
      if n.isValidChar then
        fill? (label.take i ++ Char.ofNat n :: label.drop i) n (i + 1)
          (adapt delta count first) false rest
      else none
termination_by digits.length
decreasing_by exact length_lt_of_readDistance? _h

/-- The label that an ASCII form stands for. A hyphen in front divides nothing. -/
def decode? (form : List Char) : Option (List Char) :=
  let tail := (form.reverse.takeWhile (· ≠ '-')).reverse
  let basic := form.take (form.length - tail.length - 1)
  fill? basic 0x80 0 72 true (if basic.isEmpty then form else tail)

end Switchboard.Punycode
