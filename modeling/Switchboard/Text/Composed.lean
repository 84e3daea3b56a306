-- SUMMARY: Composed text, in which equal looks are equal.
import Switchboard.Text.CombiningClass
import Switchboard.Text.Composites

/-!
# Composed text

Characters and their marks can be written in several ways that mean the same.
`composed` is the one of them in which marks are in the order of their classes and
what can be put together is. Characters that Unicode replaces by others and never
restores stay as they are.
-/

namespace Switchboard.Text

/-! ## Taking apart -/

/-- The characters that a character stands for. Composites are nested less than
`depth` deep. -/
def parts : (depth : Nat) → Char → List Char
  | 0, c => [c]
  | depth + 1, c =>
    match decompose? c with
    | some (a, b) => parts depth a ++ [b]
    | none => [c]

/-- Puts a mark behind the marks that its class does not precede; the last character
comes first. -/
def insertMark (c : Char) : List Char → List Char
  | [] => [c]
  | d :: ds =>
    if 0 < combiningClass c && combiningClass c < combiningClass d then d :: insertMark c ds
    else c :: d :: ds

/-- Marks in the order of their classes. -/
def ordered (cs : List Char) : List Char :=
  (cs.foldl (fun done c => insertMark c done) []).reverse

/-! ## Putting together -/

/-- Puts what follows a starter together with it, as far as nothing is in the way;
`marks` could not be, and the last of them has the class `last`. -/
def compose (starter : Char) (marks : List Char) (last : Nat) : List Char → List Char
  | [] => starter :: marks.reverse
  | c :: cs =>
    let k := combiningClass c
    match if marks.isEmpty || last < k then compose? starter c else none with
    | some s => compose s marks last cs
    | none =>
      if k = 0 then starter :: marks.reverse ++ compose c [] 0 cs
      else compose starter (c :: marks) k cs

def composed (cs : List Char) : List Char :=
  let all := ordered (cs.flatMap (parts 4))
  let front := all.takeWhile fun c => combiningClass c ≠ 0
  match all.drop front.length with
  | c :: rest => front ++ compose c [] 0 rest
  | [] => front

end Switchboard.Text
