-- SUMMARY: Domain names in ASCII.
import Switchboard.Text.Composed
import Switchboard.Text.Direction
import Switchboard.Text.Joining
import Switchboard.Url.DomainMapping
import Switchboard.Url.Punycode

/-!
# Domain names

A domain name is a row of labels between full stops. It is mapped and composed, and
then each label is written in ASCII: as it stands if it is, and otherwise in
Punycode behind the mark `xn--`. A label that has the mark already must be what a
proper label is written as. In a proper label no mark comes first and joiners
stand where they change something; if a name has letters that run to the left,
none of its labels mixes directions.
-/

namespace Switchboard.Domain

/-- A label and its form in ASCII. -/
structure Label where
  text : List Char
  ascii : List Char

def isAscii (cs : List Char) : Bool := cs.all (·.toNat < 0x80)

/-- Characters that no domain name may have. -/
def isForbidden (c : Char) : Bool :=
  c.toNat ≤ 0x20 || c.toNat == 0x7f || "#%/:<>?@[\\]^|".toList.contains c

/-! ## Proper labels -/

/-- Every joiner follows a letter without its vowel, or else parts two letters that
would be joined. `before` is what comes before, from right to left. -/
def joinersFit (before : List Char) : List Char → Bool
  | [] => true
  | c :: cs =>
    let afterVirama := (before.head?.map Text.combiningClass) = some Text.viramaClass
    let partsLetters :=
      ((before.dropWhile Text.isTransparent).head?.map Text.joinsLeft).getD false
        && ((cs.dropWhile Text.isTransparent).head?.map Text.joinsRight).getD false
    (match c with
      | '\u200c' => afterVirama || partsLetters
      | '\u200d' => afterVirama
      | _ => true) && joinersFit (c :: before) cs

def isProper (label : List Char) : Bool :=
  !(label.head?.map Text.isMark).getD false && joinersFit [] label

/-- The label is as mapping and composing leave it. -/
def isStable (label : List Char) : Bool :=
  label.all (fun c => DomainMapping.mapped? c = some [c] && !isForbidden c)
    && Text.composed label = label

/-! ## Directions -/

/-- The name has letters or digits of scripts that run to the left. -/
def runsLeft (labels : List (List Char)) : Bool :=
  labels.any fun l => l.any fun c => Text.Direction.of c ∈ [.right, .arabicNumber]

/-- The label runs in one direction: it starts with a letter, ends with a letter or a
digit, and has none of the other direction in between. -/
def isDirected (label : List Char) : Bool :=
  let ds := label.map Text.Direction.of
  let last := (ds.reverse.dropWhile (· = .nonspacing)).head?
  match ds with
  | [] => true
  | .left :: _ =>
    last.all (fun d => d ∈ [.left, .europeanNumber])
      && ds.all (fun d => d ∉ [.right, .arabicNumber])
  | .right :: _ =>
    last.all (fun d => d ∈ [.right, .europeanNumber, .arabicNumber]) && !ds.contains .left
      && !(ds.contains .europeanNumber && ds.contains .arabicNumber)
  | _ => false

/-! ## ASCII -/

/-- The longest label that is written in Punycode, and the longest text that is read. -/
def longestWritten : Nat := 1000
def longestRead : Nat := 2000

/-- A label of a name that has been mapped and composed. -/
def label? (l : List Char) : Option Label :=
  match l with
  | 'x' :: 'n' :: '-' :: '-' :: form =>
    if !isAscii form || longestRead < form.length then none
    else match Punycode.decode? form with
      | some text =>
        if !isAscii text && isStable text && isProper text && !"xn--".toList.isPrefixOf text then
          some ⟨text, l⟩
        else none
      | none => none
  | _ =>
    if isAscii l then some ⟨l, l⟩
    else if isProper l && l.length ≤ longestWritten then
      some ⟨l, "xn--".toList ++ Punycode.encode l⟩
    else none

/-- A name in ASCII. -/
def ascii? (name : List Char) : Option (List Char) := do
  let text := Text.composed (← name.mapM DomainMapping.mapped?).flatten
  if text.any isForbidden then none
  let labels ← (text.splitOn '.').mapM label?
  if runsLeft (labels.map Label.text) && !labels.all fun l => isDirected l.text then none
  some (['.'].intercalate (labels.map Label.ascii))

end Switchboard.Domain
