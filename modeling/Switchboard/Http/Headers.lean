-- SUMMARY: Header lists: names without case, several values per name, and what names and values may hold.
import Switchboard.Text.Numeral

/-!
# Headers

A header list keeps its lines in the order in which they were added. Names are
kept in lower case and compared so; a name may have several values, and their
order matters. `append` adds a line, `insert` replaces all lines of a name.
-/

namespace Switchboard

abbrev Headers := List (String × String)

namespace Headers

def lowerAscii (s : String) : String := String.ofList (s.toList.map Char.toLower)

/-- The characters of a token: letters, digits and some marks. -/
def isTokenChar (c : Char) : Bool :=
  c.isAlphanum || "!#$%&'*+-.^_\x60|~".toList.contains c

/-- A name is a token of less than 64 kibibytes. -/
def isName (s : String) : Bool :=
  s.toList != [] && s.toList.all isTokenChar && s.utf8ByteSize < 65536

/-- A value holds no control characters but the tab. -/
def isValue (s : String) : Bool :=
  s.toList.all fun c => c == '\t' || (0x20 ≤ c.toNat && c.toNat != 0x7f)

/-- A value that is text: visible ASCII, blanks and tabs. -/
def isVisible (s : String) : Bool :=
  s.toList.all fun c => c == '\t' || (0x20 ≤ c.toNat && c.toNat < 0x7f)

def getAll (name : String) (h : Headers) : List String :=
  (h.filter fun e => e.1 = name).map Prod.snd

/-- The first value of a name. -/
def get? (name : String) (h : Headers) : Option String := (h.getAll name).head?

/-- The first value of a name, if it is text. -/
def text? (name : String) (h : Headers) : Option String := (h.get? name).filter isVisible

def contains (name : String) (h : Headers) : Bool := h.any fun e => e.1 = name

def append (name value : String) (h : Headers) : Headers := h ++ [(name, value)]

def remove (name : String) (h : Headers) : Headers := h.filter fun e => e.1 ≠ name

/-- The list with this one value for the name. -/
def insert (name value : String) (h : Headers) : Headers := (h.remove name).append name value

/-- Each line of `upper` inserted in turn, so that its last value of a name wins. -/
def insertAll (upper h : Headers) : Headers := upper.foldl (fun h e => h.insert e.1 e.2) h

/-- The names of `upper` replaced whole, with all their values. -/
def replaceAll (upper h : Headers) : Headers :=
  h.filter (fun e => !upper.contains e.1) ++ upper

def ofLines (lines : List (String × String)) : Headers :=
  lines.map fun e => (lowerAscii e.1, e.2)

end Headers

end Switchboard
