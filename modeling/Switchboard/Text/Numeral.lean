-- SUMMARY: Decimal numerals of whole numbers, and their reading within a fixed width.

/-!
# Numerals

Whole numbers as decimal text: written without leading zeros and with `-` for
negative numbers only, read with an optional sign. `readInt` reads what a sign
and digits say; the width of the target is a range that its caller names.
-/

namespace Switchboard.Text

/-- The numbers that a signed word of 64 bits holds. -/
def inInt64 (n : Int) : Bool := -0x8000000000000000 ≤ n && n < 0x8000000000000000

/-- The numbers that an unsigned word of 64 bits holds. -/
def inUInt64 (n : Int) : Bool := 0 ≤ n && n < 0x10000000000000000

/-- The numbers that a signed word of 32 bits holds. -/
def inInt32 (n : Int) : Bool := -0x80000000 ≤ n && n < 0x80000000

/-- The numbers that an unsigned word of 32 bits holds. -/
def inUInt32 (n : Int) : Bool := 0 ≤ n && n < 0x100000000

/-- The numbers that a word of 128 bits holds, signed or unsigned. -/
def inWord128 (n : Int) : Bool :=
  -0x80000000000000000000000000000000 ≤ n && n < 0x100000000000000000000000000000000

def inUInt8 (n : Int) : Bool := 0 ≤ n && n < 256

/-- The decimal digits of a number, without leading zeros. -/
def natDigits (n : Nat) : List Char := Nat.toDigits 10 n

/-- The decimal numeral of an integer. -/
def intDigits : Int → List Char
  | .ofNat n => natDigits n
  | .negSucc n => '-' :: natDigits (n + 1)

def numeral (n : Int) : String := String.ofList (intDigits n)

/-- The number that digits write, for at least one digit and nothing else. -/
def readNat (cs : List Char) : Option Nat :=
  if cs ≠ [] ∧ cs.all Char.isDigit then some (Nat.ofDigitChars 10 cs 0) else none

/-- The number that digits write after at most one sign. -/
def readInt : List Char → Option Int
  | '-' :: cs => (readNat cs).map fun n => -(n : Int)
  | '+' :: cs => (readNat cs).map Int.ofNat
  | cs => (readNat cs).map Int.ofNat

/-- The value of a hexadecimal digit. -/
def hexValue? (c : Char) : Option Nat :=
  if '0' ≤ c ∧ c ≤ '9' then some (c.toNat - 0x30)
  else if 'a' ≤ c ∧ c ≤ 'f' then some (c.toNat - 0x61 + 10)
  else if 'A' ≤ c ∧ c ≤ 'F' then some (c.toNat - 0x41 + 10)
  else none

/-- The number that hexadecimal digits write. -/
def readHex (cs : List Char) : Option Nat :=
  cs.foldlM (fun n c => (hexValue? c).map fun d => n * 16 + d) 0

theorem natDigits_ne_nil (n : Nat) : natDigits n ≠ [] := by
  simp [natDigits]

theorem isDigit_of_mem_natDigits {n : Nat} {c : Char} (h : c ∈ natDigits n) :
    c.isDigit = true :=
  Nat.isDigit_of_mem_toDigits (by decide) (by decide) h

theorem readNat_natDigits (n : Nat) : readNat (natDigits n) = some n := by
  have h : (natDigits n).all Char.isDigit = true :=
    List.all_eq_true.2 fun c hc => isDigit_of_mem_natDigits hc
  rw [readNat, if_pos ⟨natDigits_ne_nil n, h⟩, natDigits,
    Nat.ofDigitChars_toDigits (by decide : 1 < 10) (by decide : 10 ≤ 10)]

theorem readInt_of_digits {cs : List Char} (h : cs.all Char.isDigit) :
    readInt cs = (readNat cs).map Int.ofNat := by
  unfold readInt
  split
  · simp at h
  · simp at h
  · rfl

theorem readInt_intDigits (n : Int) : readInt (intDigits n) = some n := by
  cases n with
  | ofNat n =>
    have h : (natDigits n).all Char.isDigit = true :=
      List.all_eq_true.2 fun c hc => isDigit_of_mem_natDigits hc
    simp [intDigits, readInt_of_digits h, readNat_natDigits]
  | negSucc n => simp [intDigits, readInt, readNat_natDigits, Int.negSucc_eq]

end Switchboard.Text
