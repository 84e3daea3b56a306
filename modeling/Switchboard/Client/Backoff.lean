-- SUMMARY: A delay that grows from attempt to attempt, reckoned in numbers of any type.

/-!
# Backing off

The delay before the first attempt is the initial one. An exponential backoff
multiplies it with every further attempt; a cap bounds it. A positive jitter adds a
random part of the delay on top, again up to the cap. Delays are in nanoseconds, but
what is multiplied is the whole milliseconds of a delay, and the product is cut to
whole milliseconds again.

The numbers in which this is reckoned are a parameter: doubles where it runs, and
exact numbers where it is reasoned about.
-/

namespace Switchboard

/-- How whole numbers go over into numbers of a type, and back. -/
class Reckoning (α : Type) where
  ofNat : Nat → α
  /-- The whole part, held between zero and the largest 64-bit number. -/
  wholePart : α → Nat

instance : Reckoning Float where
  ofNat := Float.ofNat
  wholePart x := x.toUInt64.toNat

structure Backoff (α : Type) where
  /-- In nanoseconds, as is the cap. -/
  initial : Nat
  cap : Nat
  multiplier : α
  jitter : α
  exponential : Bool

namespace Backoff

/-- The nanoseconds of a millisecond. -/
def milli : Nat := 1000000

/-- The exponent of the multiplier at an attempt: a signed number of 32 bits. -/
def exponent (attempt : Nat) : Int := Int.bmod (attempt - 1 : Nat) 0x100000000

variable {α : Type} [Mul α]

/-- `r` times `x` to the power `n`, by repeated squaring; `bits` bounds the bits
of `n`. -/
def timesPower (x r : α) : (bits : Nat) → (n : Nat) → α
  | 0, _ => r
  | bits + 1, n =>
    let r := if n % 2 = 1 then r * x else r
    if n / 2 = 0 then r else timesPower (x * x) r bits (n / 2)

variable [Div α] [Reckoning α]

open Reckoning

/-- `x` to a power of 32 bits. -/
def power (x : α) (n : Int) : α :=
  let p := timesPower x (ofNat 1) 32 n.natAbs
  if n < 0 then ofNat 1 / p else p

/-- The delay before the cap and the jitter. -/
def rawDelay (b : Backoff α) (attempt : Nat) : Nat :=
  if b.exponential && 1 < attempt then
    wholePart (ofNat (b.initial / milli) * power b.multiplier (exponent attempt)) * milli
  else b.initial

variable [LT α] [DecidableLT α]

/-- A delay with its jitter, when chance adds `chance` milliseconds of those that the
jitter allows. -/
def jittered (b : Backoff α) (delay chance : Nat) : Nat :=
  if ofNat 0 < b.jitter then
    let ms := delay / milli
    (ms + min chance (wholePart (ofNat ms * b.jitter))) * milli
  else delay

/-- The delay before an attempt; none before the first failure. -/
def delay (b : Backoff α) (attempt chance : Nat) : Nat :=
  if attempt = 0 then 0
  else min (b.jittered (min (b.rawDelay attempt) b.cap) chance) b.cap

end Backoff

end Switchboard
