-- SUMMARY: How the delays of an exponential backoff follow on each other, reckoned exactly.
import Mathlib.Data.EReal.Inv
import Mathlib.Data.Nat.Find
import Switchboard.Client.Backoff

/-!
# The delays of a backoff

Reckoned in exact numbers, repeated squaring is the power (`timesPower_eq`), and a
multiplier of at least one makes it grow with the exponent (`power_mono`). So delays
follow the exponents of their attempts (`scaled_exponent_mono`). The exponent grows
with the attempt up to the attempt `2 ^ 31`; there it falls to its least value, and grows
again from it (`exponent_of_le`, `exponent_of_lt`).
-/

namespace Switchboard

namespace Reckoning

/-- The largest whole part. -/
def largest : Nat := 2 ^ 64 - 1

open Classical in
/-- Exact numbers: the reals and, since doubles have them too, the infinities. -/
noncomputable instance : Reckoning EReal where
  ofNat n := n
  wholePart x := Nat.findGreatest (fun n => (n : EReal) ≤ x) largest

variable {x y : EReal}

theorem ofNat_eq (n : Nat) : ofNat n = (n : EReal) := rfl

theorem wholePart_le_largest (x : EReal) : wholePart x ≤ largest := Nat.findGreatest_le _

theorem wholePart_mono (hxy : x ≤ y) : wholePart x ≤ wholePart y :=
  Nat.findGreatest_mono_left (fun _ hn => le_trans hn hxy) largest

theorem wholePart_natCast (n : Nat) : wholePart (n : EReal) = min n largest := by
  apply le_antisymm
  · have hzero : ((0 : Nat) : EReal) ≤ n := EReal.natCast_le_iff.mpr (Nat.zero_le n)
    have hwhole : ((wholePart (n : EReal) : Nat) : EReal) ≤ n :=
      Nat.findGreatest_spec (P := fun k => (k : EReal) ≤ n) (Nat.zero_le largest) hzero
    exact le_min (EReal.natCast_le_iff.mp hwhole) (wholePart_le_largest _)
  · exact Nat.le_findGreatest (min_le_right n largest) (EReal.natCast_le_iff.mpr (min_le_left n largest))

theorem wholePart_eq_zero (hx : x < 1) : wholePart x = 0 := by
  refine Nat.findGreatest_eq_zero_iff.mpr fun n hpos _ hn => ?_
  have hone : ((1 : Nat) : EReal) ≤ n := EReal.natCast_le_iff.mpr hpos
  exact absurd (hone.trans hn) (by simpa using hx)

end Reckoning

namespace Backoff

open Reckoning

/-! ## Powers -/

theorem timesPower_eq {α : Type} [CommMonoid α] (x r : α) {bits n : Nat} (hn : n < 2 ^ bits) :
    timesPower x r bits n = r * x ^ n := by
  induction bits generalizing x r n with
  | zero =>
    obtain rfl : n = 0 := by simpa using hn
    rw [timesPower, pow_zero, mul_one]
  | succ bits ih =>
    have hhalf : n / 2 < 2 ^ bits := by omega
    have hsplit : x ^ n = x ^ (n % 2) * (x * x) ^ (n / 2) := by
      rw [← pow_two, ← pow_mul, ← pow_add, Nat.mod_add_div]
    have hodd : (if n % 2 = 1 then r * x else r) = r * x ^ (n % 2) := by
      rcases Nat.mod_two_eq_zero_or_one n with h | h
      · rw [h, if_neg (by omega), pow_zero, mul_one]
      · rw [h, if_pos rfl, pow_one]
    rw [timesPower, hodd, ih (x * x) _ hhalf, hsplit, mul_assoc]
    split
    · next hzero => rw [hzero, pow_zero, mul_one]
    · rfl

section Power

variable {m : EReal} {n : Nat}

theorem power_natCast (m : EReal) (hn : n < 2 ^ 32) : power m n = m ^ n := by
  rw [power, Int.natAbs_natCast, timesPower_eq _ _ hn, if_neg (by omega), ofNat_eq, Nat.cast_one, one_mul]

theorem power_neg (m : EReal) (hpos : 0 < n) (hn : n < 2 ^ 32) : power m (-n) = (m ^ n)⁻¹ := by
  rw [power, Int.natAbs_neg, Int.natAbs_natCast, timesPower_eq _ _ hn, if_pos (by omega), ofNat_eq,
    Nat.cast_one, one_mul, one_div]

theorem power_zero (m : EReal) : power m 0 = 1 := power_natCast m (n := 0) (by omega)

/-- A number that is at least one has powers that grow with the exponent. -/
theorem power_mono (hm : 1 ≤ m) {e e' : Int} (hee' : e ≤ e') (he : -2 ^ 31 ≤ e) (he' : e' < 2 ^ 31) :
    power m e ≤ power m e' := by
  have hone (n : Nat) : 1 ≤ m ^ n := one_le_pow₀ hm
  have hpos (n : Nat) : m ^ n ∈ Set.Ioi (0 : EReal) := zero_lt_one.trans_le (hone n)
  have hinv {n n' : Nat} (h : n' ≤ n) : (m ^ n)⁻¹ ≤ (m ^ n')⁻¹ :=
    EReal.inv_strictAntiOn.antitoneOn (hpos n') (hpos n) (pow_le_pow_right₀ hm h)
  rcases le_or_gt 0 e with hsign | hsign
  · lift e to Nat using hsign
    lift e' to Nat using by omega
    rw [power_natCast m (by omega), power_natCast m (by omega)]
    exact pow_le_pow_right₀ hm (by omega)
  · obtain ⟨n, rfl⟩ := Int.exists_eq_neg_ofNat hsign.le
    rw [power_neg m (by omega) (by omega)]
    rcases le_or_gt 0 e' with hsign' | hsign'
    · lift e' to Nat using hsign'
      rw [power_natCast m (by omega)]
      calc (m ^ n)⁻¹ ≤ (m ^ 0)⁻¹ := hinv (Nat.zero_le n)
        _ = 1 := by rw [pow_zero, inv_one]
        _ ≤ m ^ e' := hone e'
    · obtain ⟨n', rfl⟩ := Int.exists_eq_neg_ofNat hsign'.le
      rw [power_neg m (by omega) (by omega)]
      exact hinv (by omega)

end Power

/-! ## Exponents -/

section Exponent

variable {i : Nat}

theorem exponent_of_le (hi : i ≤ 2 ^ 31) : exponent i = (i - 1 : Nat) :=
  Int.bmod_eq_of_le (by omega) (by omega)

theorem exponent_of_lt (hlow : 2 ^ 31 < i) (hhigh : i < 2 ^ 32) : exponent i = (i - 1 : Nat) - 2 ^ 32 := by
  unfold exponent
  rw [Int.bmod_def]
  split <;> omega

theorem exponent_bounds (i : Nat) : -2 ^ 31 ≤ exponent i ∧ exponent i < 2 ^ 31 :=
  ⟨Int.le_bmod (by omega), Int.bmod_lt (by omega)⟩

end Exponent

/-! ## Delays -/

/-- An exponential backoff without jitter, from whole milliseconds on and not towards zero. -/
structure Growing (b : Backoff EReal) : Prop where
  exponential : b.exponential
  jitter : b.jitter ≤ 0
  initial : milli ∣ b.initial
  multiplier : 1 ≤ b.multiplier

section Delay

variable {b : Backoff EReal} {i j : Nat}

/-- The delay that an exponent gives. -/
noncomputable def scaled (b : Backoff EReal) (e : Int) : Nat :=
  min (wholePart (((b.initial / milli : Nat) : EReal) * power b.multiplier e) * milli) b.cap

theorem scaled_mono (hb : b.Growing) {e e' : Int} (hee' : e ≤ e') (he : -2 ^ 31 ≤ e) (he' : e' < 2 ^ 31) :
    b.scaled e ≤ b.scaled e' := by
  have hwhole := wholePart_mono (mul_le_mul_of_nonneg_left (power_mono hb.multiplier hee' he he')
    (Nat.cast_nonneg' (b.initial / milli)))
  exact min_le_min_right _ (Nat.mul_le_mul_right milli hwhole)

theorem scaled_zero (hb : b.Growing) : b.scaled 0 = min (min b.initial b.cap) (largest * milli) := by
  have hinitial : b.initial / milli * milli = b.initial := Nat.div_mul_cancel hb.initial
  rw [scaled, power_zero, mul_one, wholePart_natCast, min_mul_of_nonneg _ _ (Nat.zero_le milli), hinitial,
    min_right_comm]

theorem scaled_le_largest (b : Backoff EReal) (e : Int) : b.scaled e ≤ largest * milli :=
  (min_le_left _ _).trans (Nat.mul_le_mul_right milli (wholePart_le_largest _))

theorem delay_eq (hb : b.Growing) (hi : i ≠ 0) (chance : Nat) :
    b.delay i chance = min (b.rawDelay i) b.cap := by
  have hjittered (d : Nat) : b.jittered d chance = d := if_neg (by simpa [ofNat_eq] using hb.jitter)
  rw [delay, if_neg hi, hjittered, min_assoc, min_self]

theorem delay_one (hb : b.Growing) (chance : Nat) : b.delay 1 chance = min b.initial b.cap := by
  rw [delay_eq hb one_ne_zero, rawDelay, if_neg (by simp)]

theorem delay_of_one_lt (hb : b.Growing) (hi : 1 < i) (chance : Nat) :
    b.delay i chance = b.scaled (exponent i) := by
  rw [delay_eq hb (by omega), rawDelay, if_pos (by simp [hb.exponential, hi]), scaled, ofNat_eq]

/-- Unless the first delay is beyond the largest whole part, it is the one that the exponent zero gives. -/
theorem delay_of_le_largest (hb : b.Growing) (hle : min b.initial b.cap ≤ largest * milli) (hi : 1 ≤ i)
    (chance : Nat) : b.delay i chance = b.scaled (exponent i) := by
  rcases hi.eq_or_lt with rfl | hi
  · rw [delay_one hb, exponent_of_le (by omega), Nat.sub_self, Nat.cast_zero, scaled_zero hb, min_eq_left hle]
  · exact delay_of_one_lt hb hi chance

/-- Delays follow the exponents of their attempts. -/
theorem scaled_exponent_mono (hb : b.Growing) (h : exponent i ≤ exponent j) :
    b.scaled (exponent i) ≤ b.scaled (exponent j) :=
  scaled_mono hb h (exponent_bounds i).1 (exponent_bounds j).2

/-- The delays of an exponential backoff without jitter, whose multiplier is at least one, before an
attempt and one that is not earlier. They are within the cap. Up to the attempt `2 ^ 31` they do not
shrink and are at least the initial delay or the cap, if that is within what whole milliseconds of 64
bits can say; a first delay beyond that falls back to it. From the attempt `2 ^ 31` on they start anew
from at most the first delay, and do not shrink from there. -/
theorem delay_never_shrinks (hb : b.Growing) (hi : 1 ≤ i) (hij : i ≤ j) (hj : j < 2 ^ 32)
    (chance chance' : Nat) :
    b.delay j chance' ≤ b.cap ∧
    (j ≤ 2 ^ 31 → min b.initial b.cap ≤ largest * milli →
      b.delay i chance ≤ b.delay j chance' ∧ min b.initial b.cap ≤ b.delay i chance) ∧
    (1 < j → j ≤ 2 ^ 31 → largest * milli < min b.initial b.cap → b.delay j chance' = largest * milli) ∧
    (2 ^ 31 < i → b.delay i chance ≤ b.delay j chance' ∧ b.delay j chance' ≤ min b.initial b.cap) := by
  refine ⟨?cap, ?grows, ?saturated, ?wrapped⟩
  case cap =>
    rw [delay_eq hb (by omega)]
    exact min_le_right _ _
  case grows =>
    intro hhigh hle
    have hfirst : exponent 1 ≤ exponent i := by
      rw [exponent_of_le (by omega), exponent_of_le (by omega)]
      omega
    have hnext : exponent i ≤ exponent j := by
      rw [exponent_of_le (by omega), exponent_of_le hhigh]
      omega
    rw [← delay_one hb chance, delay_of_le_largest hb hle hi, delay_of_le_largest hb hle (hi.trans hij),
      delay_of_le_largest hb hle le_rfl]
    exact ⟨scaled_exponent_mono hb hnext, scaled_exponent_mono hb hfirst⟩
  case saturated =>
    intro hlow hhigh hlt
    have hzero : b.scaled 0 ≤ b.scaled (exponent j) := by
      refine scaled_mono hb ?_ (by omega) (exponent_bounds j).2
      rw [exponent_of_le hhigh]
      omega
    rw [scaled_zero hb, min_eq_right hlt.le] at hzero
    rw [delay_of_one_lt hb hlow]
    exact le_antisymm (scaled_le_largest b _) hzero
  case wrapped =>
    intro hlow
    have hnext : exponent i ≤ exponent j := by
      rw [exponent_of_lt hlow (by omega), exponent_of_lt (by omega) hj]
      omega
    have hzero : b.scaled (exponent j) ≤ b.scaled 0 := by
      refine scaled_mono hb ?_ (exponent_bounds j).1 (by omega)
      rw [exponent_of_lt (by omega) hj]
      omega
    rw [scaled_zero hb] at hzero
    rw [delay_of_one_lt hb (by omega), delay_of_one_lt hb (by omega)]
    exact ⟨scaled_exponent_mono hb hnext, hzero.trans (min_le_left _ _)⟩

/-- One second, doubled up to thirty. -/
noncomputable def doubling : Backoff EReal where
  initial := 1000 * milli
  cap := 30000 * milli
  multiplier := 2
  jitter := 0
  exponential := true

theorem growing_doubling : doubling.Growing where
  exponential := rfl
  jitter := le_rfl
  initial := Nat.dvd_mul_left milli 1000
  multiplier := one_le_two

theorem delay_never_shrinks_doubling :
    doubling.Growing ∧ doubling.delay 3 0 ≤ doubling.delay 20 0 ∧ doubling.delay 20 0 ≤ 30000 * milli ∧
      1000 * milli ≤ doubling.delay 3 0 := by
  have hfirst : min doubling.initial doubling.cap = 1000 * milli := by decide
  obtain ⟨hcap, hgrows, -, -⟩ :=
    delay_never_shrinks growing_doubling (i := 3) (j := 20) (by omega) (by omega) (by omega) 0 0
  obtain ⟨hmono, hleast⟩ := hgrows (by omega) (by rw [hfirst]; decide)
  exact ⟨growing_doubling, hmono, hcap, hfirst ▸ hleast⟩

/-- After the attempt `2 ^ 31` there is no delay at all: its exponent is the least one. -/
theorem delay_drops_to_zero :
    doubling.Growing ∧ doubling.delay 1 0 = 1000 * milli ∧ doubling.delay (2 ^ 31 + 1) 0 = 0 ∧
      ¬doubling.delay 1 0 ≤ doubling.delay (2 ^ 31 + 1) 0 := by
  have hfirst : doubling.delay 1 0 = 1000 * milli := by
    rw [delay_one growing_doubling]
    decide
  have hpower : power doubling.multiplier (-(10 : Nat)) = (((2 : ℝ) ^ 10)⁻¹ : ℝ) := by
    rw [power_neg _ (by omega) (by omega), EReal.coe_inv, EReal.coe_pow]
    rfl
  have hbelow : ((1000 : Nat) : EReal) * (((2 : ℝ) ^ 10)⁻¹ : ℝ) < 1 := by
    rw [← EReal.coe_natCast, ← EReal.coe_mul, ← EReal.coe_one, EReal.coe_lt_coe_iff]
    norm_num
  have htenth : doubling.scaled (-(10 : Nat)) = 0 := by
    have hms : doubling.initial / milli = 1000 := by decide
    rw [scaled, hpower, hms, wholePart_eq_zero hbelow, Nat.zero_mul, Nat.zero_min]
  have hzero : doubling.delay (2 ^ 31 + 1) 0 = 0 := by
    have hle : doubling.scaled (exponent (2 ^ 31 + 1)) ≤ doubling.scaled (-(10 : Nat)) := by
      refine scaled_mono growing_doubling ?_ (exponent_bounds _).1 (by omega)
      rw [exponent_of_lt (by omega) (by omega)]
      omega
    rw [delay_of_one_lt growing_doubling (by omega)]
    exact Nat.eq_zero_of_le_zero (htenth ▸ hle)
  refine ⟨growing_doubling, hfirst, hzero, ?_⟩
  rw [hfirst, hzero]
  decide

end Delay

end Backoff

end Switchboard
