import DataContract.Number.Decimal
import Mathlib.Data.Rat.Cast.CharZero
import Mathlib.Tactic.Linarith
import Mathlib.Tactic.Positivity
import Mathlib.Tactic.Ring

/-!
# What decimal numbers amount to

A decimal number amounts to a rational number or to one of the two infinities, unless it is not a
number. Comparing the leading digits before anything is scaled makes no difference to the answer:
two numbers compare as equal exactly if they amount to the same. So equality of numbers, in
whatever form they are written, is equality of what they amount to.
-/

namespace DataContract
namespace Number

/-- What a number amounts to. -/
inductive Quantity
  | finite (value : ℚ)
  | infinite (negative : Bool)

section Digits

variable {number places digits : ℕ}

/-- A number has at most so many digits if it is below that power of ten. -/
theorem digitCount_le_iff (some : 0 < digits) : digitCount number ≤ digits ↔ number < 10 ^ digits :=
  Nat.length_toDigits_le_iff (by decide) some

theorem digitCount_pos : 0 < digitCount number :=
  Nat.length_toDigits_pos

/-- Every place that a number is moved by is a digit more. -/
theorem digitCount_mul_pow (positive : 0 < number) :
    digitCount (number * 10 ^ places) = digitCount number + places := by
  have moved : 0 < digitCount (number * 10 ^ places) := digitCount_pos
  apply Nat.le_antisymm
  · rw [digitCount_le_iff (Nat.add_pos_left digitCount_pos _), pow_add]
    have below := (digitCount_le_iff digitCount_pos).mp (Nat.le_refl (digitCount number))
    exact Nat.mul_lt_mul_of_pos_right below (by positivity)
  · have below := (digitCount_le_iff moved).mp (Nat.le_refl _)
    have more : places < digitCount (number * 10 ^ places) := by
      rw [← Nat.pow_lt_pow_iff_right (by decide : 1 < 10)]
      exact lt_of_le_of_lt (Nat.le_mul_of_pos_left _ positive) below
    obtain ⟨rest, whole⟩ := Nat.exists_eq_add_of_le more.le
    rw [whole, pow_add, mul_comm] at below
    have short := (digitCount_le_iff (by omega : 0 < rest)).mpr (Nat.lt_of_mul_lt_mul_left below)
    omega

end Digits

namespace Decimal

section Magnitudes

variable
  {coefficient other : ℕ}
  {exponent power : ℤ}

/-- Magnitudes are equal if their coefficients are, with the one with the greater power of ten
written out to the places of the other. -/
theorem mul_zpow_eq_iff (less : exponent ≤ power) :
    (coefficient : ℚ) * 10 ^ exponent = other * 10 ^ power ↔
      coefficient = other * 10 ^ (power - exponent).toNat := by
  obtain ⟨places, rfl⟩ := Int.le.dest less
  have scale : (10 : ℚ) ^ exponent ≠ 0 := zpow_ne_zero _ (by norm_num)
  rw [add_sub_cancel_left, Int.toNat_natCast, zpow_add₀ (by norm_num), zpow_natCast,
    mul_left_comm, mul_comm _ ((10 : ℚ) ^ exponent), mul_right_inj' scale]
  exact_mod_cast Iff.rfl

/-- The leading digits of equal magnitudes have the same power. -/
theorem leadingPower_eq
    (positive : 0 < coefficient)
    (less : exponent ≤ power)
    (same : (coefficient : ℚ) * 10 ^ exponent = other * 10 ^ power) :
    leadingPower coefficient exponent = leadingPower other power := by
  have aligned := (mul_zpow_eq_iff less).mp same
  have otherPositive : 0 < other := by
    rcases Nat.eq_zero_or_pos other with rfl | some
    · omega
    · exact some
  rw [leadingPower, leadingPower, aligned, digitCount_mul_pow otherPositive]
  omega

/-- Magnitudes compare as equal exactly if they amount to the same. -/
theorem compareMagnitude_eq_eq_iff :
    compareMagnitude coefficient exponent other power = .eq ↔
      (coefficient : ℚ) * 10 ^ exponent = other * 10 ^ power := by
  have scale (places : ℤ) : (10 : ℚ) ^ places ≠ 0 := zpow_ne_zero _ (by norm_num)
  unfold compareMagnitude
  by_cases zero : coefficient = 0
  · by_cases otherZero : other = 0 <;> simp [zero, otherZero, scale]
  by_cases otherZero : other = 0
  · simp [zero, otherZero, scale]
  have leading (same : (coefficient : ℚ) * 10 ^ exponent = other * 10 ^ power) :
      leadingPower coefficient exponent = leadingPower other power := by
    rcases Int.le_total exponent power with less | less
    · exact leadingPower_eq (Nat.pos_of_ne_zero zero) less same
    · exact (leadingPower_eq (Nat.pos_of_ne_zero otherZero) less same.symm).symm
  rw [if_neg zero, if_neg otherZero]
  split
  · split
    · rename_i less
      rw [Nat.compare_eq_eq, mul_zpow_eq_iff less, Nat.pow_eq]
    · rename_i less
      rw [Nat.compare_eq_eq, @eq_comm ℚ, mul_zpow_eq_iff (by omega), eq_comm, Nat.pow_eq]
  · rename_i apart
    constructor
    · intro equal
      exact absurd equal apart
    · intro same
      exact absurd (Std.compare_eq_iff_eq.mpr (leading same)) apart

/-- What a finite number amounts to. -/
def signed (negative : Bool) (coefficient : ℕ) (exponent : ℤ) : ℚ :=
  (if negative then -1 else 1) * (coefficient * 10 ^ exponent)

/-- Finite numbers are equal exactly if they amount to the same. -/
theorem compare?_finite_eq_eq_iff {negative otherNegative : Bool} :
    (finite negative coefficient exponent).compare? (finite otherNegative other power) =
        some .eq ↔
      signed negative coefficient exponent = signed otherNegative other power := by
  have positive {number : ℕ} (places : ℤ) (some : number ≠ 0) :
      (0 : ℚ) < number * 10 ^ places :=
    mul_pos (by exact_mod_cast Nat.pos_of_ne_zero some) (zpow_pos (by norm_num) _)
  rw [compare?, signed, signed]
  by_cases zero : coefficient = 0
  · by_cases otherZero : other = 0
    · simp [zero, otherZero]
    · have counted : (other != 0) = true := bne_iff_ne.mpr otherZero
      have apart := (positive power otherZero).ne
      cases otherNegative <;> simp [zero, otherZero, counted, compareMagnitude] <;>
        simpa [otherZero] using apart
  have counted : (coefficient != 0) = true := bne_iff_ne.mpr zero
  by_cases otherZero : other = 0
  · have apart := (positive exponent zero).ne'
    cases negative <;> simp [zero, otherZero, counted, compareMagnitude] <;>
      simpa [zero] using apart
  have otherCounted : (other != 0) = true := bne_iff_ne.mpr otherZero
  have above := positive exponent zero
  have otherAbove := positive power otherZero
  cases negative with
  | false =>
      cases otherNegative with
      | false => simp [zero, compareMagnitude_eq_eq_iff]
      | true =>
          have apart : ¬ (coefficient : ℚ) * 10 ^ exponent = -(other * 10 ^ power) := by
            linarith
          simp [zero, otherCounted, apart]
  | true =>
      cases otherNegative with
      | false =>
          have apart : ¬ -((coefficient : ℚ) * 10 ^ exponent) = other * 10 ^ power := by
            linarith
          simp [zero, counted, apart]
      | true => simpa [zero, counted, otherCounted, compareMagnitude_eq_eq_iff] using eq_comm

end Magnitudes

/-- What a number amounts to, if it is one. -/
def quantity? : Decimal → Option Quantity
  | .finite negative coefficient exponent => some (.finite (signed negative coefficient exponent))
  | .infinite negative => some (.infinite negative)
  | .nan .. => none

/-- What is not a number amounts to nothing. -/
theorem quantity?_eq_none {number : Decimal} : number.quantity? = none ↔ number.isNaN = true := by
  cases number <;> simp [quantity?, isNaN]

/-- Numbers are equal exactly if they amount to the same. -/
theorem compare?_eq_eq_iff {first second : Decimal} :
    first.compare? second = some .eq ↔
      ∃ quantity, first.quantity? = some quantity ∧ second.quantity? = some quantity := by
  cases first with
  | nan => simp [compare?, quantity?]
  | infinite negative =>
      cases second with
      | nan => simp [compare?, quantity?]
      | infinite other => cases negative <;> cases other <;> simp [compare?, quantity?]
      | finite => cases negative <;> simp [compare?, quantity?]
  | finite negative coefficient exponent =>
      cases second with
      | nan => simp [compare?, quantity?]
      | infinite other => cases other <;> simp [compare?, quantity?]
      | finite otherNegative other power =>
          rw [compare?_finite_eq_eq_iff]
          simp [quantity?, eq_comm]

/-- A whole number amounts to itself. -/
theorem quantity?_ofInt (number : ℤ) : (ofInt number).quantity? = some (.finite number) := by
  have magnitude : signed (decide (number < 0)) number.natAbs 0 = number := by
    rw [signed, zpow_zero, mul_one, Nat.cast_natAbs]
    by_cases below : number < 0
    · simp [below, abs_of_neg below]
    · simp [below, abs_of_nonneg (Int.not_lt.mp below)]
  rw [ofInt, quantity?, magnitude]

/-- Whole numbers are equal only if they are the same. -/
theorem compare?_ofInt_eq_eq {number other : ℤ} :
    (ofInt number).compare? (ofInt other) = some .eq ↔ number = other := by
  rw [compare?_eq_eq_iff, quantity?_ofInt, quantity?_ofInt]
  simp [eq_comm]

end Decimal
end Number
end DataContract
