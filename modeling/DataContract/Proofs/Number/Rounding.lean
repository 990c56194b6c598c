import DataContract.Number.Binary64
import Mathlib.Algebra.Order.Field.Rat
import Mathlib.Tactic.FieldSimp
import Mathlib.Tactic.Linarith
import Mathlib.Tactic.Ring

/-!
# Rounding to whole numbers

A quotient is rounded to the nearest whole number, and to the even one of two that are equally
near. All that is said about the rounding follows from which number that is: it is within a half
of the quotient, a tie makes it even, and no other number is so. It depends on the quotient
alone, not on how it is written as a fraction.
-/

namespace DataContract
namespace Number

variable {num den : Nat}

/-- Whether a whole number is the nearest to a quotient, or the even one of the two nearest. -/
def IsNearest (num den whole : Nat) : Prop :=
  (2 * (whole * den) < 2 * num + den ∧ 2 * num < 2 * (whole * den) + den) ∨
    (whole % 2 = 0 ∧ (2 * (whole * den) = 2 * num + den ∨ 2 * num = 2 * (whole * den) + den))

/-- A quotient is rounded to the nearest whole number. -/
theorem isNearest_roundHalfEven
    (num : Nat)
    (positive : 0 < den) :
    IsNearest num den (roundHalfEven num den) := by
  have rest := Nat.mod_lt num positive
  have whole : num / den * den + num % den = num := Nat.div_add_mod' num den
  have next : (num / den + 1) * den = num / den * den + den := Nat.succ_mul _ _
  rw [IsNearest, roundHalfEven]
  split
  · omega
  · split
    · omega
    · split
      · omega
      · omega

/-- Only one whole number is the nearest. -/
theorem IsNearest.unique
    (positive : 0 < den)
    {whole other : Nat}
    (nearest : IsNearest num den whole)
    (again : IsNearest num den other) :
    whole = other := by
  have apart (first second : Nat) (less : first < second) :
      first * den + den ≤ second * den ∧
        (second * den = first * den + den → second = first + 1) := by
    have more : (first + 1) * den ≤ second * den := Nat.mul_le_mul_right den less
    rw [Nat.succ_mul] at more
    refine ⟨more, fun same => ?_⟩
    rw [← Nat.succ_mul] at same
    exact Nat.eq_of_mul_eq_mul_right positive same
  rw [IsNearest] at nearest again
  rcases Nat.lt_trichotomy whole other with less | same | more
  · have := apart whole other less
    omega
  · exact same
  · have := apart other whole more
    omega

theorem roundHalfEven_eq_iff
    (positive : 0 < den)
    {whole : Nat} :
    roundHalfEven num den = whole ↔ IsNearest num den whole := by
  constructor
  · rintro rfl
    exact isNearest_roundHalfEven num positive
  · exact (isNearest_roundHalfEven num positive).unique positive

/-- A common factor of a fraction makes no difference. -/
theorem isNearest_mul_right
    {factor : Nat}
    (positive : 0 < factor)
    (num den whole : Nat) :
    IsNearest (num * factor) (den * factor) whole ↔ IsNearest num den whole := by
  have below : 2 * (whole * (den * factor)) = 2 * (whole * den) * factor := by ring
  have above : 2 * (num * factor) = 2 * num * factor := by ring
  rw [IsNearest, IsNearest, below, above, ← Nat.add_mul, ← Nat.add_mul,
    Nat.mul_lt_mul_right positive, Nat.mul_lt_mul_right positive,
    Nat.mul_right_cancel_iff positive, Nat.mul_right_cancel_iff positive]

/-- Two fractions with the same value are rounded to the same number. -/
theorem roundHalfEven_congr
    {a b : Nat}
    (positive : 0 < den)
    (other : 0 < b)
    (same : num * b = a * den) :
    roundHalfEven num den = roundHalfEven a b := by
  rw [roundHalfEven_eq_iff positive, ← isNearest_mul_right other, same, Nat.mul_comm den b,
    isNearest_mul_right positive]
  exact isNearest_roundHalfEven a other

/-- A quotient is at most a half away from the number to which it is rounded. -/
theorem roundHalfEven_bounds
    (num : Nat)
    (positive : 0 < den) :
    2 * (roundHalfEven num den * den) ≤ 2 * num + den ∧
      2 * num ≤ 2 * (roundHalfEven num den * den) + den := by
  have nearest := isNearest_roundHalfEven num positive
  rw [IsNearest] at nearest
  omega

/-- A whole number is not changed by rounding. -/
@[simp] theorem roundHalfEven_mul
    (whole : Nat)
    (positive : 0 < den) :
    roundHalfEven (whole * den) den = whole := by
  rw [roundHalfEven_eq_iff positive, IsNearest]
  omega

/-- The number to which a quotient is rounded is at most a half away from it. -/
theorem abs_roundHalfEven_sub_le
    (num : Nat)
    (positive : 0 < den) :
    |(roundHalfEven num den : ℚ) - num / den| ≤ 1 / 2 := by
  obtain ⟨above, below⟩ := roundHalfEven_bounds num positive
  have divisor : (0 : ℚ) < den := by exact_mod_cast positive
  have upper : 2 * ((roundHalfEven num den : ℚ) * den) ≤ 2 * num + den := by exact_mod_cast above
  have lower : 2 * (num : ℚ) ≤ 2 * (roundHalfEven num den * den) + den := by exact_mod_cast below
  have quotient : (num : ℚ) / den * den = num := div_mul_cancel₀ _ divisor.ne'
  rw [abs_le]
  constructor
  · nlinarith
  · nlinarith

/-- A quotient is rounded to a number that is less than a half away from it. -/
theorem roundHalfEven_eq_of_abs_sub_lt
    {whole : Nat}
    (positive : 0 < den)
    (near : |(whole : ℚ) - num / den| < 1 / 2) :
    roundHalfEven num den = whole := by
  have divisor : (0 : ℚ) < den := by exact_mod_cast positive
  have quotient : (num : ℚ) / den * den = num := div_mul_cancel₀ _ divisor.ne'
  rw [abs_lt] at near
  rw [roundHalfEven_eq_iff positive]
  refine .inl ⟨?_, ?_⟩
  · have above : 2 * ((whole : ℚ) * den) < 2 * num + den := by nlinarith
    exact_mod_cast above
  · have below : 2 * (num : ℚ) < 2 * (whole * den) + den := by nlinarith
    exact_mod_cast below

end Number
end DataContract
