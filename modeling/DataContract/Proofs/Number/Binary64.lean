import DataContract.Proofs.Number.Rounding
import Mathlib.Algebra.Order.Field.Basic

/-!
# The nearest floating-point number

A quotient that has 53 binary digits before the point once it is multiplied by a power of two is
rounded at that power. This covers all quotients below `2 ^ 53` that are not too small, and tells
the nearest number, its value and its whole part by one rounding to a whole number. Where that
comes to the next power of two, the number has another form but still this value.
-/

namespace DataContract
namespace Number

/-- Whether a quotient, multiplied by a power of two, has 53 binary digits before the point. -/
structure IsScale (num den scale : Nat) : Prop where
  /-- There are no fewer digits. -/
  low : 2 ^ 52 * den ≤ num * 2 ^ scale
  /-- There are no more digits. -/
  high : num * 2 ^ scale < 2 ^ 53 * den
  /-- The power is one of a floating-point number. -/
  least : scale ≤ 1074

namespace IsScale

variable
  {num den scale : Nat}

theorem den_pos (scaled : IsScale num den scale) : 0 < den := by
  have high := scaled.high
  by_contra zero
  obtain rfl : den = 0 := by omega
  simp at high

theorem num_pos (scaled : IsScale num den scale) : 0 < num := by
  have low := scaled.low
  have positive := scaled.den_pos
  by_contra zero
  obtain rfl : num = 0 := by omega
  simp at low
  omega

/-- The powers of two of the leading digits of the fraction tell the scale up to one. -/
theorem log2_bounds (scaled : IsScale num den scale) :
    den.log2 + 52 ≤ num.log2 + scale ∧ num.log2 + scale ≤ den.log2 + 53 := by
  have numLow : 2 ^ num.log2 ≤ num := Nat.log2_self_le (by have := scaled.num_pos; omega)
  have numHigh : num < 2 ^ (num.log2 + 1) := Nat.lt_log2_self
  have denLow : 2 ^ den.log2 ≤ den := Nat.log2_self_le (by have := scaled.den_pos; omega)
  have denHigh : den < 2 ^ (den.log2 + 1) := Nat.lt_log2_self
  constructor
  · have less : 2 ^ (den.log2 + 52) < 2 ^ (num.log2 + 1 + scale) := by
      calc 2 ^ (den.log2 + 52) = 2 ^ 52 * 2 ^ den.log2 := by ring
        _ ≤ 2 ^ 52 * den := Nat.mul_le_mul_left _ denLow
        _ ≤ num * 2 ^ scale := scaled.low
        _ < 2 ^ (num.log2 + 1) * 2 ^ scale :=
            Nat.mul_lt_mul_of_pos_right numHigh (Nat.two_pow_pos scale)
        _ = 2 ^ (num.log2 + 1 + scale) := (Nat.pow_add ..).symm
    have := (Nat.pow_lt_pow_iff_right (by decide)).mp less
    omega
  · have less : 2 ^ (num.log2 + scale) < 2 ^ (den.log2 + 1 + 53) := by
      calc 2 ^ (num.log2 + scale) = 2 ^ num.log2 * 2 ^ scale := Nat.pow_add ..
        _ ≤ num * 2 ^ scale := Nat.mul_le_mul_right _ numLow
        _ < 2 ^ 53 * den := scaled.high
        _ < 2 ^ 53 * 2 ^ (den.log2 + 1) := Nat.mul_lt_mul_of_pos_left denHigh (by decide)
        _ = 2 ^ (den.log2 + 1 + 53) := by ring
    have := (Nat.pow_lt_pow_iff_right (by decide)).mp less
    omega

/-- The scale depends on the quotient alone. -/
theorem congr
    {a b : Nat}
    (scaled : IsScale num den scale)
    (positive : 0 < b)
    (same : num * b = a * den) :
    IsScale a b scale := by
  have divisor := scaled.den_pos
  have moved : num * 2 ^ scale * b = a * 2 ^ scale * den := by
    calc num * 2 ^ scale * b = num * b * 2 ^ scale := by ring
      _ = a * 2 ^ scale * den := by rw [same]; ring
  refine ⟨?_, ?_, scaled.least⟩
  · refine Nat.le_of_mul_le_mul_right ?_ divisor
    calc 2 ^ 52 * b * den = 2 ^ 52 * den * b := by ring
      _ ≤ num * 2 ^ scale * b := Nat.mul_le_mul_right b scaled.low
      _ = a * 2 ^ scale * den := moved
  · refine Nat.lt_of_mul_lt_mul_right (a := den) ?_
    calc a * 2 ^ scale * den = num * 2 ^ scale * b := moved.symm
      _ < 2 ^ 53 * den * b := Nat.mul_lt_mul_of_pos_right scaled.high positive
      _ = 2 ^ 53 * b * den := by ring

end IsScale

/-- The scale of a quotient, from the powers of two of its leading digits. -/
def scale (num den : Nat) : Nat :=
  let guess := 52 + den.log2 - num.log2
  if num * 2 ^ guess < 2 ^ 52 * den then guess + 1 else guess

/-- Quotients that are neither too great nor too small have a scale. -/
theorem isScale_scale
    {num den : Nat}
    (high : num < 2 ^ 53 * den)
    (low : 2 ^ 52 * den ≤ num * 2 ^ 200) :
    IsScale num den (scale num den) := by
  have positive : 0 < den := by
    by_contra zero
    obtain rfl : den = 0 := by omega
    simp at high
  have numPositive : 0 < num := by
    by_contra zero
    obtain rfl : num = 0 := by omega
    simp at low
    omega
  have numLow : 2 ^ num.log2 ≤ num := Nat.log2_self_le (by omega)
  have numHigh : num < 2 ^ (num.log2 + 1) := Nat.lt_log2_self
  have denLow : 2 ^ den.log2 ≤ den := Nat.log2_self_le (by omega)
  have denHigh : den < 2 ^ (den.log2 + 1) := Nat.lt_log2_self
  unfold scale
  extract_lets guess
  have above : num * 2 ^ guess < 2 ^ 53 * den := by
    by_cases early : num.log2 ≤ 52 + den.log2
    · calc num * 2 ^ guess < 2 ^ (num.log2 + 1) * 2 ^ guess :=
            Nat.mul_lt_mul_of_pos_right numHigh (Nat.two_pow_pos guess)
        _ = 2 ^ (53 + den.log2) := by
            rw [← Nat.pow_add]
            congr 1
            omega
        _ = 2 ^ 53 * 2 ^ den.log2 := Nat.pow_add ..
        _ ≤ 2 ^ 53 * den := Nat.mul_le_mul_left _ denLow
    · have none : guess = 0 := by omega
      simpa [none] using high
  have next : num * 2 ^ (guess + 1) = 2 * (num * 2 ^ guess) := by ring
  have few : guess ≤ 200 := by
    by_contra many
    have more : num * 2 ^ 200 * 2 ≤ num * 2 ^ guess := by
      rw [Nat.mul_assoc, ← Nat.pow_succ]
      exact Nat.mul_le_mul_left num (Nat.pow_le_pow_right (by decide) (by omega))
    omega
  split
  · rename_i less
    refine ⟨?_, by omega, by omega⟩
    have enough : 2 ^ (den.log2 + 1) * 2 ^ 52 ≤ num * 2 ^ (guess + 1) := by
      calc 2 ^ (den.log2 + 1) * 2 ^ 52 = 2 ^ (den.log2 + 53) := by ring
        _ ≤ 2 ^ (num.log2 + (guess + 1)) := Nat.pow_le_pow_right (by decide) (by omega)
        _ = 2 ^ num.log2 * 2 ^ (guess + 1) := Nat.pow_add ..
        _ ≤ num * 2 ^ (guess + 1) := Nat.mul_le_mul_right _ numLow
    omega
  · exact ⟨by omega, above, by omega⟩

/-- To divide by the inverse of a power of two is to multiply by the power. -/
theorem unscale_neg (num den scale : Nat) :
    unscale num den (-(scale : Int)) = (num * 2 ^ scale, den) := by
  rw [unscale]
  split
  · obtain rfl : scale = 0 := by omega
    simp
  · simp

namespace Binary64

variable
  {num den scale : Nat}

/-- The form of a number that is rounded at a scale. -/
def atScale
    (negative : Bool)
    (rounded scale : Nat) : Binary64 :=
  if rounded = 2 ^ 53 then .finite negative (2 ^ 52) (-scale + 1)
  else .finite negative rounded (-scale)

/-- The nearest number to a quotient is that to which it is rounded at its scale. -/
theorem ofRatio_of_isScale
    (scaled : IsScale num den scale)
    (negative : Bool) :
    ofRatio negative num den = atScale negative (roundHalfEven (num * 2 ^ scale) den) scale := by
  have positive := scaled.num_pos
  have least := scaled.least
  obtain ⟨low, high⟩ := scaled.log2_bounds
  have exponent :
      max
        (if (unscale num den ((num.log2 : Int) - den.log2 - 53)).1 /
            (unscale num den ((num.log2 : Int) - den.log2 - 53)).2 < Nat.pow 2 53
          then (num.log2 : Int) - den.log2 - 53
          else (num.log2 : Int) - den.log2 - 53 + 1) minExponent = -(scale : Int) := by
    rw [minExponent]
    by_cases exact : num.log2 + scale = den.log2 + 53
    · have guess : (num.log2 : Int) - den.log2 - 53 = -(scale : Int) := by omega
      rw [guess, unscale_neg, if_pos]
      · omega
      · exact Nat.div_lt_of_lt_mul (scaled.high.trans_eq (Nat.mul_comm _ _))
    · have guess : (num.log2 : Int) - den.log2 - 53 = -((scale + 1 : Nat) : Int) := by omega
      rw [guess, unscale_neg, if_neg]
      · omega
      · rw [Nat.not_lt, Nat.le_div_iff_mul_le scaled.den_pos]
        calc 2 ^ 53 * den = 2 * (2 ^ 52 * den) := by ring
          _ ≤ 2 * (num * 2 ^ scale) := Nat.mul_le_mul_left 2 scaled.low
          _ = num * 2 ^ (scale + 1) := by ring
  rw [ofRatio, if_neg (by omega)]
  simp only [exponent, unscale_neg, atScale, maxExponent, Nat.pow_eq]
  have small : ¬ (971 : Int) ≤ -(scale : Int) := by omega
  have smaller : ¬ (971 : Int) < -(scale : Int) := by omega
  rw [if_neg small, if_neg smaller]

/-- A magnitude with the inverse of a power of two is a fraction with the power below. -/
theorem magnitude_neg (significand scale : Nat) :
    magnitude significand (-(scale : Int)) = (significand, 2 ^ scale) := by
  rw [magnitude]
  split
  · obtain rfl : scale = 0 := by omega
    simp
  · simp

/-- A number with a sign. -/
def signed
    (negative : Bool)
    (magnitude : Nat) : Int :=
  if negative then -magnitude else magnitude

/-- A number is its magnitude with its sign. -/
theorem signed_natAbs (number : Int) :
    signed (decide (number < 0)) number.natAbs = number := by
  by_cases negative : number < 0
  · rw [signed, if_pos (decide_eq_true negative)]
    omega
  · rw [signed, if_neg (by simpa using negative)]
    omega

/-- The value of a number that is rounded at a scale. -/
theorem toFraction?_atScale
    (negative : Bool)
    (rounded scale : Nat) :
    ∃ m d, 0 < d ∧ m * 2 ^ scale = rounded * d ∧
      (atScale negative rounded scale).toFraction? = some (signed negative m, d) := by
  rw [atScale]
  split
  · rename_i carried
    cases scale with
    | zero => exact ⟨2 ^ 53, 1, by decide, by omega, rfl⟩
    | succ scale =>
        have exponent : -((scale + 1 : Nat) : Int) + 1 = -(scale : Int) := by omega
        refine ⟨2 ^ 52, 2 ^ scale, Nat.two_pow_pos scale, ?_, ?_⟩
        · rw [carried]
          ring
        · rw [exponent, toFraction?, magnitude_neg]
          rfl
  · refine ⟨rounded, 2 ^ scale, Nat.two_pow_pos scale, rfl, ?_⟩
    rw [toFraction?, magnitude_neg]
    rfl

theorem tdiv_signed
    (negative : Bool)
    (m d : Nat) :
    (signed negative m).tdiv d = signed negative (m / d) := by
  cases negative with
  | true => exact Int.neg_tdiv (m : Int) d
  | false => exact Int.ofNat_tdiv m d

/-- The sum of two numbers with the same sign. -/
theorem signed_add
    (negative : Bool)
    (first second : Nat) :
    signed negative first + signed negative second = signed negative (first + second) := by
  cases negative with
  | true => simp [signed]; omega
  | false => simp [signed]

theorem signed_mul
    (negative : Bool)
    (first second : Nat) :
    signed negative first * second = signed negative (first * second) := by
  cases negative <;> simp [signed]

/-- The sign of a number is put back after rounding its magnitude. -/
theorem signed_roundHalfEven
    (negative : Bool)
    (num den : Nat) :
    (if signed negative num < 0 then -(roundHalfEven (signed negative num).natAbs den : Int)
      else roundHalfEven (signed negative num).natAbs den) =
      signed negative (roundHalfEven num den) := by
  cases negative with
  | true =>
      rcases Nat.eq_zero_or_pos num with rfl | positive
      · simp [signed, roundHalfEven]
      · simp [signed, positive]
  | false => simp [signed]

/-- The whole part of a number that is rounded at a scale. -/
theorem truncate?_atScale
    (negative : Bool)
    (rounded scale : Nat) :
    (atScale negative rounded scale).truncate? = some (signed negative (rounded / 2 ^ scale)) := by
  obtain ⟨m, d, positive, same, fraction⟩ := toFraction?_atScale negative rounded scale
  have quotient : m / d = rounded / 2 ^ scale := by
    rw [← Nat.mul_div_mul_right m d (Nat.two_pow_pos scale), same, Nat.mul_comm d,
      Nat.mul_div_mul_right _ _ positive]
  rw [truncate?, fraction, Option.map_some, tdiv_signed, quotient]

/-- Quotients with the same value have the same nearest number. -/
theorem ofRatio_congr
    {a b : Nat}
    (scaled : IsScale num den scale)
    (positive : 0 < b)
    (same : num * b = a * den)
    (negative : Bool) :
    ofRatio negative a b = ofRatio negative num den := by
  have rounded : roundHalfEven (num * 2 ^ scale) den = roundHalfEven (a * 2 ^ scale) b := by
    refine roundHalfEven_congr scaled.den_pos positive ?_
    rw [Nat.mul_right_comm, same, Nat.mul_right_comm]
  rw [ofRatio_of_isScale scaled, ofRatio_of_isScale (scaled.congr positive same), rounded]

/-- The number nearest to a fraction with a sign. -/
theorem ofFraction_signed
    (negative : Bool)
    {num : Nat}
    (positive : 0 < num)
    (den : Nat) :
    ofFraction (signed negative num) den = ofRatio negative num den := by
  cases negative with
  | true => simp [ofFraction, signed, positive]
  | false =>
      have sign : ¬ (num : Int) < 0 := by omega
      rw [ofFraction, signed, if_neg Bool.false_ne_true, decide_eq_false sign, Int.natAbs_natCast]

/-- The product of two numbers with powers of two below. -/
theorem mul_finite
    (negative : Bool)
    (first scale second other : Nat) :
    mul (.finite negative first (-(scale : Int))) (.finite false second (-(other : Int))) =
      ofRatio negative (first * second) (2 ^ scale * 2 ^ other) := by
  simp [mul, magnitude_neg]

/-- A zero has a fraction. -/
theorem exists_toFraction?_zero (negative : Bool) :
    ∃ d, 0 < d ∧ (zero negative).toFraction? = some (signed negative 0, d) := by
  have fraction : magnitude 0 minExponent = (0, 2 ^ 1074) := magnitude_neg 0 1074
  refine ⟨2 ^ 1074, Nat.two_pow_pos 1074, ?_⟩
  rw [zero, toFraction?, fraction, signed]

/-- Rounding the nearest number of a quotient to a whole number comes to little more than
rounding the quotient, if that is below `2 ^ 20`. -/
theorem exists_toFraction?_ofRatio
    (negative : Bool)
    (high : num < 2 ^ 20 * den)
    (low : 2 ^ 52 * den ≤ num * 2 ^ 200) :
    ∃ m d, (ofRatio negative num den).toFraction? = some (signed negative m, d) ∧
      |(roundHalfEven m d : ℚ) - num / den| ≤ 1 / 2 + 1 / 2 ^ 34 := by
  have scaled := isScale_scale (by omega) low
  generalize scale num den = scale at scaled
  obtain ⟨m, d, divisor, same, fraction⟩ :=
    toFraction?_atScale negative (roundHalfEven (num * 2 ^ scale) den) scale
  rw [← ofRatio_of_isScale scaled] at fraction
  refine ⟨m, d, fraction, ?_⟩
  have fine : 33 ≤ scale := by
    by_contra coarse
    have few : 2 ^ scale ≤ 2 ^ 32 := Nat.pow_le_pow_right (by decide) (by omega)
    have most := Nat.mul_le_mul_left num few
    have least := scaled.low
    omega
  have power : (2 : ℚ) ^ 33 ≤ 2 ^ scale := pow_le_pow_right₀ (by norm_num) fine
  have unit : (0 : ℚ) < 2 ^ scale := by positivity
  have below : (0 : ℚ) < d := by exact_mod_cast divisor
  have value : (m : ℚ) / d = roundHalfEven (num * 2 ^ scale) den / 2 ^ scale := by
    rw [div_eq_div_iff below.ne' unit.ne']
    exact_mod_cast same
  have first := abs_roundHalfEven_sub_le (num * 2 ^ scale) scaled.den_pos
  have second := abs_roundHalfEven_sub_le m divisor
  have scaledBack : |(m : ℚ) / d - num / den| ≤ 1 / 2 ^ 34 := by
    have factored : (m : ℚ) / d - num / den =
        (roundHalfEven (num * 2 ^ scale) den - (num * 2 ^ scale : Nat) / den) / 2 ^ scale := by
      rw [value]
      push_cast
      field_simp
    rw [factored, abs_div, abs_of_pos unit, div_le_iff₀ unit]
    calc |(roundHalfEven (num * 2 ^ scale) den : ℚ) - (num * 2 ^ scale : Nat) / den| ≤ 1 / 2 :=
          first
      _ = 1 / 2 ^ 34 * 2 ^ 33 := by norm_num
      _ ≤ 1 / 2 ^ 34 * 2 ^ scale := by gcongr
  calc |(roundHalfEven m d : ℚ) - num / den|
        ≤ |(roundHalfEven m d : ℚ) - m / d| + |(m : ℚ) / d - num / den| := abs_sub_le _ _ _
    _ ≤ 1 / 2 + 1 / 2 ^ 34 := add_le_add second scaledBack

/-- The same holds with a sign, and for zero, which has no scale. -/
theorem exists_toFraction?_ofFraction
    (negative : Bool)
    (num den : Nat)
    (high : num < 2 ^ 20 * den)
    (low : 0 < num → 2 ^ 52 * den ≤ num * 2 ^ 200) :
    ∃ m d, (ofFraction (signed negative num) den).toFraction? = some (signed negative m, d) ∧
      |(roundHalfEven m d : ℚ) - num / den| ≤ 1 / 2 + 1 / 2 ^ 34 := by
  rcases Nat.eq_zero_or_pos num with rfl | positive
  · obtain ⟨d, divisor, fraction⟩ := exists_toFraction?_zero false
    have rounded : roundHalfEven 0 d = 0 := by simpa using roundHalfEven_mul 0 divisor
    have unsigned : signed negative 0 = 0 := by cases negative <;> rfl
    refine ⟨0, d, ?_, by norm_num [rounded]⟩
    rw [unsigned]
    exact fraction
  · rw [ofFraction_signed negative positive]
    exact exists_toFraction?_ofRatio negative high (low positive)

end Binary64
end Number
end DataContract
