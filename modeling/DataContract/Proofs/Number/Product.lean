import DataContract.Proofs.Number.Binary64

/-!
# Dividing and multiplying back

The number nearest to a quotient is not the quotient, so multiplied by the divisor again it may
miss the dividend. By how much is told by its error at the scale of the quotient. The product is
rounded as well, so a small error vanishes; a greater one shows in the whole part of the product,
which is one less if the product falls short of the dividend, and one more only if it reaches the
next whole number.
-/

namespace DataContract
namespace Number

open Binary64

/-- The nearest number of a quotient, which is whole at the scale of the quotient. -/
def quotient (dividend divisor : Nat) : Nat :=
  roundHalfEven (dividend * 2 ^ scale dividend divisor) divisor

/-- By how much the nearest number of a quotient exceeds it, multiplied by the divisor and at the
scale of the quotient. -/
def excess (dividend divisor : Nat) : Int :=
  (quotient dividend divisor * divisor : Nat) - (dividend * 2 ^ scale dividend divisor : Nat)

/-- The excess at the scale of the dividend as well, where products are rounded. -/
def error (dividend divisor : Nat) : Int :=
  excess dividend divisor * (2 ^ scale dividend 1 : Nat)

/-- By how much a number with an error is rounded away from a whole number, if the error is less
than the unit: by one beyond a half of the unit, or at a half if the whole number is odd. -/
def slip
    (whole unit : Nat)
    (error : Int) : Int :=
  if (unit : Int) < -(2 * error) ∨ ((unit : Int) = -(2 * error) ∧ whole % 2 = 1) then -1
  else if (unit : Int) < 2 * error ∨ ((unit : Int) = 2 * error ∧ whole % 2 = 1) then 1
  else 0

/-- By how much the whole part of the product exceeds the dividend, whose last digit slips. A digit
too few is missing in the whole part; one that is over shows only if there are no digits after the
point. -/
def drift (dividend divisor : Nat) : Int :=
  let digit := slip (dividend * 2 ^ scale dividend 1) (2 ^ scale dividend divisor)
    (error dividend divisor)
  if digit = -1 ∨ scale dividend 1 = 0 then digit else 0

theorem slip_bounds
    (whole unit : Nat)
    (error : Int) :
    -1 ≤ slip whole unit error ∧ slip whole unit error ≤ 1 := by
  unfold slip
  split
  · omega
  · split <;> omega

/-- Without an error nothing slips. -/
theorem slip_zero
    (whole : Nat)
    {unit : Nat}
    (positive : 0 < unit) :
    slip whole unit 0 = 0 := by
  rw [slip, if_neg (by omega), if_neg (by omega)]

/-- The whole part of the product is the dividend, or one less or more. -/
theorem drift_bounds (dividend divisor : Nat) :
    -1 ≤ drift dividend divisor ∧ drift dividend divisor ≤ 1 := by
  unfold drift
  extract_lets digit
  split
  · exact slip_bounds _ _ _
  · omega

/-- Nothing is lost by a division without a rest. -/
theorem drift_of_dvd
    {dividend divisor : Nat}
    (whole : divisor ∣ dividend)
    (divides : 0 < divisor) :
    drift dividend divisor = 0 := by
  have exact : quotient dividend divisor * divisor = dividend * 2 ^ scale dividend divisor := by
    obtain ⟨times, scaled⟩ := whole.mul_right (2 ^ scale dividend divisor)
    rw [quotient, scaled, Nat.mul_comm divisor, roundHalfEven_mul _ divides]
  have none : error dividend divisor = 0 := by simp [error, excess, exact]
  simp [drift, none, slip_zero _ (Nat.two_pow_pos _)]

/-- A quotient that is less than one away from a whole number is rounded to it, but for what
slips. -/
theorem roundHalfEven_near
    {whole unit num : Nat}
    {error : Int}
    (split : (num : Int) = (whole * unit : Nat) + error)
    (small : -(unit : Int) < error ∧ error < unit) :
    (roundHalfEven num unit : Int) = whole + slip whole unit error := by
  have positive : 0 < unit := by omega
  have below : (whole - 1) * unit = whole * unit - unit := Nat.sub_one_mul _ _
  have above : (whole + 1) * unit = whole * unit + unit := Nat.succ_mul _ _
  have rounded (candidate : Nat) (nearest : IsNearest num unit candidate) :
      roundHalfEven num unit = candidate :=
    (roundHalfEven_eq_iff positive).mpr nearest
  unfold slip
  split
  · have some : 0 < whole := by
      by_contra none
      obtain rfl : whole = 0 := by omega
      omega
    have enough : unit ≤ whole * unit := Nat.le_mul_of_pos_left unit some
    rw [rounded (whole - 1) (by rw [IsNearest]; omega)]
    omega
  · split
    · rw [rounded (whole + 1) (by rw [IsNearest]; omega)]
      rfl
    · rw [rounded whole (by rw [IsNearest]; omega), Int.add_zero]

/-- The whole part of a number that is at most one in the last digit away from a whole number. A
digit that is over shows only if there are none after the point. -/
theorem div_of_near
    {whole units product : Nat}
    {step : Int}
    (positive : 0 < whole)
    (some : 0 < units)
    (near : (product : Int) = (whole * units : Nat) + step)
    (one : -1 ≤ step ∧ step ≤ 1) :
    ((product / units : Nat) : Int) = whole + if step = -1 ∨ units = 1 then step else 0 := by
  have enough : units ≤ whole * units := Nat.le_mul_of_pos_left units positive
  have below : (whole - 1) * units = whole * units - units := Nat.sub_one_mul _ _
  have above : (whole + 1) * units = whole * units + units := Nat.succ_mul _ _
  split
  · rename_i shown
    rcases shown with rfl | rfl
    · have quotient : product / units = whole - 1 :=
        Nat.div_eq_of_lt_le (by omega) (by rw [Nat.sub_add_cancel positive]; omega)
      omega
    · rw [Nat.div_one, near, Nat.mul_one]
  · have quotient : product / units = whole := Nat.div_eq_of_lt_le (by omega) (by omega)
    omega

/-- The error of a quotient is at most a half. -/
theorem excess_bounds
    (dividend : Nat)
    {divisor : Nat}
    (divides : 0 < divisor) :
    -(divisor : Int) ≤ 2 * excess dividend divisor ∧ 2 * excess dividend divisor ≤ divisor := by
  have bounds := roundHalfEven_bounds (dividend * 2 ^ scale dividend divisor) divides
  rw [excess, quotient]
  omega

/-- The product, at the scale of the dividend, differs from the dividend by the error. -/
theorem product_eq (dividend divisor : Nat) :
    ((quotient dividend divisor * divisor * 2 ^ scale dividend 1 : Nat) : Int) =
      (dividend * 2 ^ scale dividend 1 * 2 ^ scale dividend divisor : Nat) +
        error dividend divisor := by
  rw [error, excess]
  push_cast
  ring

/-- Whether a dividend and a divisor are whole numbers that floating point holds exactly. -/
structure IsModest (dividend divisor : Nat) : Prop where
  /-- The dividend is not zero. -/
  positive : 0 < dividend
  /-- The dividend is held exactly. -/
  small : dividend < 2 ^ 53
  /-- The divisor is not zero. -/
  divides : 0 < divisor
  /-- The divisor is held exactly. -/
  few : divisor ≤ 2 ^ 52

namespace IsModest

variable
  {dividend divisor : Nat}
  (modest : IsModest dividend divisor)

include modest

/-- The dividend itself is a quotient by one. -/
theorem one : IsModest dividend 1 :=
  ⟨modest.positive, modest.small, Nat.one_pos, by decide⟩

theorem isScale : IsScale dividend divisor (scale dividend divisor) := by
  obtain ⟨positive, small, divides, few⟩ := modest
  exact isScale_scale (by omega) (by omega)

/-- The digits of a whole number after the point are fewer than those of a quotient of it. -/
theorem scale_quotient_lt :
    divisor * 2 ^ scale dividend 1 < 2 * 2 ^ scale dividend divisor := by
  have whole := modest.one.isScale
  have quotient := modest.isScale
  refine Nat.lt_of_mul_lt_mul_left (a := 2 ^ 52) ?_
  calc 2 ^ 52 * (divisor * 2 ^ scale dividend 1)
      = 2 ^ 52 * divisor * 2 ^ scale dividend 1 := by ring
    _ ≤ dividend * 2 ^ scale dividend divisor * 2 ^ scale dividend 1 :=
        Nat.mul_le_mul_right _ quotient.low
    _ = dividend * 2 ^ scale dividend 1 * 2 ^ scale dividend divisor := by ring
    _ < 2 ^ 53 * 1 * 2 ^ scale dividend divisor :=
        Nat.mul_lt_mul_of_pos_right whole.high (Nat.two_pow_pos _)
    _ = 2 ^ 52 * (2 * 2 ^ scale dividend divisor) := by ring

/-- The nearest number of a quotient has 53 digits, as the quotient has: rounding carries no
digit over, because the next power of two is far from what is divided. -/
theorem quotient_bounds :
    2 ^ 52 ≤ quotient dividend divisor ∧ quotient dividend divisor < 2 ^ 53 := by
  have less : divisor < 2 * 2 ^ scale dividend divisor :=
    (Nat.le_mul_of_pos_right divisor (Nat.two_pow_pos _)).trans_lt modest.scale_quotient_lt
  obtain ⟨above, below⟩ :=
    roundHalfEven_bounds (dividend * 2 ^ scale dividend divisor) modest.divides
  obtain ⟨low, high, -⟩ := modest.isScale
  obtain ⟨-, -, divides, few⟩ := modest
  rw [quotient]
  generalize scale dividend divisor = scale at *
  generalize roundHalfEven (dividend * 2 ^ scale) divisor = rounded at *
  constructor
  · by_contra less
    have most : rounded * divisor ≤ (2 ^ 52 - 1) * divisor :=
      Nat.mul_le_mul_right divisor (by omega)
    omega
  · by_contra carried
    have least : 2 ^ 53 * divisor ≤ rounded * divisor :=
      Nat.mul_le_mul_right divisor (by omega)
    have gap {factor : Nat} (first : factor ∣ 2 ^ 53) (second : factor ∣ 2 ^ scale) :
        factor ≤ 2 ^ 53 * divisor - dividend * 2 ^ scale :=
      Nat.le_of_dvd (by omega)
        (Nat.dvd_sub (first.mul_right divisor) (second.mul_left dividend))
    by_cases coarse : scale ≤ 53
    · have := gap (Nat.pow_dvd_pow 2 coarse) (Nat.dvd_refl _)
      omega
    · have := gap (Nat.dvd_refl (2 ^ 53)) (Nat.pow_dvd_pow 2 (by omega))
      omega

/-- The scale of such a quotient is far from that of the least numbers. -/
theorem scale_quotient_le : scale dividend divisor ≤ 104 := by
  have scaled := modest.isScale
  have less : 2 ^ scale dividend divisor < 2 ^ (53 + 52) := by
    calc 2 ^ scale dividend divisor ≤ dividend * 2 ^ scale dividend divisor :=
          Nat.le_mul_of_pos_left _ modest.positive
      _ < 2 ^ 53 * divisor := scaled.high
      _ ≤ 2 ^ 53 * 2 ^ 52 := Nat.mul_le_mul_left _ modest.few
      _ = 2 ^ (53 + 52) := (Nat.pow_add ..).symm
  have := (Nat.pow_lt_pow_iff_right (by decide)).mp less
  omega

/-- The error of the product is less than one in the last digit of the dividend. -/
theorem error_bounds :
    -((2 ^ scale dividend divisor : Nat) : Int) < error dividend divisor ∧
      error dividend divisor < (2 ^ scale dividend divisor : Nat) := by
  have less := modest.scale_quotient_lt
  obtain ⟨low, high⟩ := excess_bounds dividend modest.divides
  have unit : (0 : Int) ≤ (2 ^ scale dividend 1 : Nat) := Int.natCast_nonneg _
  have below := Int.mul_le_mul_of_nonneg_right low unit
  have above := Int.mul_le_mul_of_nonneg_right high unit
  have limit : (divisor : Int) * (2 ^ scale dividend 1 : Nat) <
      2 * (2 ^ scale dividend divisor : Nat) := by exact_mod_cast less
  rw [Int.neg_mul, Int.mul_assoc] at below
  rw [Int.mul_assoc] at above
  rw [error]
  omega

/-- The product has no more digits than the dividend. -/
theorem product_lt :
    quotient dividend divisor * divisor * 2 ^ scale dividend 1 <
      2 ^ 53 * 2 ^ scale dividend divisor := by
  have whole := modest.one.isScale
  have bounds := modest.error_bounds
  have split := product_eq dividend divisor
  have digits : dividend * 2 ^ scale dividend 1 * 2 ^ scale dividend divisor ≤
      (2 ^ 53 - 1) * 2 ^ scale dividend divisor :=
    Nat.mul_le_mul_right _ (by have := whole.high; omega)
  omega

/-- A product that is not below the digits of the dividend is rounded at the scale of the
dividend. -/
theorem truncate?_of_enough
    (enough : 2 ^ 52 * 2 ^ scale dividend divisor ≤
      quotient dividend divisor * divisor * 2 ^ scale dividend 1)
    (negative : Bool) :
    ∃ back : Nat,
      (ofRatio negative (quotient dividend divisor * divisor)
        (2 ^ scale dividend divisor)).truncate? = some (signed negative back) ∧
      (back : Int) = dividend + drift dividend divisor := by
  have rounded := roundHalfEven_near (product_eq dividend divisor) modest.error_bounds
  have scaled : IsScale (quotient dividend divisor * divisor) (2 ^ scale dividend divisor)
      (scale dividend 1) :=
    ⟨enough, modest.product_lt, modest.one.isScale.least⟩
  refine ⟨_, by rw [ofRatio_of_isScale scaled, truncate?_atScale], ?_⟩
  have whole := div_of_near modest.positive (Nat.two_pow_pos _) rounded (slip_bounds _ _ _)
  simp [whole, drift]

/-- The quotient of a power of two is as the quotient of any other, so that its error can be told
from one of them. -/
theorem error_of_power
    (gap : Nat)
    (low : divisor ≤ 2 ^ gap)
    (high : 2 ^ gap < 2 * divisor)
    (near : -4 * ((roundHalfEven (2 ^ (52 + gap)) divisor * divisor : Nat) -
      (2 ^ (52 + gap) : Nat) : Int) ≤ (2 ^ gap : Nat))
    (power : dividend * 2 ^ scale dividend 1 = 2 ^ 52) :
    -4 * error dividend divisor ≤ (2 ^ scale dividend divisor : Nat) := by
  have scaled := modest.isScale
  have moved : dividend * 2 ^ scale dividend divisor * 2 ^ scale dividend 1 =
      2 ^ 52 * 2 ^ scale dividend divisor := by
    rw [Nat.mul_right_comm, power]
  have above : divisor * 2 ^ scale dividend 1 ≤ 2 ^ scale dividend divisor := by
    have := Nat.mul_le_mul_right (2 ^ scale dividend 1) scaled.low
    rw [moved, Nat.mul_assoc] at this
    omega
  have below : 2 ^ scale dividend divisor < 2 * (divisor * 2 ^ scale dividend 1) := by
    have := Nat.mul_lt_mul_of_pos_right scaled.high (Nat.two_pow_pos (scale dividend 1))
    rw [moved, Nat.mul_assoc] at this
    omega
  have least := Nat.mul_le_mul_right (2 ^ scale dividend 1) low
  have most := Nat.mul_lt_mul_of_pos_right high (Nat.two_pow_pos (scale dividend 1))
  rw [← Nat.pow_add] at least most
  rw [Nat.mul_assoc] at most
  have sum : scale dividend divisor = gap + scale dividend 1 := by
    have first : 2 ^ (gap + scale dividend 1) < 2 ^ (scale dividend divisor + 1) := by omega
    have second : 2 ^ scale dividend divisor < 2 ^ (gap + scale dividend 1 + 1) := by omega
    have := (Nat.pow_lt_pow_iff_right (by decide)).mp first
    have := (Nat.pow_lt_pow_iff_right (by decide)).mp second
    omega
  have digits : dividend * 2 ^ scale dividend divisor = 2 ^ (52 + gap) := by
    rw [sum, Nat.add_comm gap, Nat.pow_add, ← Nat.mul_assoc, power, ← Nat.pow_add]
  have unit : (0 : Int) ≤ (2 ^ scale dividend 1 : Nat) := Int.natCast_nonneg _
  rw [error, excess, quotient, digits, sum, Nat.pow_add 2 gap, Int.natCast_mul (2 ^ gap),
    ← Int.mul_assoc]
  exact Int.mul_le_mul_of_nonneg_right near unit

/-- If the quotient of the next power of two is not rounded down by much, the whole part of the
nearest number of a quotient, multiplied by the divisor, is the dividend but for its drift. -/
theorem truncate?_multiplied
    (steady : dividend * 2 ^ scale dividend 1 = 2 ^ 52 →
      -4 * error dividend divisor ≤ (2 ^ scale dividend divisor : Nat))
    (negative : Bool) :
    ∃ back : Nat,
      (ofRatio negative (quotient dividend divisor * divisor)
        (2 ^ scale dividend divisor)).truncate? = some (signed negative back) ∧
      (back : Int) = dividend + drift dividend divisor := by
  by_cases enough : 2 ^ 52 * 2 ^ scale dividend divisor ≤
      quotient dividend divisor * divisor * 2 ^ scale dividend 1
  · exact modest.truncate?_of_enough enough negative
  · have whole := modest.one.isScale
    have bounds := modest.error_bounds
    have split := product_eq dividend divisor
    have power : dividend * 2 ^ scale dividend 1 = 2 ^ 52 := by
      by_contra other
      have digits : (2 ^ 52 + 1) * 2 ^ scale dividend divisor ≤
          dividend * 2 ^ scale dividend 1 * 2 ^ scale dividend divisor :=
        Nat.mul_le_mul_right _ (by have := whole.low; omega)
      omega
    have near := steady power
    rw [power] at split
    have double : quotient dividend divisor * divisor * 2 ^ (scale dividend 1 + 1) =
        2 * (quotient dividend divisor * divisor * 2 ^ scale dividend 1) := by ring
    have next : dividend * 2 ^ (scale dividend 1 + 1) = 2 ^ 53 := by
      rw [Nat.pow_succ, ← Nat.mul_assoc, power]
      rfl
    have units : scale dividend 1 + 1 ≤ 53 := by
      refine (Nat.pow_le_pow_iff_right (a := 2) (by decide)).mp ?_
      rw [← next]
      exact Nat.le_mul_of_pos_left _ modest.positive
    have scaled : IsScale (quotient dividend divisor * divisor) (2 ^ scale dividend divisor)
        (scale dividend 1 + 1) := by
      refine ⟨?_, ?_, by omega⟩ <;> rw [double] <;> omega
    have rounded : roundHalfEven (quotient dividend divisor * divisor *
        2 ^ (scale dividend 1 + 1)) (2 ^ scale dividend divisor) = 2 ^ 53 := by
      rw [double, roundHalfEven_eq_iff (Nat.two_pow_pos _), IsNearest]
      omega
    have even : slip (dividend * 2 ^ scale dividend 1) (2 ^ scale dividend divisor)
        (error dividend divisor) = 0 := by
      rw [slip, if_neg (by omega), if_neg (by omega)]
    refine ⟨dividend, ?_, by simp [drift, even]⟩
    rw [ofRatio_of_isScale scaled, truncate?_atScale, rounded, ← next,
      Nat.mul_div_cancel _ (Nat.two_pow_pos _)]

/-- The product has a scale, so that it does not matter how it is written as a fraction. -/
theorem isScale_product :
    IsScale (quotient dividend divisor * divisor) (2 ^ scale dividend divisor)
      (scale (quotient dividend divisor * divisor) (2 ^ scale dividend divisor)) := by
  have least := modest.quotient_bounds.1
  have units : 2 ^ scale dividend divisor ≤ 2 ^ 200 :=
    Nat.pow_le_pow_right (by decide) (modest.scale_quotient_le.trans (by decide))
  refine isScale_scale ?_ ?_
  · exact (Nat.le_mul_of_pos_right _ (Nat.two_pow_pos _)).trans_lt modest.product_lt
  · calc 2 ^ 52 * 2 ^ scale dividend divisor ≤ quotient dividend divisor * 2 ^ 200 :=
          Nat.mul_le_mul least units
      _ ≤ quotient dividend divisor * divisor * 2 ^ 200 :=
          Nat.mul_le_mul_right _ (Nat.le_mul_of_pos_right _ modest.divides)

end IsModest

end Number
end DataContract
