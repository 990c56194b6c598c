import DataContract.Casting.Default
import DataContract.Proofs.Calendar.Position
import DataContract.Proofs.Casting.Text
import DataContract.Proofs.Number.Product

/-!
# Counts that pass through moments

A count of units is divided by the number of units in a second, and the nearest number of seconds
is rounded to microseconds. Nothing is lost by that: the moment gives the same number of seconds
again. A large number of seconds is further from the next one than a microsecond is long, and a
small one is so near to a whole number of microseconds that this is found. What may be lost is
the count, when the seconds are multiplied by the units again.
-/

namespace DataContract

open Number Binary64 Calendar

section Microseconds

/-- The microseconds of a number of seconds are as many as there are in it, but for little more
than a half. -/
theorem exists_microsecondsOf
    (negative : Bool)
    (significand scale : Nat)
    (few : scale ≤ 140) :
    ∃ micros : Nat,
      microsecondsOf (signed negative significand) (2 ^ scale) = signed negative micros ∧
      |(micros : ℚ) - significand * 1000000 / 2 ^ scale| ≤ 1 / 2 + 1 / 2 ^ 34 := by
  have positive : 0 < 2 ^ scale := Nat.two_pow_pos scale
  have whole : significand / 2 ^ scale * 2 ^ scale + significand % 2 ^ scale = significand :=
    Nat.div_add_mod' significand (2 ^ scale)
  have less : significand % 2 ^ scale < 2 ^ scale := Nat.mod_lt _ positive
  have fine : 2 ^ 52 * 2 ^ scale ≤ 2 ^ 200 := by
    rw [← Nat.pow_add]
    exact Nat.pow_le_pow_right (by decide) (by omega)
  have quotient := tdiv_signed negative significand (2 ^ scale)
  generalize significand / 2 ^ scale = seconds at whole quotient
  generalize significand % 2 ^ scale = rest at whole less
  have remainder : signed negative significand - signed negative seconds * (2 ^ scale : Nat) =
      signed negative rest := by
    rw [signed_mul, ← whole, ← signed_add]
    omega
  obtain ⟨m, d, fraction, near⟩ := exists_toFraction?_ofFraction negative (rest * 1000000)
    (2 ^ scale) (by omega) (by omega)
  refine ⟨seconds * 1000000 + roundHalfEven m d, ?_, ?_⟩
  · have scaled : signed negative rest * 1000000 = signed negative (rest * 1000000) :=
      signed_mul negative rest 1000000
    rw [microsecondsOf, quotient, remainder, scaled, fraction]
    simp only [signed_roundHalfEven]
    rw [← signed_add, ← signed_mul]
    rfl
  · have unit : (0 : ℚ) < 2 ^ scale := by positivity
    have parts : (significand : ℚ) * 1000000 / 2 ^ scale =
        seconds * 1000000 + (rest * 1000000 : Nat) / (2 ^ scale : Nat) := by
      rw [← whole]
      push_cast
      field_simp
    rw [parts]
    push_cast at near ⊢
    rwa [add_sub_add_left_eq_sub]

/-- Whole numbers that are less than one apart are equal. -/
theorem eq_of_abs_sub_lt_one
    {first second : Nat}
    (near : |(first : ℚ) - second| < 1) :
    first = second := by
  obtain ⟨above, below⟩ := abs_lt.mp near
  have less : (first : ℚ) < second + 1 := by linarith
  have more : (second : ℚ) < first + 1 := by linarith
  have : first < second + 1 := by exact_mod_cast less
  have : second < first + 1 := by exact_mod_cast more
  omega

variable
  {dividend divisor micros : Nat}
  (modest : IsModest dividend divisor)
  (near : |(micros : ℚ) -
    quotient dividend divisor * 1000000 / 2 ^ scale dividend divisor| ≤ 1 / 2 + 1 / 2 ^ 34)

include modest near

/-- Small numbers of seconds are found in whole microseconds, as they were before they were
rounded. -/
theorem mul_micros_of_fine
    (divides : divisor ∣ 1000000)
    (fine : 20 ≤ scale dividend divisor) :
    dividend * 1000000 = micros * divisor := by
  have divisorPositive := modest.divides
  have rounded := abs_roundHalfEven_sub_le (dividend * 2 ^ scale dividend divisor) divisorPositive
  rw [← quotient] at rounded
  obtain ⟨factor, whole⟩ := divides
  have bottom : (0 : ℚ) < divisor := by exact_mod_cast divisorPositive
  have unit : (0 : ℚ) < 2 ^ scale dividend divisor := by positivity
  have power : (2 : ℚ) ^ 20 ≤ 2 ^ scale dividend divisor := pow_le_pow_right₀ (by norm_num) fine
  have parts : (1000000 : ℚ) = divisor * factor := by exact_mod_cast whole
  have away : |(quotient dividend divisor : ℚ) * 1000000 / 2 ^ scale dividend divisor -
      (dividend * factor : Nat)| ≤ 1000000 / 2 ^ 21 := by
    have factored : (quotient dividend divisor : ℚ) * 1000000 / 2 ^ scale dividend divisor -
        (dividend * factor : Nat) =
          (quotient dividend divisor - (dividend * 2 ^ scale dividend divisor : Nat) / divisor) *
            (1000000 / 2 ^ scale dividend divisor) := by
      push_cast
      rw [parts]
      field_simp
    rw [factored, abs_mul,
      abs_of_pos (by positivity : (0 : ℚ) < 1000000 / 2 ^ scale dividend divisor)]
    calc _ ≤ (1 / 2 : ℚ) * (1000000 / 2 ^ 20) := by gcongr
      _ = 1000000 / 2 ^ 21 := by norm_num
  have same : micros = dividend * factor := by
    apply eq_of_abs_sub_lt_one
    calc |(micros : ℚ) - (dividend * factor : Nat)|
          ≤ |(micros : ℚ) - quotient dividend divisor * 1000000 / 2 ^ scale dividend divisor| +
            |(quotient dividend divisor : ℚ) * 1000000 / 2 ^ scale dividend divisor -
              (dividend * factor : Nat)| := abs_sub_le _ _ _
      _ ≤ 1 / 2 + 1 / 2 ^ 34 + 1000000 / 2 ^ 21 := add_le_add near away
      _ < 1 := by norm_num
  rw [same, whole]
  ring

/-- Large numbers of seconds are further apart than a microsecond is long. -/
theorem isScale_micros_of_coarse
    (coarse : scale dividend divisor < 20) :
    IsScale micros 1000000 (scale dividend divisor) ∧
      roundHalfEven (micros * 2 ^ scale dividend divisor) 1000000 =
        quotient dividend divisor := by
  obtain ⟨least, most⟩ := modest.quotient_bounds
  have unit : (0 : ℚ) < 2 ^ scale dividend divisor := by positivity
  have power : (2 : ℚ) ^ scale dividend divisor ≤ 2 ^ 19 :=
    pow_le_pow_right₀ (by norm_num) (by omega)
  have rounded : roundHalfEven (micros * 2 ^ scale dividend divisor) 1000000 =
      quotient dividend divisor := by
    apply roundHalfEven_eq_of_abs_sub_lt (by decide)
    have factored : (quotient dividend divisor : ℚ) -
        (micros * 2 ^ scale dividend divisor : Nat) / (1000000 : Nat) =
          (quotient dividend divisor * 1000000 / 2 ^ scale dividend divisor - micros) *
            (2 ^ scale dividend divisor / 1000000) := by
      push_cast
      field_simp
    rw [factored, abs_mul, abs_sub_comm,
      abs_of_pos (by positivity : (0 : ℚ) < 2 ^ scale dividend divisor / 1000000)]
    calc _ ≤ (1 / 2 + 1 / 2 ^ 34 : ℚ) * (2 ^ 19 / 1000000) := by gcongr
      _ < 1 / 2 := by norm_num
  have bounds := roundHalfEven_bounds (micros * 2 ^ scale dividend divisor)
    (by decide : 0 < 1000000)
  rw [rounded] at bounds
  refine ⟨⟨?_, by omega, modest.isScale.least⟩, rounded⟩
  by_cases first : quotient dividend divisor = 2 ^ 52
  · have digits : 2 ^ (52 - scale dividend divisor) * 2 ^ scale dividend divisor = 2 ^ 52 := by
      rw [← Nat.pow_add]
      congr 1
      omega
    have whole : micros = 2 ^ (52 - scale dividend divisor) * 1000000 := by
      apply eq_of_abs_sub_lt_one
      have value : (quotient dividend divisor : ℚ) * 1000000 / 2 ^ scale dividend divisor =
          (2 ^ (52 - scale dividend divisor) * 1000000 : Nat) := by
        rw [first, ← digits]
        push_cast
        field_simp
      rw [← value]
      exact near.trans_lt (by norm_num)
    rw [whole, Nat.mul_right_comm, digits]
  · omega

/-- The moment of a number of seconds gives this number again. -/
theorem ofRatio_micros
    (divides : divisor ∣ 1000000)
    (negative : Bool) :
    0 < micros ∧ ofRatio negative micros 1000000 = ofRatio negative dividend divisor := by
  have scaled := modest.isScale
  by_cases coarse : scale dividend divisor < 20
  · obtain ⟨microsScaled, rounded⟩ := isScale_micros_of_coarse modest near coarse
    refine ⟨microsScaled.num_pos, ?_⟩
    rw [ofRatio_of_isScale microsScaled, ofRatio_of_isScale scaled, rounded, quotient]
  · have same := mul_micros_of_fine modest near divides (by omega)
    have positive := modest.positive
    refine ⟨?_, ofRatio_congr scaled (by decide) same negative⟩
    by_contra none
    obtain rfl : micros = 0 := by omega
    omega

end Microseconds

/-- What is read from a text is what its reader finds. -/
theorem eq_some_of_readOr
    {α : Type}
    {fault : Fault}
    {found : Option α}
    {answer : α}
    (read : Value.readOr fault found = .ok answer) :
    found = some answer := by
  cases found with
  | none => cases read
  | some other =>
      cases read
      rfl

/-- A floating-point number is converted to its whole part. -/
theorem toWhole_of_truncate?
    {number : Binary64}
    {whole : Int}
    (cut : number.truncate? = some whole) :
    Value.toWhole (.float number) = .ok whole := by
  cases number with
  | finite negative significand exponent => simp only [Value.toWhole, cut, Value.readOr]
  | infinite negative => cases cut
  | nan mark => cases cut

/-- The moment of a number of seconds is as many microseconds after the start of 1970 as are in
it. -/
theorem ofEpochMicroseconds?_of_momentOfSeconds
    {seconds : Binary64}
    {num : Int}
    {den : Nat}
    {moment : DateTime}
    (fraction : seconds.toFraction? = some (num, den))
    (made : momentOfSeconds seconds = .ok moment) :
    DateTime.ofEpochMicroseconds? (microsecondsOf num den) (some Offset.universal) =
      some moment := by
  cases seconds with
  | finite negative significand exponent =>
      simp only [momentOfSeconds, fraction] at made
      split at made
      · cases made
      · split at made
        · cases made
        · exact eq_some_of_readOr made
  | infinite negative => cases fraction
  | nan mark => cases fraction

/-- A moment has the seconds that are nearest to its microseconds. -/
theorem secondsOfMoment_of_ofEpochMicroseconds?
    {micros : Int}
    {moment : DateTime}
    (dated : DateTime.ofEpochMicroseconds? micros (some Offset.universal) = some moment) :
    secondsOfMoment moment = .ok (Binary64.ofFraction micros 1000000) := by
  obtain ⟨offset, distance⟩ := DateTime.universal_of_ofEpochMicroseconds? dated
  rw [secondsOfMoment, offset, distance]

namespace TimeUnit

/-- A second has a whole number of each unit, and a unit a whole number of microseconds. -/
theorem perSecond_dvd (unit : TimeUnit) : unit.perSecond ∣ 1000000 := by
  cases unit <;> decide

theorem perSecond_pos (unit : TimeUnit) : 0 < unit.perSecond :=
  Nat.pos_of_dvd_of_pos unit.perSecond_dvd (by decide)

theorem isModest
    (unit : TimeUnit)
    {count : Nat}
    (positive : 0 < count)
    (small : count < 2 ^ 53) :
    IsModest count unit.perSecond :=
  ⟨positive, small, unit.perSecond_pos,
    (Nat.le_of_dvd (by decide) unit.perSecond_dvd).trans (by decide)⟩

/-- The number of units in a second is a floating-point number. -/
theorem exists_ofInt_perSecond (unit : TimeUnit) :
    ∃ digits : Nat, Binary64.ofInt unit.perSecond =
      .finite false (unit.perSecond * 2 ^ digits) (-(digits : Int)) := by
  cases unit with
  | second => exact ⟨52, by decide +kernel⟩
  | millisecond => exact ⟨43, by decide +kernel⟩
  | microsecond => exact ⟨33, by decide +kernel⟩

/-- The quotients of powers of two by the number of units in a second are not rounded down by
much. -/
theorem error_of_power
    (unit : TimeUnit)
    {count : Nat}
    (positive : 0 < count)
    (small : count < 2 ^ 53)
    (power : count * 2 ^ scale count 1 = 2 ^ 52) :
    -4 * error count unit.perSecond ≤ (2 ^ scale count unit.perSecond : Nat) := by
  have modest := unit.isModest positive small
  cases unit with
  | second =>
      exact modest.error_of_power 0 (by decide) (by decide) (by decide +kernel) power
  | millisecond =>
      exact modest.error_of_power 10 (by decide) (by decide) (by decide +kernel) power
  | microsecond =>
      exact modest.error_of_power 20 (by decide) (by decide) (by decide +kernel) power

end TimeUnit

/-- The default caster converts whole numbers to moments. -/
theorem convert_integer_eq_ok
    {count : Int}
    {options : Entries}
    {given : Value} :
    convert (.text "integer") (.text "date_time") (.int count) options = .ok given ↔
      ∃ moment, Value.toMoment (.int count) options = .ok moment ∧ .dateTime moment = given := by
  have same := convert_of_conversion (rfl : conversion? .integer .dateTime = some _)
    (by decide) (.int count) options
  exact (iff_of_eq (congrArg (· = Except.ok given) same)).trans Attempt.map_eq_ok

/-- The default caster converts moments to whole numbers. -/
theorem convert_moment_eq_ok
    {moment : DateTime}
    {options : Entries}
    {count : Int} :
    convert (.text "date_time") (.text "integer") (.dateTime moment) options = .ok (.int count) ↔
      Value.toCount (.dateTime moment) options = .ok count := by
  have same := convert_of_conversion (rfl : conversion? .dateTime .integer = some _)
    (by decide) (.dateTime moment) options
  refine (iff_of_eq (congrArg (· = Except.ok (Value.int count)) same)).trans ?_
  simp [Attempt.map_eq_ok]

section Counts

variable
  (negative : Bool)
  {count : Nat}
  (positive : 0 < count)
  (small : count < 2 ^ 53)
  (unit : TimeUnit)

include positive small

/-- The seconds of a count are the number nearest to a quotient. -/
theorem ofFraction_count :
    Binary64.ofFraction (signed negative count) unit.perSecond =
      .finite negative (quotient count unit.perSecond) (-(scale count unit.perSecond : Nat)) := by
  have modest := unit.isModest positive small
  have bounds := modest.quotient_bounds
  rw [ofFraction_signed negative positive, ofRatio_of_isScale modest.isScale, atScale, ← quotient,
    if_neg (by omega)]

omit positive small in
/-- The seconds of a count as a fraction. -/
theorem toFraction?_count :
    (Binary64.finite negative (quotient count unit.perSecond)
      (-(scale count unit.perSecond : Nat))).toFraction? =
        some (signed negative (quotient count unit.perSecond), 2 ^ scale count unit.perSecond) := by
  rw [toFraction?, magnitude_neg]
  rfl

/-- A count is converted to the moment of its microseconds, if the clock can name that. -/
theorem convert_count
    {options : Entries}
    (micros : Int)
    {moment : DateTime}
    (named : TimeUnit.ofOptions options = .ok unit)
    (found : microsecondsOf (signed negative (quotient count unit.perSecond))
      (2 ^ scale count unit.perSecond) = micros)
    (range : firstClockSecond ≤ micros / 1000000 ∧ micros / 1000000 ≤ lastClockSecond)
    (dated : DateTime.ofEpochMicroseconds? micros (some Offset.universal) = some moment) :
    convert (.text "integer") (.text "date_time") (.int (signed negative count)) options =
      .ok (.dateTime moment) := by
  have counted : secondsOfCount (.int (signed negative count)) unit =
      .ok (.finite negative (quotient count unit.perSecond)
        (-(scale count unit.perSecond : Nat))) := by
    simp only [secondsOfCount, Value.whole?, ofFraction_count negative positive small unit]
  have inside : ¬ (lastClockSecond < micros / 1000000 ∨ micros / 1000000 < firstClockSecond) := by
    omega
  have fits : ¬ (maxCounter < micros / 1000000 ∨ micros / 1000000 < -maxCounter - 1) := by
    unfold maxCounter
    unfold lastClockSecond firstClockSecond at range
    omega
  refine convert_integer_eq_ok.mpr ⟨moment, ?_, rfl⟩
  rw [Value.toMoment, named, Attempt.ok_bind, counted, Attempt.ok_bind]
  simp [momentOfSeconds, toFraction?_count, found, fits, inside, dated, Value.readOr]

/-- A moment that is made of a count has the seconds of the count. -/
theorem secondsOfMoment_of_momentOfSeconds
    {moment : DateTime}
    (made : momentOfSeconds (.finite negative (quotient count unit.perSecond)
      (-(scale count unit.perSecond : Nat))) = .ok moment) :
    secondsOfMoment moment = .ok (.finite negative (quotient count unit.perSecond)
      (-(scale count unit.perSecond : Nat))) := by
  have modest := unit.isModest positive small
  obtain ⟨micros, found, near⟩ := exists_microsecondsOf negative (quotient count unit.perSecond)
    (scale count unit.perSecond) (modest.scale_quotient_le.trans (by decide))
  obtain ⟨some, same⟩ := ofRatio_micros modest near unit.perSecond_dvd negative
  have dated := ofEpochMicroseconds?_of_momentOfSeconds (toFraction?_count negative unit) made
  rw [found] at dated
  rw [secondsOfMoment_of_ofEpochMicroseconds? dated, ofFraction_signed negative some, same,
    ← ofFraction_signed negative positive, ofFraction_count negative positive small unit]

/-- A moment with the seconds of a count gives the count but for its drift. -/
theorem toCount_of_seconds
    {moment : DateTime}
    (seconds : secondsOfMoment moment = .ok (.finite negative (quotient count unit.perSecond)
      (-(scale count unit.perSecond : Nat))))
    {options : Entries}
    (named : TimeUnit.ofOptions options = .ok unit) :
    ∃ back : Nat, Value.toCount (.dateTime moment) options = .ok (signed negative back) ∧
      (back : Int) = count + drift count unit.perSecond := by
  have modest := unit.isModest positive small
  obtain ⟨back, whole, same⟩ :=
    modest.truncate?_multiplied (unit.error_of_power positive small) negative
  refine ⟨back, ?_, same⟩
  obtain ⟨digits, units⟩ := unit.exists_ofInt_perSecond
  have product : (Binary64.finite negative (quotient count unit.perSecond)
      (-(scale count unit.perSecond : Nat))).mul (Binary64.ofInt unit.perSecond) =
        ofRatio negative (quotient count unit.perSecond * unit.perSecond)
          (2 ^ scale count unit.perSecond) := by
    rw [units, mul_finite]
    refine ofRatio_congr modest.isScale_product
      (Nat.mul_pos (Nat.two_pow_pos _) (Nat.two_pow_pos _)) ?_ negative
    ring
  rw [← product] at whole
  rw [Value.toCount, seconds, Attempt.ok_bind, named, Attempt.ok_bind]
  exact toWhole_of_truncate? whole

/-- A count gives the moment that gives it back but for its drift. -/
theorem toCount_of_secondsOfCount
    {seconds : Binary64}
    {moment : DateTime}
    {options : Entries}
    (counted : secondsOfCount (.int (signed negative count)) unit = .ok seconds)
    (dated : momentOfSeconds seconds = .ok moment)
    (named : TimeUnit.ofOptions options = .ok unit) :
    Value.toCount (.dateTime moment) options =
      .ok (signed negative count + (signed negative count).sign * drift count unit.perSecond) := by
  simp only [secondsOfCount, Value.whole?, ofFraction_count negative positive small unit] at counted
  cases counted
  obtain ⟨back, answered, same⟩ := toCount_of_seconds negative positive small unit
    (secondsOfMoment_of_momentOfSeconds negative positive small unit dated) named
  rw [answered, Except.ok.injEq]
  cases negative with
  | true =>
      have sign : (signed true count).sign = -1 :=
        Int.sign_eq_neg_one_of_neg (by simp [signed, positive])
      rw [sign, signed, signed, if_pos rfl, if_pos rfl]
      omega
  | false =>
      have sign : (signed false count).sign = 1 :=
        Int.sign_eq_one_of_pos (by simp [signed, positive])
      rw [sign, signed, signed, if_neg Bool.false_ne_true, if_neg Bool.false_ne_true]
      omega

end Counts

/-- No seconds have no microseconds. -/
theorem microsecondsOf_zero (den : Nat) : microsecondsOf 0 den = 0 := by
  obtain ⟨d, -, fraction⟩ := exists_toFraction?_zero false
  simp [microsecondsOf, Binary64.ofFraction, ofRatio, fraction, signed, roundHalfEven]

/-- Of no units there are none after the conversion and back. -/
theorem toCount_of_zero
    {moment : DateTime}
    {unit : TimeUnit}
    {options : Entries}
    (made : momentOfSeconds (zero false) = .ok moment)
    (named : TimeUnit.ofOptions options = .ok unit) :
    Value.toCount (.dateTime moment) options = .ok 0 := by
  obtain ⟨d, positive, fraction⟩ := exists_toFraction?_zero false
  have dated := ofEpochMicroseconds?_of_momentOfSeconds fraction made
  have unsigned : signed false 0 = 0 := rfl
  rw [unsigned, microsecondsOf_zero] at dated
  have none : Binary64.ofFraction 0 1000000 = zero false := by simp [Binary64.ofFraction, ofRatio]
  have seconds := secondsOfMoment_of_ofEpochMicroseconds? dated
  obtain ⟨digits, units⟩ := unit.exists_ofInt_perSecond
  have product : (zero false).mul (Binary64.ofInt unit.perSecond) = zero false := by
    have least : zero false = .finite false 0 (-(1074 : Nat)) := rfl
    rw [units, least, mul_finite, Nat.zero_mul, ofRatio, if_pos rfl, least]
  rw [Value.toCount, seconds, none, Attempt.ok_bind, named, Attempt.ok_bind, product]
  exact toWhole_of_truncate? (by rw [truncate?, fraction]; simp [signed])

/-- The moment of a count gives the count back but for its drift. -/
theorem toCount_of_toMoment
    {count : Int}
    {options : Entries}
    {moment : DateTime}
    (small : count.natAbs < 2 ^ 53)
    (made : Value.toMoment (.int count) options = .ok moment) :
    ∃ unit, TimeUnit.ofOptions options = .ok unit ∧
      Value.toCount (.dateTime moment) options =
        .ok (count + count.sign * drift count.natAbs unit.perSecond) := by
  obtain ⟨unit, named, converted⟩ := Attempt.bind_eq_ok.mp made
  obtain ⟨seconds, counted, dated⟩ := Attempt.bind_eq_ok.mp converted
  refine ⟨unit, named, ?_⟩
  rcases Nat.eq_zero_or_pos count.natAbs with none | positive
  · obtain rfl : count = 0 := Int.natAbs_eq_zero.mp none
    rw [Int.sign_zero, Int.zero_mul, Int.zero_add]
    cases counted
    exact toCount_of_zero dated named
  · have same := signed_natAbs count
    generalize decide (count < 0) = negative at same
    rw [← same] at counted
    have answered :=
      toCount_of_secondsOfCount negative positive small unit counted dated named
    rwa [same] at answered

/-- A count of units that is converted to a moment and back comes to the count but for its drift:
the nearest number of seconds is multiplied by the units in a second again. Whole seconds do not
drift. -/
theorem convert_moment_back
    (count : Int)
    (small : count.natAbs < 2 ^ 53)
    (options : Entries)
    (given : Value)
    (made : convert (.text "integer") (.text "date_time") (.int count) options = .ok given) :
    ∃ unit, TimeUnit.ofOptions options = .ok unit ∧
      convert (.text "date_time") (.text "integer") given options =
        .ok (.int (count + count.sign * drift count.natAbs unit.perSecond)) ∧
      (unit.perSecond ∣ count.natAbs → drift count.natAbs unit.perSecond = 0) := by
  obtain ⟨moment, converted, rfl⟩ := convert_integer_eq_ok.mp made
  obtain ⟨unit, named, back⟩ := toCount_of_toMoment small converted
  exact ⟨unit, named, convert_moment_eq_ok.mpr back,
    fun whole => drift_of_dvd whole unit.perSecond_pos⟩

/-- Options that name milliseconds. -/
def inMilliseconds : Entries := [(.text "unit", .text "millisecond")]

/-- A little less than two seconds before 1970. -/
def beforeEpoch : DateTime :=
  ⟨⟨1969, 12, 31, by decide⟩, ⟨23, 59, 58, 999000, some Offset.universal, by decide⟩⟩

theorem convert_moment_back_millisecond :
    convert (.text "integer") (.text "date_time") (.int (-1001)) inMilliseconds =
        .ok (.dateTime beforeEpoch) ∧
      drift 1001 TimeUnit.millisecond.perSecond = -1 ∧
      convert (.text "date_time") (.text "integer") (.dateTime beforeEpoch) inMilliseconds =
        .ok (.int (-1000)) := by
  have made : convert (.text "integer") (.text "date_time") (.int (-1001)) inMilliseconds =
      .ok (.dateTime beforeEpoch) :=
    convert_count true (by decide) (by decide) .millisecond (-1001000) rfl (by decide +kernel)
      (by decide) (by decide +kernel)
  have lost : drift 1001 TimeUnit.millisecond.perSecond = -1 := by decide +kernel
  obtain ⟨unit, named, back, -⟩ := convert_moment_back (-1001) (by decide) inMilliseconds
    (.dateTime beforeEpoch) made
  obtain rfl : TimeUnit.millisecond = unit := Except.ok.inj named
  rw [show Int.natAbs (-1001) = 1001 from rfl, lost] at back
  exact ⟨made, lost, back⟩

/-- One second and one millisecond after the start of 1970. -/
def afterEpoch : DateTime :=
  ⟨⟨1970, 1, 1, by decide⟩, ⟨0, 0, 1, 1000, some Offset.universal, by decide⟩⟩

/-- A millisecond is lost on the way to a moment and back. -/
theorem millisecond_lost :
    convert (.text "integer") (.text "date_time") (.int 1001) inMilliseconds =
        .ok (.dateTime afterEpoch) ∧
      convert (.text "date_time") (.text "integer") (.dateTime afterEpoch) inMilliseconds =
        .ok (.int 1000) := by
  have made : convert (.text "integer") (.text "date_time") (.int 1001) inMilliseconds =
      .ok (.dateTime afterEpoch) :=
    convert_count false (by decide) (by decide) .millisecond 1001000 rfl (by decide +kernel)
      (by decide) (by decide +kernel)
  have lost : drift 1001 TimeUnit.millisecond.perSecond = -1 := by decide +kernel
  refine ⟨made, convert_moment_eq_ok.mpr ?_⟩
  obtain ⟨moment, converted, same⟩ := convert_integer_eq_ok.mp made
  cases same
  obtain ⟨unit, named, back⟩ := toCount_of_toMoment (by decide) converted
  obtain rfl : TimeUnit.millisecond = unit := Except.ok.inj named
  rw [show Int.natAbs 1001 = 1001 from rfl, lost] at back
  exact back

end DataContract
