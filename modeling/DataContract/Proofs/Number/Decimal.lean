import DataContract.Number.Decimal
import DataContract.Proofs.Number.Numeral

/-!
# Written decimals that are read back

The text of a finite decimal is laid out in one of three ways: as a whole number, with a point
between its digits or before them, or in scientific form. In each of them the digits on both
sides of the point are those of the coefficient, after some zeros, and the power of ten that is
written, less the number of digits after the point, is that of the coefficient. So the sign, the
coefficient and the power are read back as they were.
-/

namespace DataContract
namespace Number

open DataContract.Text

/-- A fraction with a point before it; no fraction has none. -/
def pointed (fraction : List Char) : List Char :=
  if fraction.isEmpty then [] else '.' :: fraction

/-- The power of ten of a number in scientific form. -/
def powerChars (power : Int) : List Char :=
  'E' :: (if power < 0 then '-' else '+') :: Nat.toDigits 10 power.natAbs

/-- A written power of ten is read. -/
theorem readPower?_powerChars (power : Int) : readPower? (powerChars power) = some power := by
  have digits := allDigits?_of_isDigit (isDigit_of_mem_digits power.natAbs) Nat.toDigits_ne_nil
  rw [powerChars]
  generalize size : power.natAbs = magnitude at digits ⊢
  by_cases negative : power < 0
  · have signed : -(magnitude : Int) = power := by omega
    simp [readPower?, negative, takeSign, digits, digitsValue_digitValues, signed]
  · have signed : (magnitude : Int) = power := by omega
    simp [readPower?, negative, takeSign, digits, digitsValue_digitValues, signed]

/-- The layout of a number. -/
structure Layout where
  /-- The digits before the point. -/
  whole : List Char
  /-- The digits after the point. -/
  fraction : List Char
  /-- The power of ten, in scientific form. -/
  power : Option Int

namespace Layout

/-- The text of a layout. -/
def chars (layout : Layout) : List Char :=
  layout.whole ++ (pointed layout.fraction ++ layout.power.elim [] powerChars)

/-- Whether a layout is one of the number with a coefficient and a power of ten. -/
structure Writes
    (layout : Layout)
    (coefficient : Nat)
    (exponent : Int) : Prop where
  /-- There is a digit before the point. -/
  present : layout.whole ≠ []
  /-- Only digits are before the point. -/
  whole : ∀ c ∈ layout.whole, c.isDigit = true
  /-- Only digits are after the point. -/
  fraction : ∀ c ∈ layout.fraction, c.isDigit = true
  /-- All digits together are those of the coefficient. -/
  digits : Nat.ofDigitChars 10 (layout.whole ++ layout.fraction) 0 = coefficient
  /-- The point and the power of ten make up the exponent. -/
  scale : layout.power.getD 0 - layout.fraction.length = exponent

variable
  {layout : Layout}
  {coefficient : Nat}
  {exponent : Int}

/-- The power of a layout follows a run of digits. -/
theorem endsDigits_power (power : Option Int) : EndsDigits (power.elim [] powerChars) := by
  cases power with
  | none => exact endsDigits_nil
  | some power => exact endsDigits_cons (by decide +kernel) _

/-- The fraction and the power of a layout are told apart. -/
theorem takeFraction_pointed
    {fraction : List Char}
    (each : ∀ c ∈ fraction, c.isDigit = true)
    (power : Option Int) :
    takeFraction (pointed fraction ++ power.elim [] powerChars) =
      (digitValues fraction, power.elim [] powerChars) := by
  cases fraction with
  | nil => cases power <;> rfl
  | cons c rest => exact takeDigits_append each (endsDigits_power power)

/-- What is laid out is read back. -/
theorem Writes.readUnsigned?_chars
    (writes : layout.Writes coefficient exponent)
    (negative : Bool) :
    ∃ numeral, readUnsigned? negative layout.chars = some numeral ∧
      numeral.negative = negative ∧ numeral.coefficient = coefficient ∧
      numeral.power = exponent := by
  have ends : EndsDigits (pointed layout.fraction ++ layout.power.elim [] powerChars) := by
    rw [pointed]
    split
    · exact endsDigits_power layout.power
    · exact endsDigits_cons (by decide +kernel) _
  have power : readPower? (layout.power.elim [] powerChars) = some (layout.power.getD 0) := by
    cases layout.power with
    | none => rfl
    | some power => exact readPower?_powerChars power
  refine ⟨⟨negative, digitValues layout.whole, digitValues layout.fraction,
    layout.power.getD 0⟩, ?_, rfl, ?_, ?_⟩
  · have present : (digitValues layout.whole).isEmpty = false := by
      simpa [digitValues] using writes.present
    simp [readUnsigned?, chars, takeDigits_append writes.whole ends,
      takeFraction_pointed writes.fraction, power, present]
  · rw [Numeral.coefficient, ← digitValues_append, digitsValue_digitValues, writes.digits]
  · rw [Numeral.power, length_digitValues, writes.scale]

/-- A layout has neither blanks nor low lines. -/
theorem Writes.isDense_chars (writes : layout.Writes coefficient exponent) :
    IsDense layout.chars := by
  refine isDense_append ⟨isDense_of_isDigit writes.whole, isDense_append ⟨?_, ?_⟩⟩
  · have fraction := isDense_of_isDigit writes.fraction
    rw [pointed]
    split
    · simp [IsDense]
    · simpa [IsDense] using fraction
  · cases layout.power with
    | none => simp [IsDense]
    | some power =>
        have digits := isDense_of_isDigit (isDigit_of_mem_digits power.natAbs)
        have sign : IsDense ['E', if power < 0 then '-' else '+'] := by
          split <;> simp [IsDense]
        exact isDense_append ⟨sign, digits⟩

end Layout

namespace Decimal

/-- Digits that are cut in two are laid out on both sides of the point. -/
theorem writes_of_append
    {digits whole fraction : List Char}
    (each : ∀ c ∈ digits, c.isDigit = true)
    (cut : whole ++ fraction = digits)
    (some : whole ≠ [])
    (power : Option Int) :
    Layout.Writes ⟨whole, fraction, power⟩ (Nat.ofDigitChars 10 digits 0)
      (power.getD 0 - fraction.length) := by
  rw [← cut, List.forall_mem_append] at each
  exact ⟨some, each.1, each.2, by rw [cut], rfl⟩

/-- Digits are laid out after the point, with zeros before them. -/
theorem writes_of_zeros
    {digits : List Char}
    (each : ∀ c ∈ digits, c.isDigit = true)
    (zeros : Nat) :
    Layout.Writes ⟨['0'], List.replicate zeros '0' ++ digits, none⟩
      (Nat.ofDigitChars 10 digits 0) (-(zeros + digits.length : Nat)) := by
  have written : ∀ c ∈ '0' :: (List.replicate zeros '0' ++ digits), c.isDigit = true := by
    intro c member
    simp only [List.mem_cons, List.mem_append, List.mem_replicate] at member
    rcases member with rfl | ⟨-, rfl⟩ | member
    · rfl
    · rfl
    · exact each c member
  have writes : Layout.Writes ⟨['0'], List.replicate zeros '0' ++ digits, none⟩ _ _ :=
    writes_of_append written rfl (by simp) none
  simpa [Nat.ofDigitChars_cons, Nat.ofDigitChars_append] using writes

/-- The text of a finite decimal is laid out by its coefficient and its power. -/
theorem exists_layout
    (coefficient : Nat)
    (exponent : Int) :
    ∃ layout : Layout, (finiteText coefficient exponent).toList = layout.chars ∧
      layout.Writes coefficient exponent := by
  have each := isDigit_of_mem_digits coefficient
  have value := Nat.ofDigitChars_ten_toDigits (n := coefficient)
  have positive : 0 < (Nat.toDigits 10 coefficient).length := Nat.length_toDigits_pos
  have leads : leadingPower coefficient exponent =
      exponent + (Nat.toDigits 10 coefficient).length - 1 := rfl
  unfold finiteText
  generalize leadingPower coefficient exponent = leading at leads ⊢
  generalize Nat.toDigits 10 coefficient = digits at each value positive leads ⊢
  subst value
  have digit : digits ≠ [] := List.ne_nil_of_length_pos positive
  by_cases positional : exponent ≤ 0 ∧ -6 ≤ leading
  · by_cases integral : exponent = 0
    · refine ⟨⟨digits, [], none⟩, ?_, ?_⟩
      · simp [integral, positional.2, Layout.chars, pointed]
      · simpa [integral] using writes_of_append each (List.append_nil digits) digit none
    · by_cases below : leading < 0
      · have writes := writes_of_zeros each (-leading - 1).toNat
        refine ⟨⟨['0'], List.replicate (-leading - 1).toNat '0' ++ digits, none⟩, ?_, ?_⟩
        · simp [integral, positional, below, Layout.chars, pointed, digit]
        · have scale : (-((-leading - 1).toNat + digits.length : Nat) : Int) = exponent := by omega
          rwa [scale] at writes
      · have whole : digits.take (leading + 1).toNat ≠ [] := by
          simp only [ne_eq, List.take_eq_nil_iff, digit, or_false]
          omega
        have rest : digits.drop (leading + 1).toNat ≠ [] := by
          simp only [ne_eq, List.drop_eq_nil_iff]
          omega
        have scale : (0 : Int) - (digits.drop (leading + 1).toNat).length = exponent := by
          simp only [List.length_drop]
          omega
        refine ⟨⟨digits.take (leading + 1).toNat, digits.drop (leading + 1).toNat, none⟩, ?_, ?_⟩
        · simp [integral, positional, below, Layout.chars, pointed, rest]
        · rw [← scale]
          exact writes_of_append each (List.take_append_drop _ digits) whole none
  · have scale : leading - (digits.drop 1).length = exponent := by
      simp only [List.length_drop]
      omega
    refine ⟨⟨digits.take 1, digits.drop 1, some leading⟩, ?_, ?_⟩
    · by_cases below : leading < 0 <;>
        simp [positional, below, Layout.chars, pointed, powerChars]
    · rw [← scale]
      exact writes_of_append each (List.take_append_drop 1 digits) (by simp [digit])
        (some leading)

/-- A finite decimal within the limits of its form is read back from its text. -/
theorem read?_text
    (negative : Bool)
    (coefficient : Nat)
    (exponent : Int)
    (range : inRange coefficient exponent = true) :
    read? (finite negative coefficient exponent).text.toList =
      some (finite negative coefficient exponent) := by
  obtain ⟨layout, laid, writes⟩ := exists_layout coefficient exponent
  obtain ⟨numeral, read, sign, digits, power⟩ := writes.readUnsigned?_chars negative
  have chars : (finite negative coefficient exponent).text.toList =
      signChars negative ++ layout.chars := by
    cases negative <;> simp [text, signChars, laid]
  have dense : IsDense (signChars negative ++ layout.chars) :=
    isDense_append ⟨isDense_signChars negative, writes.isDense_chars⟩
  have kept : (signChars negative ++ layout.chars).filter (· != '_') =
      signChars negative ++ layout.chars := by
    rw [List.filter_eq_self]
    intro c member
    simpa using ne_lowLine_of_isDense dense member
  have signed : takeSign (signChars negative ++ layout.chars) = (negative, layout.chars) :=
    takeSign_signChars negative writes.whole writes.present _
  simp only [read?, chars, trimBlanks_of_isDense dense, kept, signed, read, sign, digits, power,
    range, if_true]

end Decimal
end Number
end DataContract
