import DataContract.Number.Reading
import DataContract.Proofs.Attempt

/-!
# Written numbers that are read back

Numbers are written with the digits from `0` to `9`. The readers, which also know other digits,
blanks around a number and low lines between its digits, find in such a text just what was
written: a run of digits is taken up to its end and has the value of its digits.
-/

namespace DataContract
namespace Number

open DataContract.Text

section Characters

variable {c : Char}

theorem toNat_of_isDigit (digit : c.isDigit = true) : 48 ≤ c.toNat ∧ c.toNat ≤ 57 := by
  simpa [Char.isDigit, UInt32.le_iff_toNat_le] using digit

theorem digitValue?_of_isDigit (digit : c.isDigit = true) :
    digitValue? c = some (c.toNat - '0'.toNat) := by
  have range := toNat_of_isDigit digit
  have first : (decide (48 ≤ c.toNat) && decide (c.toNat < 48 + 10)) = true := by
    simp only [Bool.and_eq_true, decide_eq_true_eq]
    omega
  rw [digitValue?, decimalZeros, List.find?_cons, first]
  rfl

/-- No character from the exclamation mark to the end of the ASCII range is white space. -/
theorem isBlank_eq_false
    (low : 33 ≤ c.toNat)
    (high : c.toNat ≤ 127) :
    isBlank c = false := by
  simp only [isBlank, blankRanges, CodeRanges.contains, List.any_eq_false, List.mem_cons,
    List.not_mem_nil, or_false, Bool.and_eq_true, decide_eq_true_eq]
  rintro range (rfl | rfl | rfl | rfl | rfl | rfl | rfl | rfl | rfl | rfl) <;> dsimp only <;> omega

end Characters

/-- The values of digits from `0` to `9`. -/
def digitValues (digits : List Char) : List Nat :=
  digits.map fun c => c.toNat - '0'.toNat

@[simp] theorem digitValues_append (digits others : List Char) :
    digitValues (digits ++ others) = digitValues digits ++ digitValues others :=
  List.map_append

@[simp] theorem length_digitValues (digits : List Char) :
    (digitValues digits).length = digits.length :=
  List.length_map _

/-- The number that digits write. -/
theorem digitsValue_digitValues (digits : List Char) :
    digitsValue (digitValues digits) = Nat.ofDigitChars 10 digits 0 := by
  rw [digitsValue, digitValues, List.foldl_map, Nat.ofDigitChars_eq_foldl]

/-- Whether a text begins with no digit of any script. -/
def EndsDigits (chars : List Char) : Prop :=
  ∀ c ∈ chars.head?, digitValue? c = none

theorem endsDigits_nil : EndsDigits [] :=
  fun _ absent => nomatch absent

theorem endsDigits_cons
    {c : Char}
    (other : digitValue? c = none)
    (rest : List Char) :
    EndsDigits (c :: rest) := by
  intro first same
  obtain rfl : c = first := by simpa using same
  exact other

section Runs

variable
  {digits : List Char}
  (each : ∀ c ∈ digits, c.isDigit = true)

include each

/-- A run of digits is taken up to its end. -/
theorem takeDigits_append
    {rest : List Char}
    (ends : EndsDigits rest) :
    takeDigits (digits ++ rest) = (digitValues digits, rest) := by
  induction digits with
  | nil =>
      cases rest with
      | nil => rfl
      | cons c rest => simp [takeDigits, digitValues, ends c rfl]
  | cons c digits hypothesis =>
      rw [List.forall_mem_cons] at each
      simp [takeDigits, digitValue?_of_isDigit each.1, hypothesis each.2, digitValues]

theorem takeDigits_of_isDigit : takeDigits digits = (digitValues digits, []) := by
  simpa using takeDigits_append each endsDigits_nil

theorem allDigits?_of_isDigit (some : digits ≠ []) :
    allDigits? digits = .some (digitValues digits) := by
  simp [allDigits?, takeDigits_of_isDigit each, digitValues, some]

/-- Digits have no sign before them. -/
theorem takeSign_of_isDigit
    (some : digits ≠ [])
    (rest : List Char) :
    takeSign (digits ++ rest) = (false, digits ++ rest) := by
  obtain ⟨c, others, rfl⟩ := List.exists_cons_of_ne_nil some
  have range := toNat_of_isDigit (each c List.mem_cons_self)
  have minus : c ≠ '-' := by rintro rfl; simp at range
  have plus : c ≠ '+' := by rintro rfl; simp at range
  simp [takeSign, minus, plus]

end Runs

/-- The digits of a written number. -/
theorem isDigit_of_mem_digits
    (n : Nat)
    (c : Char)
    (member : c ∈ Nat.toDigits 10 n) :
    c.isDigit = true :=
  Nat.isDigit_of_mem_toDigits (by decide) (by decide) member

/-- What is written for the sign of a number. -/
def signChars (negative : Bool) : List Char :=
  if negative then ['-'] else []

/-- A written sign is taken off. -/
theorem takeSign_signChars
    (negative : Bool)
    {digits : List Char}
    (each : ∀ c ∈ digits, c.isDigit = true)
    (some : digits ≠ [])
    (rest : List Char) :
    takeSign (signChars negative ++ (digits ++ rest)) = (negative, digits ++ rest) := by
  cases negative with
  | true => rfl
  | false => exact takeSign_of_isDigit each some rest

/-- Nothing is taken off at the ends of a text without characters that might be. -/
theorem trim_eq_self
    {chars : List Char}
    {isOuter : Char → Bool}
    (inner : ∀ c ∈ chars, isOuter c = false) :
    ((chars.dropWhile isOuter).reverse.dropWhile isOuter).reverse = chars := by
  have kept (others : List Char) (same : ∀ c ∈ others, isOuter c = false) :
      others.dropWhile isOuter = others := by
    cases others with
    | nil => rfl
    | cons c rest => simp [same c List.mem_cons_self]
  rw [kept chars inner, kept _ fun c member => inner c (List.mem_reverse.mp member),
    List.reverse_reverse]

/-- Whether a text has neither blanks nor low lines, but only characters between the two. -/
def IsDense (chars : List Char) : Prop :=
  ∀ c ∈ chars, 33 ≤ c.toNat ∧ c.toNat ≤ 94

section Dense

variable {chars others : List Char}

theorem isDense_append (both : IsDense chars ∧ IsDense others) : IsDense (chars ++ others) :=
  List.forall_mem_append.mpr both

theorem isDense_of_isDigit (each : ∀ c ∈ chars, c.isDigit = true) : IsDense chars := by
  intro c member
  have range := toNat_of_isDigit (each c member)
  omega

theorem isDense_signChars (negative : Bool) : IsDense (signChars negative) := by
  cases negative <;> simp [IsDense, signChars]

theorem trimBlanks_of_isDense (dense : IsDense chars) : trimBlanks chars = chars := by
  refine trim_eq_self fun c member => ?_
  have range := dense c member
  exact isBlank_eq_false range.1 (by omega)

theorem trimNumber_of_isDense (dense : IsDense chars) : trimNumber chars = chars := by
  refine trim_eq_self fun c member => ?_
  have range := dense c member
  simp [isNumberBlank, isBlank_eq_false range.1 (by omega)]

theorem ne_lowLine_of_isDense
    (dense : IsDense chars)
    {c : Char}
    (member : c ∈ chars) :
    c ≠ '_' := by
  rintro rfl
  have range := dense _ member
  simp at range

/-- A text without low lines has no grouping to drop. -/
theorem dropGrouping_of_isDense
    (dense : IsDense chars)
    (afterDigit : Bool) :
    dropGrouping afterDigit chars = some chars := by
  induction chars generalizing afterDigit with
  | nil => rfl
  | cons c rest hypothesis =>
      have other := ne_lowLine_of_isDense dense List.mem_cons_self
      rw [IsDense, List.forall_mem_cons] at dense
      rw [dropGrouping]
      · simp [hypothesis dense.2]
      · simpa using other

end Dense

/-! ## Whole numbers -/

/-- A whole number is written as its sign and its digits. -/
theorem toList_repr (n : Int) :
    (toString n).toList = signChars (n < 0) ++ Nat.toDigits 10 n.natAbs := by
  rw [Int.toString_eq_repr, Int.repr_eq_if]
  split
  · rename_i nonnegative
    have magnitude : n.toNat = n.natAbs := by omega
    simp [signChars, magnitude, Int.not_lt.mpr nonnegative]
  · rename_i negative
    have magnitude : (-n).toNat = n.natAbs := by omega
    simp [signChars, magnitude, Int.not_le.mp negative]

/-- A whole number that has not too many digits is read back from its text. -/
theorem readWhole?_toString
    (n : Int)
    (short : (Nat.toDigits 10 n.natAbs).length ≤ maxWholeDigits) :
    readWhole? (toString n).toList = some n := by
  have each := isDigit_of_mem_digits n.natAbs
  have dense : IsDense (signChars (n < 0) ++ Nat.toDigits 10 n.natAbs) :=
    isDense_append ⟨isDense_signChars _, isDense_of_isDigit each⟩
  have signed := takeSign_signChars (n < 0) each Nat.toDigits_ne_nil []
  rw [List.append_nil] at signed
  simp only [toList_repr, readWhole?, trimNumber_of_isDense dense,
    dropGrouping_of_isDense dense, Option.bind_eq_bind, Option.bind_some, signed,
    allDigits?_of_isDigit each Nat.toDigits_ne_nil, length_digitValues, short, if_true,
    digitsValue_digitValues, Nat.ofDigitChars_ten_toDigits, Option.some.injEq]
  by_cases negative : n < 0
  · rw [decide_eq_true negative, if_pos rfl]
    omega
  · rw [decide_eq_false negative, if_neg Bool.false_ne_true]
    omega

end Number
end DataContract
