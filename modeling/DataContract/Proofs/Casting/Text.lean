import DataContract.Casting.Default
import DataContract.Proofs.Calendar.Text
import DataContract.Proofs.Number.Decimal
import DataContract.Proofs.Predicate.TypeCheck

/-!
# Conversions to texts and back

Whole numbers, decimals, dates and times are converted to texts from which they are converted
back to what they were, in form as well as in value.
-/

namespace DataContract

open Number Calendar

/-- Whether a value of a kind is told by its text: a whole number that has not too many digits, a
finite decimal within the limits of its form, and a date or a time, the time without an offset or
in universal time. -/
inductive Tag.IsToldByText : Tag → Value → Prop
  | integer
      (number : Int)
      (short : number.natAbs < wholeTextLimit) :
      IsToldByText .integer (.int number)
  | decimal
      (negative : Bool)
      (coefficient : Nat)
      (exponent : Int)
      (range : Decimal.inRange coefficient exponent = true) :
      IsToldByText .decimal (.decimal (.finite negative coefficient exponent))
  | date (day : Date) : IsToldByText .date (.date day)
  | time
      (clock : Time)
      (plain : clock.IsPlain) :
      IsToldByText .time (.time clock)
  | dateTime
      (moment : DateTime)
      (plain : moment.time.IsPlain) :
      IsToldByText .dateTime (.dateTime moment)

/-- Between two different tags, the default caster applies their conversion. -/
theorem convert_of_conversion
    {source target : Tag}
    {conversion : Value → Entries → Attempt Value}
    (found : conversion? source target = some conversion)
    (differs : source.name ≠ target.name)
    (value : Value)
    (options : Entries) :
    convert (.text source.name) (.text target.name) value options = conversion value options := by
  have compared : (Value.text source.name).equals (.text target.name) = .ok false := by
    simp [Value.equals, Scalar.equals, Scalar.number?, differs]
  have looked : findConversion (.text source.name) (.text target.name) = .ok (some conversion) := by
    simp [findConversion, Value.isKey, Tag.ofName?_name, found]
  rw [convert, compared, Attempt.ok_bind, if_neg Bool.false_ne_true, looked, Attempt.ok_bind]

/-- If the conversion to texts writes a value, and the one from texts reads it, the default caster
does so too. -/
theorem convert_text_of_conversion
    {tag : Tag}
    {write read : Value → Entries → Attempt Value}
    {value : Value}
    {options : Entries}
    (text : String)
    (out : conversion? tag .string = some write)
    (back : conversion? .string tag = some read)
    (differs : tag.name ≠ Tag.string.name)
    (written : write value options = .ok (.text text))
    (same : read (.text text) options = .ok value) :
    ∃ text, convert (.text tag.name) (.text "string") value options = .ok (.text text) ∧
      convert (.text "string") (.text tag.name) (.text text) options = .ok value :=
  ⟨text, (convert_of_conversion out differs value options).trans written,
    (convert_of_conversion back differs.symm (.text text) options).trans same⟩

/-- A value that is told by its text is converted back from the text that it is converted to. -/
theorem convert_text_back
    (tag : Tag)
    (value : Value)
    (told : tag.IsToldByText value)
    (options : Entries) :
    ∃ text, convert (.text tag.name) (.text "string") value options = .ok (.text text) ∧
      convert (.text "string") (.text tag.name) (.text text) options = .ok value := by
  cases told with
  | integer number short =>
      have written : Value.write (.int number) = .ok (toString number) :=
        if_pos (decide_eq_true short)
      have digits : (Nat.toDigits 10 number.natAbs).length ≤ maxWholeDigits := by
        refine (Nat.length_toDigits_le_iff (by decide) (by decide)).mpr ?_
        unfold wholeTextLimit at short
        generalize maxWholeDigits = limit at short ⊢
        exact short
      have read := readWhole?_toString number digits
      refine convert_text_of_conversion (toString number) rfl rfl (by decide) ?_ ?_
      · rw [written]
        rfl
      · simp only [Value.toWhole, read, Value.readOr, Except.map]
  | decimal negative coefficient exponent range =>
      have read := Decimal.read?_text negative coefficient exponent range
      refine convert_text_of_conversion (Decimal.finite negative coefficient exponent).text
        rfl rfl (by decide) rfl ?_
      simp [Value.toDecimal, Value.readOr, read, Except.map]
  | date day =>
      refine convert_text_of_conversion day.text rfl rfl (by decide) rfl ?_
      simp [Value.readText, Value.readOr, day.read?_text, Except.map]
  | time clock plain =>
      refine convert_text_of_conversion clock.text rfl rfl (by decide) rfl ?_
      simp [Value.readText, Value.readOr, clock.read?_text plain, Except.map]
  | dateTime moment plain =>
      refine convert_text_of_conversion (moment.text "T") rfl rfl (by decide) rfl ?_
      simp [Value.readText, Value.readOr, moment.read?_text plain, Except.map]

theorem convert_text_back_scientific :
    convert (.text "decimal") (.text "string") (.decimal (.finite true 1200 (-12))) [] =
        .ok (.text "-1.200E-9") ∧
      convert (.text "string") (.text "decimal") (.text "-1.200E-9") [] =
        .ok (.decimal (.finite true 1200 (-12))) := by
  have out : convert (.text "decimal") (.text "string") (.decimal (.finite true 1200 (-12))) [] =
      .ok (.text "-1.200E-9") := rfl
  obtain ⟨text, again, back⟩ := convert_text_back .decimal (.decimal (.finite true 1200 (-12)))
    (.decimal true 1200 (-12) (by decide)) []
  obtain rfl : "-1.200E-9" = text := by simpa using out.symm.trans again
  exact ⟨out, back⟩

end DataContract
