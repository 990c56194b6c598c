import DataContract.Calendar.Reading
import DataContract.Proofs.Number.Numeral
import Mathlib.Algebra.Ring.Nat

/-!
# Written dates and times that are read back

Every part of a written date or time has a fixed number of digits, so it is clear where the next
part begins. A time is written without its fraction if that is zero, and with six digits of it
otherwise; its offset, if it has one, begins at the first sign after the clock. A date of ten
characters ends where the separator before the time stands.
-/

namespace DataContract
namespace Calendar

open DataContract.Number

section Padded

variable
  {width n : Nat}

theorem toList_padded (width n : Nat) :
    (padded width n).toList =
      List.replicate (width - (Nat.toDigits 10 n).length) '0' ++ Nat.toDigits 10 n := by
  simp [padded, Nat.repr_eq_ofList_toDigits]

theorem isDigit_of_mem_padded
    (width n : Nat)
    (c : Char)
    (member : c ∈ (padded width n).toList) :
    c.isDigit = true := by
  rw [toList_padded, List.mem_append, List.mem_replicate] at member
  rcases member with ⟨-, rfl⟩ | member
  · rfl
  · exact isDigit_of_mem_digits n c member

/-- A number that is not too great is written with exactly so many digits. -/
theorem length_padded
    (positive : 0 < width)
    (small : n < 10 ^ width) :
    (padded width n).toList.length = width := by
  have short := (Nat.length_toDigits_le_iff (b := 10) (by decide) positive).mpr small
  rw [toList_padded, List.length_append, List.length_replicate]
  omega

/-- A number with so many digits is taken from the start of a text. -/
theorem takeNumber?_padded
    (positive : 0 < width)
    (small : n < 10 ^ width)
    (rest : List Char) :
    takeNumber? width ((padded width n).toList ++ rest) = some (n, rest) := by
  have length := length_padded positive small
  have value :
      (padded width n).toList.foldl (fun total c => 10 * total + (c.toNat - 48)) 0 = n := by
    change Nat.ofDigitChars 10 (padded width n).toList 0 = n
    simp [toList_padded, Nat.ofDigitChars_append]
  rw [takeNumber?, List.take_left' length, List.drop_left' length, length,
    List.all_eq_true.mpr (isDigit_of_mem_padded width n), value]
  simp

/-- What begins with a digit. -/
theorem exists_padded_eq_cons
    (width n : Nat) :
    ∃ c rest, (padded width n).toList = c :: rest ∧ c.isDigit = true := by
  have some : (padded width n).toList ≠ [] := by simp [toList_padded]
  obtain ⟨c, rest, shape⟩ := List.exists_cons_of_ne_nil some
  exact ⟨c, rest, shape, isDigit_of_mem_padded width n c (by simp [shape])⟩

end Padded

/-! ## Dates -/

/-- A month has at most 31 days. -/
theorem daysInMonth_le (year month : Nat) : daysInMonth year month ≤ 31 := by
  unfold daysInMonth
  split
  · split <;> omega
  · split <;> omega

/-- The numbers of a date have as many digits as they are written with. -/
theorem Date.bounds (date : Date) :
    date.year < 10 ^ 4 ∧ date.month < 10 ^ 2 ∧ date.day < 10 ^ 2 := by
  have valid := date.valid
  have days := daysInMonth_le date.year date.month
  simp only [isDate, Bool.and_eq_true, decide_eq_true_eq] at valid
  omega

theorem Date.toList_text (date : Date) :
    date.text.toList =
      (padded 4 date.year).toList ++ '-' ::
        ((padded 2 date.month).toList ++ '-' :: (padded 2 date.day).toList) := by
  simp [Date.text]

/-- A date is read back from the text that begins with it. -/
theorem readDate?_text
    (date : Date)
    (rest : List Char) :
    readDate? (date.text.toList ++ rest) = some date := by
  obtain ⟨year, month, day⟩ := date.bounds
  have parts : Date.ofParts? date.year date.month date.day = some date := dif_pos date.valid
  obtain ⟨c, others, shape, digit⟩ := exists_padded_eq_cons 2 date.month
  have letter : c ≠ 'W' := by
    rintro rfl
    cases digit
  simp only [readDate?, Date.toList_text, List.append_assoc, List.cons_append,
    takeNumber?_padded (by decide) year, Option.bind_eq_bind, Option.bind_some]
  have afterYear := takeNumber?_padded (by decide) month
    ('-' :: ((padded 2 date.day).toList ++ rest))
  rw [shape, List.cons_append] at afterYear
  simp [shape, letter, afterYear, takeSeparator?, takeNumber?_padded (by decide) day, parts]

theorem byteCount_eq_sum (chars : List Char) : byteCount chars = (chars.map Char.utf8Size).sum := by
  rw [byteCount, List.sum_eq_foldl, List.foldl_map]

theorem byteCount_append (chars others : List Char) :
    byteCount (chars ++ others) = byteCount chars + byteCount others := by
  simp [byteCount_eq_sum]

/-- Characters of the ASCII range have one byte. -/
theorem byteCount_eq_length
    {chars : List Char}
    (short : ∀ c ∈ chars, c.toNat ≤ 127) :
    byteCount chars = chars.length := by
  rw [byteCount_eq_sum]
  induction chars with
  | nil => rfl
  | cons c rest hypothesis =>
      rw [List.forall_mem_cons] at short
      have one : c.utf8Size = 1 := Char.utf8Size_eq_one_iff.mpr (by
        simpa [UInt32.le_iff_toNat_le] using short.1)
      rw [List.map_cons, List.sum_cons, hypothesis short.2, one, List.length_cons, Nat.add_comm]

theorem toNat_le_of_isDense
    {chars : List Char}
    (dense : IsDense chars) :
    ∀ c ∈ chars, c.toNat ≤ 127 := by
  intro c member
  have range := dense c member
  omega

theorem isDense_padded (width n : Nat) : IsDense (padded width n).toList :=
  isDense_of_isDigit (isDigit_of_mem_padded width n)

theorem Date.isDense_text (date : Date) : IsDense date.text.toList := by
  have year := isDense_padded 4 date.year
  have month := isDense_padded 2 date.month
  have day := isDense_padded 2 date.day
  rw [Date.toList_text]
  refine isDense_append ⟨year, List.forall_mem_cons.mpr ⟨by decide, isDense_append ⟨month, ?_⟩⟩⟩
  exact List.forall_mem_cons.mpr ⟨by decide, day⟩

/-- The text of a date has ten characters. -/
theorem Date.length_text (date : Date) : date.text.toList.length = 10 := by
  obtain ⟨year, month, day⟩ := date.bounds
  rw [Date.toList_text]
  simp only [List.length_append, List.length_cons, length_padded (by decide) year,
    length_padded (by decide) month, length_padded (by decide) day]

theorem Date.byteCount_text (date : Date) : byteCount date.text.toList = 10 := by
  rw [byteCount_eq_length (toNat_le_of_isDense date.isDense_text), date.length_text]

/-- A date is read back from its text. -/
theorem Date.read?_text (date : Date) : Date.read? date.text.toList = some date := by
  have size := date.byteCount_text
  have read := readDate?_text date []
  rw [List.append_nil] at read
  simp [Date.read?, size, read]

/-! ## Times -/

/-- The numbers of a time have as many digits as they are written with. -/
theorem Time.bounds (time : Time) :
    time.hour < 10 ^ 2 ∧ time.minute < 10 ^ 2 ∧ time.second < 10 ^ 2 ∧
      time.microsecond < 10 ^ 6 := by
  have valid := time.valid
  simp only [isTimeOfDay, Bool.and_eq_true, decide_eq_true_eq] at valid
  omega

/-- The characters of a clock: hours, minutes and seconds, and a fraction if it is not zero. -/
def clockChars (hour minute second microsecond : Nat) : List Char :=
  (padded 2 hour).toList ++ ':' :: ((padded 2 minute).toList ++ ':' ::
    ((padded 2 second).toList ++ (fractionText microsecond).toList))

theorem Time.toList_text (time : Time) :
    time.text.toList =
      clockChars time.hour time.minute time.second time.microsecond ++
        (time.offset.elim "" Offset.text).toList := by
  simp [Time.text, clockChars]

/-- A fraction of six digits is read. -/
theorem readFraction?_padded
    {microsecond : Nat}
    (small : microsecond < 10 ^ 6) :
    readFraction? (padded 6 microsecond).toList = some (microsecond, []) := by
  have taken := takeNumber?_padded (by decide) small []
  rw [List.append_nil] at taken
  simp [readFraction?, length_padded (by decide) small, taken]

/-- The seconds of a clock are read, and a fraction if there is one. -/
theorem readSeconds?_written
    (hour minute : Nat)
    {second microsecond : Nat}
    (seconds : second < 10 ^ 2)
    (small : microsecond < 10 ^ 6) :
    readSeconds? hour minute true ((padded 2 second).toList ++ (fractionText microsecond).toList) =
      some (⟨hour, minute, second, microsecond⟩, []) := by
  rw [readSeconds?, takeNumber?_padded (by decide) seconds]
  by_cases whole : microsecond = 0
  · simp [whole, fractionText, clockTail?]
  · obtain ⟨c, rest, shape, -⟩ := exists_padded_eq_cons 6 microsecond
    have read := readFraction?_padded small
    rw [shape] at read
    simp [whole, fractionText, clockTail?, completeClock?, shape, read]

/-- A clock is read as it is written. -/
theorem readClock?_clockChars
    {hour minute second microsecond : Nat}
    (hours : hour < 10 ^ 2)
    (minutes : minute < 10 ^ 2)
    (seconds : second < 10 ^ 2)
    (small : microsecond < 10 ^ 6) :
    readClock? (clockChars hour minute second microsecond) =
      some (⟨hour, minute, second, microsecond⟩, []) := by
  obtain ⟨first, rest, shape, -⟩ := exists_padded_eq_cons 2 minute
  obtain ⟨c, others, later, -⟩ := exists_padded_eq_cons 2 second
  have afterHour := takeNumber?_padded (by decide) minutes
    (':' :: ((padded 2 second).toList ++ (fractionText microsecond).toList))
  have afterMinute := readSeconds?_written hour minute seconds small
  rw [shape, List.cons_append] at afterHour
  rw [later, List.cons_append] at afterHour afterMinute
  simp [readClock?, clockChars, takeNumber?_padded (by decide) hours, clockTail?, shape,
    readMinutes?, afterHour, later, afterMinute]

/-- Whether a time has no offset, or that of universal time. -/
def Time.IsPlain (time : Time) : Prop :=
  time.offset = none ∨ time.offset = some Offset.universal

theorem startsOffset_of_isDigit
    {c : Char}
    (digit : c.isDigit = true) :
    startsOffset c = false := by
  have range := toNat_of_isDigit digit
  simp only [startsOffset, Bool.or_eq_false_iff, beq_eq_false_iff_ne]
  refine ⟨⟨?_, ?_⟩, ?_⟩ <;> rintro rfl <;> simp at range

/-- A clock ends where its offset starts. -/
theorem startsOffset_of_mem_clockChars
    {hour minute second microsecond : Nat}
    (c : Char)
    (member : c ∈ clockChars hour minute second microsecond) :
    startsOffset c = false := by
  have digits (width n : Nat) (inside : c ∈ (padded width n).toList) : startsOffset c = false :=
    startsOffset_of_isDigit (isDigit_of_mem_padded width n c inside)
  have fraction (inside : c ∈ (fractionText microsecond).toList) : startsOffset c = false := by
    rw [fractionText] at inside
    split at inside
    · simp at inside
    · rw [String.toList_append, List.mem_append] at inside
      rcases inside with point | inside
      · obtain rfl : c = '.' := by simpa using point
        rfl
      · exact digits 6 microsecond inside
  simp only [clockChars, List.mem_append, List.mem_cons] at member
  rcases member with inside | rfl | inside | rfl | inside | inside
  · exact digits 2 hour inside
  · rfl
  · exact digits 2 minute inside
  · rfl
  · exact digits 2 second inside
  · exact fraction inside

/-- A time without an offset, or with that of universal time, is read back from its text. -/
theorem readTime?_text
    (time : Time)
    (plain : time.IsPlain) :
    readTime? time.text.toList = some time := by
  obtain ⟨hours, minutes, seconds, small⟩ := time.bounds
  have clock := readClock?_clockChars hours minutes seconds small
  have parts : Time.ofParts? time.hour time.minute time.second time.microsecond time.offset =
      some time := dif_pos time.valid
  have inside : ∀ c ∈ clockChars time.hour time.minute time.second time.microsecond,
      (!startsOffset c) = true := by
    intro c member
    simp [startsOffset_of_mem_clockChars c member]
  rw [readTime?, Time.toList_text, List.takeWhile_append_of_pos inside,
    List.dropWhile_append_of_pos inside]
  rcases plain with none | universal
  · rw [none] at parts ⊢
    simp [clock, isEnd, parts]
  · have start : Offset.universal.text.toList = '+' :: ['0', '0', ':', '0', '0'] := by decide
    have read : readOffset? ('+' :: ['0', '0', ':', '0', '0']) = some Offset.universal := by decide
    rw [universal] at parts ⊢
    simp [start, startsOffset, clock, read, parts]

/-- A time is read back from its whole text. -/
theorem Time.read?_text
    (time : Time)
    (plain : time.IsPlain) :
    Time.read? time.text.toList = some time := by
  obtain ⟨c, rest, shape, digit⟩ := exists_padded_eq_cons 2 time.hour
  have letter : c ≠ 'T' := by
    rintro rfl
    cases digit
  have read := readTime?_text time plain
  rw [Time.toList_text, clockChars, shape, List.cons_append] at read ⊢
  simpa [Time.read?, letter] using read

/-- A date that a text begins with, before a separator and a time, has ten characters. -/
theorem dateLength?_text
    (date : Date)
    (c : Char)
    (rest : List Char) :
    dateLength? (date.text.toList ++ c :: rest) = some 10 := by
  obtain ⟨year, -, -⟩ := date.bounds
  have size : byteCount (date.text.toList ++ c :: rest) ≠ 7 := by
    rw [byteCount_append, date.byteCount_text]
    omega
  obtain ⟨first, others, shape, digit⟩ := exists_padded_eq_cons 2 date.month
  have letter : first ≠ 'W' := by
    rintro rfl
    cases digit
  have start : (padded 4 date.year).toList.length = 4 := length_padded (by decide) year
  rw [dateLength?, if_neg size, Date.toList_text, shape]
  simp [List.getElem?_append_right, start, letter]

/-- A date and time is read back from its text with a letter between the two. -/
theorem DateTime.read?_text
    (moment : DateTime)
    (plain : moment.time.IsPlain) :
    DateTime.read? (moment.text "T").toList = some moment := by
  have date := moment.date.length_text
  have chars : (moment.text "T").toList =
      moment.date.text.toList ++ 'T' :: moment.time.text.toList := by
    simp [DateTime.text]
  have readDate := readDate?_text moment.date []
  rw [List.append_nil] at readDate
  rw [DateTime.read?, chars, dateLength?_text, Option.bind_eq_bind, Option.bind_some,
    List.take_left' date, List.drop_left' date, readDate]
  simp [readTime?_text moment.time plain]

end Calendar
end DataContract
