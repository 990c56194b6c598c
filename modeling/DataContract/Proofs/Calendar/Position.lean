import DataContract.Calendar.Time
import Mathlib.Logic.Function.Basic

/-!
# Positions of dates and times

The date that is found at a position has this position, and the time that is found so many
microseconds after midnight is as many microseconds after it. So a moment that is found at a
distance from the start of the year 1970 has this distance from it. Different dates have different
positions.
-/

namespace DataContract
namespace Calendar

/-- A month begins where the month before it has passed. -/
theorem daysBeforeMonth_succ
    (year : Nat)
    {month : Nat}
    (positive : 0 < month) :
    Date.daysBeforeMonth year (month + 1) =
      Date.daysBeforeMonth year month + daysInMonth year month := by
  obtain ⟨earlier, rfl⟩ : ∃ earlier, month = earlier + 1 := ⟨month - 1, by omega⟩
  simp [Date.daysBeforeMonth, List.range_succ]

/-- The month and the day at a distance from the start of a month are at that distance. -/
theorem monthAndDay_position
    (bound year month rest : Nat)
    (positive : 0 < month) :
    Date.daysBeforeMonth year (Date.monthAndDay bound year month rest).1 +
        (Date.monthAndDay bound year month rest).2 =
      Date.daysBeforeMonth year month + rest + 1 := by
  induction bound generalizing month rest with
  | zero => rw [Date.monthAndDay, Nat.add_assoc]
  | succ bound hypothesis =>
      rw [Date.monthAndDay]
      split
      · rw [Nat.add_assoc]
      · rename_i past
        rw [hypothesis (month + 1) _ (by omega), daysBeforeMonth_succ year positive]
        omega

/-- A position is not before the year in which it lies. -/
theorem daysBeforeYear_yearOf
    {position : Nat}
    (positive : 0 < position) :
    Date.daysBeforeYear (Date.yearOf position) < position := by
  unfold Date.yearOf
  extract_lets guess
  split
  · unfold Date.daysBeforeYear
    extract_lets earlier
    omega
  · split
    · assumption
    · omega

/-- The date at a position has this position. -/
theorem Date.ordinal_of_ofOrdinal?
    {position : Nat}
    {date : Date}
    (found : Date.ofOrdinal? position = some date) :
    date.ordinal = position := by
  unfold Date.ofOrdinal? at found
  split at found
  · cases found
  · rename_i some
    have before := daysBeforeYear_yearOf (Nat.pos_of_ne_zero some)
    have inside := monthAndDay_position 11 (Date.yearOf position) 1
      (position - Date.daysBeforeYear (Date.yearOf position) - 1) Nat.one_pos
    simp only [Date.ofParts?] at found
    split at found
    · cases found
      have first : Date.daysBeforeMonth (Date.yearOf position) 1 = 0 := rfl
      rw [first] at inside
      simp only [Date.ordinal]
      omega
    · cases found

/-- Months begin in their order. -/
theorem daysBeforeMonth_mono
    (year : Nat)
    {month later : Nat}
    (positive : 0 < month)
    (order : month ≤ later) :
    Date.daysBeforeMonth year month ≤ Date.daysBeforeMonth year later := by
  obtain ⟨distance, rfl⟩ := Nat.exists_eq_add_of_le order
  clear order
  induction distance with
  | zero => exact Nat.le_refl _
  | succ distance hypothesis =>
      rw [← Nat.add_assoc, daysBeforeMonth_succ year (Nat.add_pos_left positive distance)]
      exact Nat.le_add_right_of_le hypothesis

/-- The twelve months of a year have as many days as the year. -/
theorem daysBeforeMonth_thirteen (year : Nat) :
    Date.daysBeforeMonth year 13 = if isLeap year then 366 else 365 := by
  simp only [Date.daysBeforeMonth, List.range, List.range.loop, List.foldl, daysInMonth]
  cases isLeap year <;> rfl

/-- A year begins where the twelve months of the year before it have passed. -/
theorem daysBeforeYear_succ
    {year : Nat}
    (positive : 0 < year) :
    Date.daysBeforeYear (year + 1) = Date.daysBeforeYear year + Date.daysBeforeMonth year 13 := by
  obtain ⟨earlier, rfl⟩ : ∃ earlier, year = earlier + 1 := ⟨year - 1, by omega⟩
  have fours : (earlier + 1) / 4 = earlier / 4 + if (earlier + 1) % 4 = 0 then 1 else 0 := by
    split <;> omega
  have centuries :
      (earlier + 1) / 100 = earlier / 100 + if (earlier + 1) % 100 = 0 then 1 else 0 := by
    split <;> omega
  have fourCenturies :
      (earlier + 1) / 400 = earlier / 400 + if (earlier + 1) % 400 = 0 then 1 else 0 := by
    split <;> omega
  have fewer : earlier / 100 ≤ earlier / 4 := Nat.div_le_div_left (by decide) (by decide)
  have ofCentury : (earlier + 1) % 100 = 0 → (earlier + 1) % 4 = 0 := by omega
  have ofFourCenturies : (earlier + 1) % 400 = 0 → (earlier + 1) % 100 = 0 := by omega
  rw [daysBeforeMonth_thirteen]
  simp only [Date.daysBeforeYear, Nat.add_sub_cancel, isLeap, fours, centuries, fourCenturies,
    Bool.and_eq_true, Bool.or_eq_true, bne_iff_ne, beq_iff_eq]
  generalize earlier / 4 = quarter at *
  generalize earlier / 100 = century at *
  generalize (earlier + 1) % 4 = fourth at *
  generalize (earlier + 1) % 100 = hundredth at *
  generalize (earlier + 1) % 400 = last at *
  split <;> split <;> split <;> split <;> omega

/-- Years begin in their order. -/
theorem daysBeforeYear_mono
    {year later : Nat}
    (positive : 0 < year)
    (order : year ≤ later) :
    Date.daysBeforeYear year ≤ Date.daysBeforeYear later := by
  obtain ⟨distance, rfl⟩ := Nat.exists_eq_add_of_le order
  clear order
  induction distance with
  | zero => exact Nat.le_refl _
  | succ distance hypothesis =>
      rw [← Nat.add_assoc, daysBeforeYear_succ (Nat.add_pos_left positive distance)]
      exact Nat.le_add_right_of_le hypothesis

namespace Date

/-- The numbers of a date are those of a day of the calendar. -/
theorem within_calendar (date : Date) :
    1 ≤ date.year ∧ 1 ≤ date.month ∧ date.month ≤ 12 ∧ 1 ≤ date.day ∧
      date.day ≤ daysInMonth date.year date.month := by
  have valid := date.valid
  simp only [isDate, Bool.and_eq_true, decide_eq_true_eq] at valid
  omega

/-- A date is before the start of the next month. -/
theorem daysBeforeMonth_add_day_le (date : Date) :
    daysBeforeMonth date.year date.month + date.day ≤
      daysBeforeMonth date.year (date.month + 1) := by
  rw [daysBeforeMonth_succ date.year date.within_calendar.2.1]
  exact Nat.add_le_add_left date.within_calendar.2.2.2.2 _

theorem ordinal_lt_of_year_lt
    {first second : Date}
    (earlier : first.year < second.year) :
    first.ordinal < second.ordinal := by
  obtain ⟨year, -, month, -, -⟩ := first.within_calendar
  have day := first.daysBeforeMonth_add_day_le
  have months : daysBeforeMonth first.year (first.month + 1) ≤ daysBeforeMonth first.year 13 :=
    daysBeforeMonth_mono first.year (Nat.succ_pos _) (Nat.succ_le_succ month)
  have years : daysBeforeYear (first.year + 1) ≤ daysBeforeYear second.year :=
    daysBeforeYear_mono (Nat.succ_pos _) earlier
  rw [daysBeforeYear_succ year] at years
  have after := second.within_calendar.2.2.2.1
  simp only [ordinal]
  omega

theorem ordinal_lt_of_month_lt
    {first second : Date}
    (same : first.year = second.year)
    (earlier : first.month < second.month) :
    first.ordinal < second.ordinal := by
  have day := first.daysBeforeMonth_add_day_le
  have months : daysBeforeMonth first.year (first.month + 1) ≤
      daysBeforeMonth first.year second.month :=
    daysBeforeMonth_mono first.year (Nat.succ_pos _) earlier
  have after := second.within_calendar.2.2.2.1
  simp only [ordinal, ← same]
  omega

/-- Different days have different positions. -/
theorem ordinal_injective : Function.Injective ordinal := by
  intro first second same
  have years : first.year = second.year := by
    rcases Nat.lt_trichotomy first.year second.year with earlier | equal | later
    · exact absurd same (Nat.ne_of_lt (ordinal_lt_of_year_lt earlier))
    · exact equal
    · exact absurd same (Nat.ne_of_gt (ordinal_lt_of_year_lt later))
  have months : first.month = second.month := by
    rcases Nat.lt_trichotomy first.month second.month with earlier | equal | later
    · exact absurd same (Nat.ne_of_lt (ordinal_lt_of_month_lt years earlier))
    · exact equal
    · exact absurd same (Nat.ne_of_gt (ordinal_lt_of_month_lt years.symm later))
  have days : first.day = second.day := by
    simp only [ordinal, years, months] at same
    omega
  cases first
  cases second
  cases years
  cases months
  cases days
  rfl

end Date

/-- The time so many microseconds after midnight is as many microseconds after it. -/
theorem Time.sinceMidnight_of_ofMicroseconds?
    {microseconds : Nat}
    {offset : Option Offset}
    {time : Time}
    (found : Time.ofMicroseconds? microseconds offset = some time) :
    time.sinceMidnight = microseconds ∧ time.offset = offset := by
  simp only [Time.ofMicroseconds?, Time.ofParts?] at found
  split at found
  · cases found
    refine ⟨?_, rfl⟩
    simp only [Time.sinceMidnight]
    omega
  · cases found

/-- The moment in universal time at a distance from the start of 1970 has this distance. -/
theorem DateTime.universal_of_ofEpochMicroseconds?
    {microseconds : Int}
    {moment : DateTime}
    (found : DateTime.ofEpochMicroseconds? microseconds (some Offset.universal) = some moment) :
    moment.time.offset = some Offset.universal ∧
      moment.universal - DateTime.epoch = microseconds := by
  unfold DateTime.ofEpochMicroseconds? at found
  extract_lets total at found
  split at found
  · cases found
  · rename_i after
    obtain ⟨date, dated, found⟩ := Option.bind_eq_some_iff.mp found
    obtain ⟨time, timed, found⟩ := Option.bind_eq_some_iff.mp found
    cases found
    have position := Date.ordinal_of_ofOrdinal? dated
    obtain ⟨clock, offset⟩ := Time.sinceMidnight_of_ofMicroseconds? timed
    refine ⟨offset, ?_⟩
    have none : Offset.universal.microseconds = 0 := rfl
    simp only [DateTime.universal, Time.universal, position, clock, offset, Option.elim_some, none]
    unfold microsecondsPerDay
    omega

end Calendar
end DataContract
