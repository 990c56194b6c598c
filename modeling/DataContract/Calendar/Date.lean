/-!
# Dates

Dates of the Gregorian calendar extended to the years 1 to 9999, the count of
days since the first of them, and the weeks of the year: a week belongs to the
year that holds its Thursday.
-/

namespace DataContract
namespace Calendar

/-- Whether a year has a day more. -/
def isLeap (year : Nat) : Bool :=
  year % 4 == 0 && (year % 100 != 0 || year % 400 == 0)

/-- The number of days of a month. -/
def daysInMonth (year month : Nat) : Nat :=
  if month = 2 then (if isLeap year then 29 else 28)
  else if month = 4 || month = 6 || month = 9 || month = 11 then 30
  else 31

/-- Whether three numbers name a day of the calendar. -/
def isDate (year month day : Nat) : Bool :=
  1 ≤ year && year ≤ 9999 && 1 ≤ month && month ≤ 12 &&
    1 ≤ day && day ≤ daysInMonth year month

/-- A day of the calendar. -/
structure Date where
  /-- The year. -/
  year : Nat
  /-- The month, from one on. -/
  month : Nat
  /-- The day of the month, from one on. -/
  day : Nat
  /-- The month has that day. -/
  valid : isDate year month day = true
  deriving DecidableEq, Repr

namespace Date

instance : Inhabited Date := ⟨⟨1, 1, 1, by decide⟩⟩

/-- The day with the given numbers, if there is one. -/
def ofParts? (year month day : Nat) : Option Date :=
  if valid : isDate year month day = true then some ⟨year, month, day, valid⟩ else none

/-- The number of days before a year. -/
def daysBeforeYear (year : Nat) : Nat :=
  let earlier := year - 1
  earlier * 365 + earlier / 4 - earlier / 100 + earlier / 400

/-- The number of days of a year before a month. -/
def daysBeforeMonth (year month : Nat) : Nat :=
  (List.range (month - 1)).foldl (fun total index => total + daysInMonth year (index + 1)) 0

/-- The position of a day, the first day of the year 1 having position 1. -/
def ordinal (date : Date) : Nat :=
  daysBeforeYear date.year + daysBeforeMonth date.year date.month + date.day

/-- The year in which a position lies, found from a first guess. -/
def yearOf (position : Nat) : Nat :=
  let guess := (position * 400) / 146097 + 1
  if position ≤ daysBeforeYear guess then guess - 1
  else if daysBeforeYear (guess + 1) < position then guess + 1
  else guess

/-- The month and the day at a distance of `rest` days from the start of a
month. The first argument bounds the number of months to pass. -/
def monthAndDay : Nat → Nat → Nat → Nat → Nat × Nat
  | 0, _, month, rest => (month, rest + 1)
  | bound + 1, year, month, rest =>
      let length := daysInMonth year month
      if rest < length then (month, rest + 1)
      else monthAndDay bound year (month + 1) (rest - length)

/-- The day at a position, if it is within the calendar. -/
def ofOrdinal? (position : Nat) : Option Date :=
  if position = 0 then none
  else
    let year := yearOf position
    let parts := monthAndDay 11 year 1 (position - daysBeforeYear year - 1)
    ofParts? year parts.1 parts.2

/-- The number of weeks of a year: 53 if it starts on a Thursday, or on a
Wednesday and has a day more, else 52. -/
def weeksInYear (year : Nat) : Nat :=
  let first := (daysBeforeYear year + 1) % 7
  if first = 4 || (first = 3 && isLeap year) then 53 else 52

/-- The position before the first day of week 1 of a year. -/
def weekStart (year : Nat) : Int :=
  let first : Int := daysBeforeYear year + 1
  let weekday := (first - 1) % 7
  if 3 < weekday then first + (7 - weekday) - 1 else first - weekday - 1

/-- The day `day` (1 for Monday to 7) of a week of a year. -/
def ofWeek? (year week day : Nat) : Option Date :=
  if 1 ≤ year && year ≤ 9999 && 1 ≤ week && week ≤ weeksInYear year && 1 ≤ day && day ≤ 7 then
    let position := weekStart year + ((week : Int) - 1) * 7 + day
    if 0 < position then ofOrdinal? position.toNat else none
  else none

/-- Days in the order of the calendar. -/
def compare (first second : Date) : Ordering :=
  Ord.compare first.ordinal second.ordinal

end Date

/-- A number in decimal with at least `width` digits. -/
def padded (width n : Nat) : String :=
  let digits := toString n
  String.ofList (List.replicate (width - digits.length) '0') ++ digits

/-- The text `year-month-day`. -/
def Date.text (date : Date) : String :=
  padded 4 date.year ++ "-" ++ padded 2 date.month ++ "-" ++ padded 2 date.day

end Calendar
end DataContract
