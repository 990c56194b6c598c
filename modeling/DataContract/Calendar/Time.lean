import DataContract.Calendar.Date

/-!
# Times of day

A time of day is exact to the microsecond and may know its distance from
universal time. A date and time together name a moment if that distance is
known; otherwise they are a local reading.
-/

namespace DataContract
namespace Calendar

/-- The number of microseconds of a day. -/
def microsecondsPerDay : Nat := 86400000000

/-- Whether four numbers name a time of day. -/
def isTimeOfDay (hour minute second microsecond : Nat) : Bool :=
  hour < 24 && minute < 60 && second < 60 && microsecond < 1000000

/-- The distance of a local time from universal time, in microseconds and less
than a day. -/
structure Offset where
  /-- The microseconds by which the local time is ahead. -/
  microseconds : Int
  /-- They are less than a day. -/
  valid : microseconds.natAbs < microsecondsPerDay
  deriving DecidableEq, Repr

/-- The offset of so many microseconds, if it is less than a day. -/
def Offset.ofMicroseconds? (microseconds : Int) : Option Offset :=
  if valid : microseconds.natAbs < microsecondsPerDay then some ⟨microseconds, valid⟩ else none

/-- Universal time itself. -/
def Offset.universal : Offset := ⟨0, by decide⟩

/-- A time of day. -/
structure Time where
  /-- The hour of the day. -/
  hour : Nat
  /-- The minute of the hour. -/
  minute : Nat
  /-- The second of the minute. -/
  second : Nat
  /-- The microsecond of the second. -/
  microsecond : Nat
  /-- The distance from universal time, unless the time is that of no particular place. -/
  offset : Option Offset
  /-- There is such a time in a day. -/
  valid : isTimeOfDay hour minute second microsecond = true
  deriving DecidableEq, Repr

namespace Time

instance : Inhabited Time := ⟨⟨0, 0, 0, 0, none, by decide⟩⟩

/-- The time with the given numbers, if there is one. -/
def ofParts?
    (hour minute second microsecond : Nat)
    (offset : Option Offset) : Option Time :=
  if valid : isTimeOfDay hour minute second microsecond = true then
    some ⟨hour, minute, second, microsecond, offset, valid⟩
  else none

/-- Microseconds since midnight. -/
def sinceMidnight (time : Time) : Nat :=
  ((time.hour * 60 + time.minute) * 60 + time.second) * 1000000 + time.microsecond

/-- The time that is so many microseconds after midnight. -/
def ofMicroseconds?
    (microseconds : Nat)
    (offset : Option Offset) : Option Time :=
  let seconds := microseconds / 1000000
  ofParts? (seconds / 3600) (seconds / 60 % 60) (seconds % 60) (microseconds % 1000000) offset

/-- Microseconds since midnight in universal time, the local time being taken
for universal if its offset is unknown. -/
def universal (time : Time) : Int :=
  (time.sinceMidnight : Int) - (time.offset.elim 0 (·.microseconds))

/-- Seconds since midnight in universal time, of which fractions of the offset
are left out. -/
def universalSeconds (time : Time) : Int :=
  (time.sinceMidnight / 1000000 : Nat) -
    (time.offset.elim 0 fun offset => offset.microseconds / 1000000)

/-- Times are ordered if both offsets are known or both are unknown. With two
different offsets the seconds come first and then the microseconds of the local
times, so that fractions in the offsets do not count. -/
def compare? (first second : Time) : Option Ordering :=
  if first.offset.isSome = second.offset.isSome then
    some
      (if first.offset = second.offset then
        Ord.compare first.sinceMidnight second.sinceMidnight
      else
        match Ord.compare first.universalSeconds second.universalSeconds with
        | .eq => Ord.compare first.microsecond second.microsecond
        | other => other)
  else none

end Time

/-- A date with a time of day. -/
structure DateTime where
  /-- The day. -/
  date : Date
  /-- The time on that day. -/
  time : Time
  deriving DecidableEq, Repr, Inhabited

namespace DateTime

/-- Microseconds from the start of the calendar, in universal time if the
offset is known. -/
def universal (moment : DateTime) : Int :=
  (moment.date.ordinal : Int) * microsecondsPerDay + moment.time.universal

/-- Moments are ordered if both offsets are known or both are unknown. -/
def compare? (first second : DateTime) : Option Ordering :=
  if first.time.offset.isSome = second.time.offset.isSome then
    some (Ord.compare first.universal second.universal)
  else none

/-- The position of the first of January 1970. -/
def epochOrdinal : Nat := 719163

/-- Microseconds between the start of the calendar and the first of January
1970. -/
def epoch : Int := (epochOrdinal : Int) * microsecondsPerDay

/-- The reading so many microseconds after the first of January 1970. -/
def ofEpochMicroseconds?
    (microseconds : Int)
    (offset : Option Offset) : Option DateTime := do
  let total := microseconds + epoch
  if total < 0 then none
  else
    let date ← Date.ofOrdinal? (total.toNat / microsecondsPerDay)
    let time ← Time.ofMicroseconds? (total.toNat % microsecondsPerDay) offset
    some ⟨date, time⟩

end DateTime

/-- The text of a fraction of a second, empty if there is none. -/
def fractionText (microsecond : Nat) : String :=
  if microsecond = 0 then "" else "." ++ padded 6 microsecond

/-- The text of an offset: sign, hours and minutes, then seconds and a fraction
where they are not zero. -/
def Offset.text (offset : Offset) : String :=
  let magnitude := offset.microseconds.natAbs
  let seconds := magnitude / 1000000
  let rest :=
    if seconds % 60 = 0 && magnitude % 1000000 = 0 then ""
    else ":" ++ padded 2 (seconds % 60) ++ fractionText (magnitude % 1000000)
  (if offset.microseconds < 0 then "-" else "+") ++ padded 2 (seconds / 3600) ++ ":" ++
    padded 2 (seconds / 60 % 60) ++ rest

/-- The text `hour:minute:second`, then a fraction and an offset if present. -/
def Time.text (time : Time) : String :=
  padded 2 time.hour ++ ":" ++ padded 2 time.minute ++ ":" ++ padded 2 time.second ++
    fractionText time.microsecond ++ time.offset.elim "" Offset.text

/-- The texts of the date and of the time with a separator between them. -/
def DateTime.text
    (moment : DateTime)
    (separator : String) : String :=
  moment.date.text ++ separator ++ moment.time.text

end Calendar
end DataContract
