import DataContract.Calendar.Time

/-!
# Reading dates and times

Dates are read in the calendar form `2024-01-05` and in the week form
`2024-W01-5`, each with or without hyphens, and the week form also without its
day. Times have hours, minutes and seconds, with colons or without, a fraction
of a second after a point or a comma, and an offset that is `Z` or a signed
time. A date and a time may be separated by any single character. Lengths are
counted in bytes of the encoded text, in which a NUL stands for the end.
-/

namespace DataContract
namespace Calendar

/-- The number of bytes of a text. -/
def byteCount (chars : List Char) : Nat :=
  chars.foldl (fun total c => total + c.utf8Size) 0

/-- Whether a text has ended. -/
def isEnd : List Char → Bool
  | [] => true
  | c :: _ => c == Char.ofNat 0

/-- Exactly `count` digits from 0 to 9 as a number, and what follows. -/
def takeNumber? (count : Nat) (chars : List Char) : Option (Nat × List Char) :=
  let digits := chars.take count
  if digits.length = count && digits.all Char.isDigit then
    some (digits.foldl (fun total c => 10 * total + (c.toNat - 48)) 0, chars.drop count)
  else none

/-- A separator that must be present exactly if `expected`. -/
def takeSeparator?
    (expected : Bool)
    (separator : Char)
    (chars : List Char) : Option (List Char) :=
  if expected then
    match chars with
    | c :: rest => if c == separator then some rest else none
    | [] => none
  else some chars

/-- The day of a week date, Monday if the text ends before it. What follows
the day is not looked at. -/
def readWeekDate?
    (year : Nat)
    (hyphens : Bool)
    (chars : List Char) : Option Date := do
  let (week, rest) ← takeNumber? 2 chars
  if rest.isEmpty then Date.ofWeek? year week 1
  else
    let rest ← takeSeparator? hyphens '-' rest
    let (day, _) ← takeNumber? 1 rest
    Date.ofWeek? year week day

/-- The date at the start of a text. What follows it is not looked at. -/
def readDate? (chars : List Char) : Option Date := do
  let (year, rest) ← takeNumber? 4 chars
  let hyphens := rest.head? == some '-'
  let rest := if hyphens then rest.drop 1 else rest
  match rest with
  | 'W' :: week => readWeekDate? year hyphens week
  | _ =>
      let (month, rest) ← takeNumber? 2 rest
      let rest ← takeSeparator? hyphens '-' rest
      let (day, _) ← takeNumber? 2 rest
      Date.ofParts? year month day

/-- The date written by a text, which has 7, 8 or 10 bytes. -/
def Date.read? (chars : List Char) : Option Date :=
  let size := byteCount chars
  if size = 7 || size = 8 || size = 10 then readDate? chars else none

/-- Hours, minutes, seconds and microseconds as they are written. -/
structure Clock where
  /-- The hours. -/
  hour : Nat
  /-- The minutes. -/
  minute : Nat
  /-- The seconds. -/
  second : Nat
  /-- The microseconds. -/
  microsecond : Nat

/-- A fraction of a second, and what follows it. Digits after the sixth are
skipped. -/
def readFraction? (chars : List Char) : Option (Nat × List Char) := do
  let width := min 6 chars.length
  let (value, rest) ← takeNumber? width chars
  if width = 0 then none
  else some (value * Nat.pow 10 (6 - width), rest.dropWhile Char.isDigit)

/-- What may follow a part of a clock. -/
inductive ClockTail
  | finished (rest : List Char)
  | fraction (rest : List Char)
  | part (rest : List Char)

/-- What follows a part of a clock whose parts are separated by colons or not at
all. A single byte that is left over belongs to no part. -/
def clockTail?
    (colons : Bool)
    (chars : List Char) : Option ClockTail :=
  match chars with
  | [] => some (.finished [])
  | c :: rest =>
      if rest.isEmpty && c.utf8Size = 1 then some (.finished chars)
      else if colons && c == ':' then some (.part rest)
      else if c == '.' || c == ',' then some (.fraction rest)
      else if colons then none
      else some (.part chars)

/-- A clock without a fraction that is completed by one. -/
def completeClock?
    (clock : Clock)
    (chars : List Char) : Option (Clock × List Char) :=
  (readFraction? chars).map fun (microsecond, rest) => ({ clock with microsecond }, rest)

/-- The seconds of a clock and a fraction after them, and what is left. -/
def readSeconds?
    (hour minute : Nat)
    (colons : Bool)
    (chars : List Char) : Option (Clock × List Char) := do
  let (second, rest) ← takeNumber? 2 chars
  match ← clockTail? colons rest with
  | .finished rest => some (⟨hour, minute, second, 0⟩, rest)
  | .fraction rest | .part rest => completeClock? ⟨hour, minute, second, 0⟩ rest

/-- The minutes of a clock and what follows them, and what is left. -/
def readMinutes?
    (hour : Nat)
    (colons : Bool)
    (chars : List Char) : Option (Clock × List Char) := do
  let (minute, rest) ← takeNumber? 2 chars
  match ← clockTail? colons rest with
  | .finished rest => some (⟨hour, minute, 0, 0⟩, rest)
  | .fraction rest => completeClock? ⟨hour, minute, 0, 0⟩ rest
  | .part rest => readSeconds? hour minute colons rest

/-- A time of day without an offset, and what is left. A fraction after the
hours or the minutes is one of a second too. -/
def readClock? (chars : List Char) : Option (Clock × List Char) := do
  let (hour, rest) ← takeNumber? 2 chars
  let colons := rest.head? == some ':'
  match ← clockTail? colons rest with
  | .finished rest => some (⟨hour, 0, 0, 0⟩, rest)
  | .fraction rest => completeClock? ⟨hour, 0, 0, 0⟩ rest
  | .part rest => readMinutes? hour colons rest

/-- Whether a character starts an offset. -/
def startsOffset (c : Char) : Bool :=
  c == '+' || c == '-' || c == 'Z'

/-- The offset that a text writes. Whole seconds of zero mean universal time. -/
def readOffset? (chars : List Char) : Option Offset :=
  match chars with
  | [] => none
  | sign :: rest =>
      if sign == 'Z' then
        if isEnd rest then some Offset.universal else none
      else do
        let (clock, rest) ← readClock? rest
        let seconds := clock.hour * 3600 + clock.minute * 60 + clock.second
        if !isEnd rest then none
        else if seconds = 0 then some Offset.universal
        else
          let magnitude : Int := seconds * 1000000 + clock.microsecond
          Offset.ofMicroseconds? (if sign == '-' then -magnitude else magnitude)

/-- A time of day with an optional offset. Before an offset, what the clock
leaves over is passed by. -/
def readTime? (chars : List Char) : Option Time := do
  let (clock, rest) ← readClock? (chars.takeWhile (!startsOffset ·))
  let ofOffset := Time.ofParts? clock.hour clock.minute clock.second clock.microsecond
  match chars.dropWhile (!startsOffset ·) with
  | [] => if isEnd rest then ofOffset none else none
  | offset => ofOffset (some (← readOffset? offset))

/-- The time written by a whole text, which may start with `T`. -/
def Time.read? (chars : List Char) : Option Time :=
  match chars with
  | 'T' :: rest => readTime? rest
  | _ => readTime? chars

/-- The length of a week date without hyphens at the start of a text: with an
even number of digits after the letter the last of them is the day. -/
def shortWeekLength (chars : List Char) : Nat :=
  let stop := 7 + ((chars.drop 7).takeWhile Char.isDigit).length
  if stop < 9 then stop
  else if stop % 2 = 0 then 7
  else 8

/-- The length of the date at the start of a text that holds a date and a
time. -/
def dateLength? (chars : List Char) : Option Nat :=
  if byteCount chars = 7 then some 7
  else if chars[4]? == some '-' then
    if chars[5]? == some 'W' then
      if chars[8]? == some '-' then
        if chars.length = 9 then none
        else if chars[10]?.any Char.isDigit then some 8
        else some 10
      else some 8
    else some 10
  else if chars[4]? == some 'W' then some (shortWeekLength chars)
  else some 8

/-- The date and time written by a whole text; midnight if the text ends after
the date. -/
def DateTime.read? (chars : List Char) : Option DateTime := do
  let length ← dateLength? chars
  let date ← readDate? (chars.take length)
  match chars.drop length with
  | [] => some ⟨date, default⟩
  | _ :: time => some ⟨date, ← readTime? time⟩

end Calendar
end DataContract
