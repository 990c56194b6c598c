import DataContract.Calendar.Reading
import DataContract.Document.Problem

/-!
# Dates and times in documents

A date has a month and a day of one or two digits. A time may follow after the
letter T or blanks, with a fraction of a second and an offset. A line end after
the whole is passed by.
-/

namespace DataContract
namespace Document

open Calendar

/-- A time of day as it is written. -/
structure WrittenTime where
  /-- The hour. -/
  hour : Nat
  /-- The minute. -/
  minute : Nat
  /-- The second. -/
  second : Nat
  /-- The digits of the fraction of a second. -/
  fraction : List Char
  /-- The offset in minutes, if there is one. -/
  offset : Option Int

/-- A date with an optional time as they are written. -/
structure WrittenMoment where
  /-- The year. -/
  year : Nat
  /-- The month. -/
  month : Nat
  /-- The day. -/
  day : Nat
  /-- Whether the month and the day have two digits. -/
  full : Bool
  /-- The time, if there is one. -/
  time : Option WrittenTime

/-- The number that digits write. -/
def digitsNumber (digits : List Char) : Nat :=
  digits.foldl (fun total c => 10 * total + (c.toNat - 48)) 0

/-- One or two digits as a number, whether they are two, and what follows. -/
def takeShort? (chars : List Char) : Option ((Nat × Bool) × List Char) :=
  match chars with
  | first :: second :: rest =>
      if first.isDigit && second.isDigit then some ((digitsNumber [first, second], true), rest)
      else if first.isDigit then some ((digitsNumber [first], false), second :: rest)
      else none
  | [first] => if first.isDigit then some ((digitsNumber [first], false), []) else none
  | [] => none

/-- The offset that ends a time: none, the letter Z, or a sign, hours and
possibly minutes. -/
def readZone? (chars : List Char) : Option (Option Int) :=
  if chars.isEmpty then some none
  else
    match chars.dropWhile (fun c => c == ' ' || c == '\t') with
    | ['Z'] => some (some 0)
    | sign :: rest =>
        if sign == '+' || sign == '-' then do
          let ((hours, _), rest) ← takeShort? rest
          let minutes ←
            match rest with
            | [] => some 0
            | ':' :: rest => do
                let (minutes, rest) ← takeNumber? 2 rest
                if rest.isEmpty then some minutes else none
            | _ => none
          let total : Int := hours * 60 + minutes
          some (some (if sign == '-' then -total else total))
        else none
    | [] => none

/-- The time that ends a moment. -/
def readWrittenTime? (chars : List Char) : Option WrittenTime := do
  let ((hour, _), rest) ← takeShort? chars
  let rest ← takeSeparator? true ':' rest
  let (minute, rest) ← takeNumber? 2 rest
  let rest ← takeSeparator? true ':' rest
  let (second, rest) ← takeNumber? 2 rest
  let (fraction, rest) :=
    match rest with
    | '.' :: rest => (rest.takeWhile Char.isDigit, rest.dropWhile Char.isDigit)
    | _ => ([], rest)
  some ⟨hour, minute, second, fraction, ← readZone? rest⟩

/-- The text without a line end after it. -/
def dropLineEnd (chars : List Char) : List Char :=
  if chars.getLast? == some '\n' then chars.dropLast else chars

/-- The date and time that a text writes. -/
def readMoment? (chars : List Char) : Option WrittenMoment := do
  let (year, rest) ← takeNumber? 4 (dropLineEnd chars)
  let rest ← takeSeparator? true '-' rest
  let ((month, longMonth), rest) ← takeShort? rest
  let rest ← takeSeparator? true '-' rest
  let ((day, longDay), rest) ← takeShort? rest
  let full := longMonth && longDay
  match rest with
  | [] => some ⟨year, month, day, full, none⟩
  | c :: tail =>
      if c == 'T' || c == 't' then some ⟨year, month, day, full, ← readWrittenTime? tail⟩
      else if c == ' ' || c == '\t' then
        let tail := rest.dropWhile fun c => c == ' ' || c == '\t'
        some ⟨year, month, day, full, ← readWrittenTime? tail⟩
      else none

/-- Whether a plain scalar is taken for a date or a time. A date alone must have
a full month and day. -/
def isMoment (chars : List Char) : Bool :=
  match readMoment? chars with
  | some found => found.full || found.time.isSome
  | none => false

/-- Microseconds in a minute. -/
def microsecondsPerMinute : Int := 60000000

/-- The value that a written date and time stand for. -/
def WrittenMoment.value? (moment : WrittenMoment) : Option Value := do
  let date ← Date.ofParts? moment.year moment.month moment.day
  match moment.time with
  | none => some (.date date)
  | some time => do
      let kept := time.fraction.take 6
      let microsecond := digitsNumber kept * Nat.pow 10 (6 - kept.length)
      let offset ←
        match time.offset with
        | none => some none
        | some minutes => (Offset.ofMicroseconds? (minutes * microsecondsPerMinute)).map some
      let clock ← Time.ofParts? time.hour time.minute time.second microsecond offset
      some (.dateTime ⟨date, clock⟩)

end Document
end DataContract
