import DataContract.Calendar.Reading
import DataContract.Casting.Numbers

/-!
# Conversions of dates and times

Dates and times convert from and to texts, and moments convert from and to
counts of seconds, or of fractions of them, since the start of the year 1970.
Counts pass through floating-point numbers in both directions: a division by
the unit and a rounding to the nearest microsecond on the way in, a
multiplication by the unit and a cut to the whole part on the way out.
-/

namespace DataContract

open Number Calendar

/-- A unit of time counts. -/
inductive TimeUnit
  | second
  | millisecond
  | microsecond
  deriving DecidableEq, Repr

namespace TimeUnit

/-- The name of a unit. -/
def name : TimeUnit → String
  | .second => "second"
  | .millisecond => "millisecond"
  | .microsecond => "microsecond"

/-- The power of ten that is the number of units in a second. -/
def powerOfTen : TimeUnit → Nat
  | .second => 0
  | .millisecond => 3
  | .microsecond => 6

/-- The number of units in a second. -/
def perSecond (unit : TimeUnit) : Nat :=
  Nat.pow 10 unit.powerOfTen

/-- The unit that the options of a cast name, seconds if they name none. -/
def ofOptions (options : Entries) : Attempt TimeUnit :=
  match options.get? (.text "unit") with
  | none => .ok .second
  | some unit =>
      if !unit.isKey then .error .wrongKind
      else
        match [second, millisecond, microsecond].find? fun known => unit == .text known.name with
        | some known => .ok known
        | none => refuse (.unknownTimeUnit unit)

end TimeUnit

/-- The greatest count of seconds that fits the clock's counter. -/
def maxCounter : Int := 9223372036854775807

/-- The last second of the last year that the clock can name. -/
def lastClockSecond : Int := 67768036191676799

/-- The first second of the first year that the clock can name. -/
def firstClockSecond : Int := -67768040609740800

/-- The microseconds since 1970 of a finite count of seconds: the whole seconds
and their fraction, which is multiplied and rounded on its own. -/
def microsecondsOf (num : Int) (den : Nat) : Int :=
  let seconds := num.tdiv den
  let rest := num - seconds * den
  let micros :=
    match (Binary64.ofFraction (rest * 1000000) den).toFraction? with
    | some (n, d) =>
        let magnitude : Int := roundHalfEven n.natAbs d
        if n < 0 then -magnitude else magnitude
    | none => 0
  seconds * 1000000 + micros

/-- The moment in universal time that is a count of seconds after 1970. -/
def momentOfSeconds (count : Binary64) : Attempt DateTime :=
  match count with
  | .nan _ => .error .badContent
  | .infinite _ => .error .overflow
  | .finite .. =>
      match count.toFraction? with
      | none => .error .badContent
      | some (num, den) =>
          let micros := microsecondsOf num den
          let seconds := micros / 1000000
          if maxCounter < seconds || seconds < -maxCounter - 1 then .error .overflow
          else if lastClockSecond < seconds || seconds < firstClockSecond then .error .clockRange
          else
            Value.readOr .badContent
              (DateTime.ofEpochMicroseconds? micros (some Offset.universal))

/-- A count of units as seconds. -/
def secondsOfCount (value : Value) (unit : TimeUnit) : Attempt Binary64 :=
  match value with
  | .float number => .ok (number.divNat unit.perSecond)
  | .decimal number =>
      if number.isSignaling then .error .undefinedDecimal
      else
        match number with
        | .finite _ coefficient exponent =>
            match Decimal.settle? coefficient (exponent - unit.powerOfTen) with
            | some _ => .error .wrongKind
            | none => .error .decimalOverflow
        | _ => .error .wrongKind
  | _ =>
      match value.whole? with
      | some count =>
          match Binary64.ofFraction count unit.perSecond with
          | .infinite _ => .error .overflow
          | seconds => .ok seconds
      | none => .error .wrongKind

/-- The seconds from 1970 to a moment. A local reading is taken for universal
time; on the first day of the calendar it has no count, because its count
cannot be told without the day before. -/
def secondsOfMoment (moment : DateTime) : Attempt Binary64 :=
  match moment.time.offset with
  | some _ => .ok (Binary64.ofFraction (moment.universal - DateTime.epoch) 1000000)
  | none =>
      if moment.date.ordinal = 1 then .error .badContent
      else
        let micros := moment.universal - DateTime.epoch
        .ok
          (Binary64.add (Binary64.ofInt (micros / 1000000))
            (Binary64.ofFraction (micros % 1000000) 1000000))

namespace Value

/-- The moment that a count of units stands for. -/
def toMoment (value : Value) (options : Entries) : Attempt DateTime := do
  let unit ← TimeUnit.ofOptions options
  momentOfSeconds (← secondsOfCount value unit)

/-- The count of units that a moment stands for. -/
def toCount (value : Value) (options : Entries) : Attempt Int :=
  match value with
  | .dateTime moment => do
      let seconds ← secondsOfMoment moment
      let unit ← TimeUnit.ofOptions options
      toWhole (.float (seconds.mul (Binary64.ofInt unit.perSecond)))
  | _ => .error .missingOperation

/-- The standard text of a date or a time. -/
def toStandardText : Value → Attempt String
  | .date day => .ok day.text
  | .dateTime moment => .ok (moment.text "T")
  | .time clock => .ok clock.text
  | _ => .error .missingOperation

/-- The day of a date and time. -/
def toDay : Value → Attempt Date
  | .dateTime moment => .ok moment.date
  | _ => .error .missingOperation

/-- What a reader finds in a text. -/
def readText {α : Type} (read? : List Char → Option α) : Value → Attempt α
  | .text content => readOr .badContent (read? content.toList)
  | _ => .error .wrongKind

end Value
end DataContract
