import DataContract.Casting.Moments
import DataContract.Schema.Basic

/-!
# The default caster

Conversions between values of two tags. A value converts to its own tag
unchanged; between two tags there is a conversion or a fault.
-/

namespace DataContract

open Calendar

/-- The conversion from one tag to another, if there is one. -/
def conversion? : Tag → Tag → Option (Value → Entries → Attempt Value)
  | .string, .integer => some fun value _ => value.toWhole.map .int
  | .string, .float => some fun value _ => value.toFloat.map .float
  | .string, .decimal => some fun value _ => value.toDecimal.map .decimal
  | .string, .boolean => some fun value _ => value.toTruth.map .bool
  | .string, .date => some fun value _ => (value.readText Date.read?).map .date
  | .string, .dateTime => some fun value _ => (value.readText DateTime.read?).map .dateTime
  | .string, .time => some fun value _ => (value.readText Time.read?).map .time
  | .integer, .string => some fun value _ => value.write.map .text
  | .integer, .float => some fun value _ => value.toFloat.map .float
  | .integer, .decimal => some fun value _ => value.toDecimal.map .decimal
  | .integer, .dateTime => some fun value options => (value.toMoment options).map .dateTime
  | .float, .string => some fun value _ => value.write.map .text
  | .float, .integer => some fun value _ => value.toWhole.map .int
  | .decimal, .string => some fun value _ => value.write.map .text
  | .date, .string => some fun value _ => value.toStandardText.map .text
  | .dateTime, .string => some fun value _ => value.toStandardText.map .text
  | .dateTime, .integer => some fun value options => (value.toCount options).map .int
  | .dateTime, .date => some fun value _ => value.toDay.map .date
  | .time, .string => some fun value _ => value.toStandardText.map .text
  | _, _ => none

/-- The conversion between the tags that two values name. Values that cannot
be looked up are not made for it. -/
def findConversion
    (source target : Value) : Attempt (Option (Value → Entries → Attempt Value)) :=
  if !(source.isKey && target.isKey) then .error .wrongKind
  else
    match source, target with
    | .text a, .text b =>
        match Tag.ofName? a, Tag.ofName? b with
        | some a, some b => .ok (conversion? a b)
        | _, _ => .ok none
    | _, _ => .ok none

/-- Whether the default caster converts from one tag to another. -/
def hasConversion (source target : Value) : Attempt Bool := do
  if ← source.equals target then .ok true
  else (findConversion source target).map Option.isSome

/-- Convert a value from one tag to another. -/
def convert
    (source target value : Value)
    (options : Entries) : Attempt Value := do
  if ← source.equals target then .ok value
  else
    match ← findConversion source target with
    | some conversion => conversion value options
    | none => refuse (.noConversion source target)

/-- The default caster. -/
def Caster.default : Caster where
  name := "default"
  run := convert

end DataContract
