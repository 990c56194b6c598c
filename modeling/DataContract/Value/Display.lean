import DataContract.Number.Reading
import DataContract.Text.Quoted
import DataContract.Value.Basic

/-!
# Displayed values

Two texts for every value: the display, which tells values of different kinds
apart and quotes texts, and the plain text, which is the content itself where
the value has one.
-/

namespace DataContract

open Number Calendar Text

/-- Numbers separated by a comma and a space. -/
def commaSeparated (numbers : List Nat) : String :=
  ", ".intercalate (numbers.map toString)

namespace Calendar

/-- The display of a length of time below a day in days, seconds and
microseconds, of which only the days may be negative. -/
def displayDuration (microseconds : Int) : String :=
  let days := microseconds / microsecondsPerDay
  let rest := microseconds % microsecondsPerDay
  let part := fun (name : String) (n : Int) => if n = 0 then [] else [name ++ toString n]
  "datetime.timedelta(" ++
    ", ".intercalate
      (part "days=" days ++ part "seconds=" (rest / 1000000) ++
        part "microseconds=" (rest % 1000000)) ++ ")"

/-- The display of an offset. -/
def Offset.display (offset : Offset) : String :=
  if offset.microseconds = 0 then "datetime.timezone.utc"
  else "datetime.timezone(" ++ displayDuration offset.microseconds ++ ")"

/-- The displayed numbers of a time: hours and minutes, and seconds and
microseconds up to the last that is not zero. -/
def Time.displayParts (time : Time) : List Nat :=
  time.hour :: time.minute ::
    (if time.microsecond != 0 then [time.second, time.microsecond]
      else if time.second != 0 then [time.second]
      else [])

/-- The displayed offset of a time, if it has one. -/
def Time.displayOffset (time : Time) : String :=
  time.offset.elim "" fun offset => ", tzinfo=" ++ offset.display

/-- The display of a day. -/
def Date.display (day : Date) : String :=
  "datetime.date(" ++ commaSeparated [day.year, day.month, day.day] ++ ")"

/-- The display of a time. -/
def Time.display (time : Time) : String :=
  "datetime.time(" ++ commaSeparated time.displayParts ++ time.displayOffset ++ ")"

/-- The display of a date and time. -/
def DateTime.display (moment : DateTime) : String :=
  "datetime.datetime(" ++
    commaSeparated
      ([moment.date.year, moment.date.month, moment.date.day] ++ moment.time.displayParts) ++
    moment.time.displayOffset ++ ")"

end Calendar

/-- The display of a truth value. -/
def displayBool (flag : Bool) : String :=
  if flag then "True" else "False"

/-- The display of a scalar. -/
def Scalar.display : Scalar → String
  | .null => "None"
  | .bool flag => displayBool flag
  | .int number => toString number
  | .float number => number.text
  | .text content => quoted content
  | .bytes content => quotedBytes content
  | .date day => day.display
  | .dateTime moment => moment.display
  | .time clock => clock.display
  | .decimal number => "Decimal('" ++ number.text ++ "')"

/-- The plain text of a scalar. -/
def Scalar.plain : Scalar → String
  | .text content => content
  | .date day => day.text
  | .dateTime moment => moment.text " "
  | .time clock => clock.text
  | .decimal number => number.text
  | other => other.display

/-- The fields of a record with their displays, functions left out. -/
def shownFields
    (form : RecordForm)
    (displays : List String) : List String :=
  ((form.fields.zip displays).filter fun field =>
    !RecordForm.functionFields.contains field.1).map fun field => field.1 ++ "=" ++ field.2

/-- The least whole number with more digits than a text may have. -/
def wholeTextLimit : Nat := Nat.pow 10 maxWholeDigits

namespace Value

mutual

/-- Whether a value has a text: whole numbers with too many digits have none. -/
def isWritable : Value → Bool
  | .int number => number.natAbs < wholeTextLimit
  | .member _ _ content => isWritable content
  | .list items => areWritable items
  | .tuple items => areWritable items
  | .map entries => areWritableEntries entries
  | .record _ parts => areWritable parts
  | _ => true

/-- Whether all items have a text. -/
def areWritable : List Value → Bool
  | [] => true
  | item :: rest => isWritable item && areWritable rest

/-- Whether all keys and values have a text. -/
def areWritableEntries : List (Value × Value) → Bool
  | [] => true
  | (key, value) :: rest => isWritable key && isWritable value && areWritableEntries rest

end

mutual

/-- The display of a value. -/
def display : Value → String
  | .scalar content => content.display
  | .member enumeration name content =>
      "<" ++ enumeration ++ "." ++ name ++ ": " ++ display content ++ ">"
  | .list items => "[" ++ ", ".intercalate (displayItems items) ++ "]"
  | .tuple items =>
      match displayItems items with
      | [item] => "(" ++ item ++ ",)"
      | parts => "(" ++ ", ".intercalate parts ++ ")"
  | .map entries => "\x7b" ++ ", ".intercalate (displayEntries entries) ++ "\x7d"
  | .record form parts =>
      match form, parts with
      | .custom, .text tag :: _ => "<" ++ tag ++ ">"
      | .sign, .text sign :: _ => sign
      | _, _ =>
          form.name ++ "(" ++ ", ".intercalate (shownFields form (displayItems parts)) ++ ")"
  | .handle label => label

/-- The displays of several values. -/
def displayItems : List Value → List String
  | [] => []
  | x :: xs => display x :: displayItems xs

/-- The displays of several entries. -/
def displayEntries : List (Value × Value) → List String
  | [] => []
  | (key, value) :: rest => (display key ++ ": " ++ display value) :: displayEntries rest

end

/-- Whether a value has a plain text. The plain text of a member of an enumeration does not
show its content. -/
def hasPlain : Value → Bool
  | .member .. => true
  | value => value.isWritable

/-- The plain text of a value. -/
def plain : Value → String
  | .scalar content => content.plain
  | .member enumeration name _ => enumeration ++ "." ++ name
  | .record form parts =>
      if form.fields.isEmpty then display (.record form parts)
      else " ".intercalate (shownFields form (displayItems parts))
  | other => other.display

end Value
end DataContract
