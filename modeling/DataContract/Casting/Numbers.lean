import DataContract.Value.Equality

/-!
# Conversions between numbers and texts

Each conversion takes any value: numbers convert to numbers, texts and byte
strings are read, and the other kinds are not made for it.
-/

namespace DataContract

open Number Calendar Text

namespace Value

/-- A byte string as characters for the readers of numbers. Bytes outside the
ASCII range become a character that no number holds. -/
def asciiChars (content : List UInt8) : List Char :=
  content.map fun byte => if byte < 128 then Char.ofNat byte.toNat else '?'

/-- The answer of a reader, which refuses the text by `fault`. -/
def readOr {α : Type} (fault : Fault) : Option α → Attempt α
  | some answer => .ok answer
  | none => .error fault

/-- The whole part of a number, or the whole number that a text writes. -/
def toWhole : Value → Attempt Int
  | .text content => readOr .badContent (readWhole? content.toList)
  | .bytes content => readOr .badContent (readWhole? (asciiChars content))
  | .bool flag => .ok flag.toNat
  | .int number => .ok number
  | .float number =>
      match number with
      | .nan _ => .error .badContent
      | .infinite _ => .error .overflow
      | finite => readOr .badContent finite.truncate?
  | .decimal number =>
      match number with
      | .nan .. => .error .badContent
      | .infinite _ => .error .overflow
      | .finite negative coefficient exponent =>
          .ok (Decimal.truncate negative coefficient exponent)
  | _ => .error .wrongKind

/-- The floating-point number nearest to a whole number, which must not be too
great. -/
def wholeToFloat (number : Int) : Attempt Binary64 :=
  match Binary64.ofInt number with
  | .infinite _ => .error .overflow
  | finite => .ok finite

/-- The floating-point number nearest to a number, or the one that a text
writes. -/
def toFloat : Value → Attempt Binary64
  | .text content => readOr .badContent (Binary64.read? content.toList)
  | .bytes content => readOr .badContent (Binary64.read? (asciiChars content))
  | .bool flag => wholeToFloat flag.toNat
  | .int number => wholeToFloat number
  | .float number => .ok number
  | .decimal number =>
      if number.isSignaling then .error .badContent else .ok number.toBinary64
  | _ => .error .wrongKind

/-- The digits of a coefficient that is given as a sequence. -/
def coefficientDigits (digits : Value) : Attempt (List Nat) :=
  match digits with
  | .list items => digitsOf items
  | .tuple items => digitsOf items
  | _ => .error .badContent
where
  /-- Each item is a whole number from 0 to 9. -/
  digitsOf (items : List Value) : Attempt (List Nat) :=
    items.mapM fun item =>
      match item.whole? with
      | some digit => if 0 ≤ digit && digit < 10 then .ok digit.toNat else .error .badContent
      | none => .error .badContent

/-- The decimal with a sign, digits, and an exponent or the letter of a special
number. -/
def decimalOfParts (sign digits exponent : Value) : Attempt Decimal := do
  let negative ←
    match sign.whole? with
    | some 0 => .ok false
    | some 1 => .ok true
    | _ => .error .badContent
  match exponent with
  | .text "F" => .ok (.infinite negative)
  | .text "n" => .ok (.nan false negative (digitsValue (← coefficientDigits digits)) 0)
  | .text "N" => .ok (.nan true negative (digitsValue (← coefficientDigits digits)) 0)
  | _ =>
      match exponent.whole? with
      | none => .error .badContent
      | some power => do
          let coefficient := digitsValue (← coefficientDigits digits)
          if Decimal.inRange coefficient power then .ok (.finite negative coefficient power)
          else .error .undefinedDecimal

/-- The exact decimal of a number, the decimal that a text writes, or the one
with given parts. -/
def toDecimal : Value → Attempt Decimal
  | .text content => readOr .undefinedDecimal (Decimal.read? content.toList)
  | .bool flag => .ok (.ofInt flag.toNat)
  | .int number => .ok (.ofInt number)
  | .float number => .ok (.ofBinary64 number)
  | .decimal number => .ok number
  | .list items => ofSequence items
  | .tuple items => ofSequence items
  | _ => .error .wrongKind
where
  /-- A sequence holds the three parts of a decimal. -/
  ofSequence : List Value → Attempt Decimal
    | [sign, digits, exponent] => decimalOfParts sign digits exponent
    | _ => .error .badContent

/-- The texts that stand for yes. -/
def trueTexts : List String := ["true", "t", "yes", "y", "on", "1"]

/-- The texts that stand for no. -/
def falseTexts : List String := ["false", "f", "no", "n", "off", "0"]

/-- The truth value that a text names. White space around it is ignored, and
so is letter case; no letter beyond the ASCII range has a small form that
occurs in one of the names. -/
def toTruth (value : Value) : Attempt Bool :=
  match value with
  | .text content =>
      let name := lowerAscii (trim content)
      if trueTexts.contains name then .ok true
      else if falseTexts.contains name then .ok false
      else .error (.noTruthValue value)
  | .bytes _ => .error (.noTruthValue value)
  | _ => .error .missingOperation

end Value
end DataContract
