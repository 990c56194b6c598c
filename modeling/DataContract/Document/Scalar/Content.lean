import DataContract.Document.Tag
import DataContract.Number.Reading
import DataContract.Text.Base64

/-!
# Values of scalars

The value that the text of a scalar has as a member of its type. Low lines
group the digits of numbers, and whole numbers are written to the bases two,
eight, ten, sixteen and sixty. A text that follows from its form to be of a
type need not have a value of that type: a date may not exist.
-/

namespace DataContract
namespace Document

open Number Text

/-- Refuse a content that has no value of its type. -/
def refuseContent {α : Type} (fault : Fault) : Reading α :=
  .error (.content fault)

/-- The value that a reader found, or a refusal. -/
def contentOr {α : Type} (fault : Fault) : Option α → Reading α
  | some found => .ok found
  | none => refuseContent fault

/-- The letter that may follow a zero in front of a number to a base. -/
def baseLetter? (base : Nat) : Option Char :=
  if base = 2 then some 'b'
  else if base = 8 then some 'o'
  else if base = 16 then some 'x'
  else none

/-- The value of a digit of any script or of a letter in hexadecimal. -/
def digitOf? (c : Char) : Option Nat :=
  match digitValue? c with
  | some digit => some digit
  | none => hexValue? c

/-- A text without a zero and the letter of a base in front of it. -/
def dropBase
    (base : Nat)
    (chars : List Char) : List Char :=
  match chars with
  | '0' :: letter :: rest =>
      if baseLetter? base == some letter.toLower then rest else chars
  | _ => chars

/-- The whole number that a text writes to a base up to sixteen. -/
def readWholeIn?
    (base : Nat)
    (chars : List Char) : Option Int := do
  let signed := takeSign (trimNumber chars)
  let digits ← (dropBase base signed.2).mapM digitOf?
  if digits.isEmpty || digits.any (base ≤ ·) then none
  else
    let magnitude := digits.foldl (fun total digit => base * total + digit) 0
    some (if signed.1 then -(magnitude : Int) else magnitude)

/-- The whole number that parts to the base sixty write. -/
def sixtyBased? (parts : List (List Char)) : Option Int := do
  let values ← parts.mapM readWhole?
  some (values.foldl (fun total part => 60 * total + part) 0)

/-- The whole number without its sign. -/
def magnitudeOf (body : List Char) : Reading Int :=
  match body with
  | [] => refuseContent .missingIndex
  | ['0'] => .ok 0
  | '0' :: 'b' :: digits => contentOr .badContent (readWholeIn? 2 digits)
  | '0' :: 'x' :: digits => contentOr .badContent (readWholeIn? 16 digits)
  | '0' :: _ => contentOr .badContent (readWholeIn? 8 body)
  | _ =>
      contentOr .badContent
        (if body.contains ':' then sixtyBased? (Tag.colonParts body) else readWhole? body)

/-- A number without the low lines that group its digits. -/
def dropLowLines (chars : List Char) : List Char :=
  chars.filter (· != '_')

/-- The whole number that a scalar writes. -/
def wholeOf (content : List Char) : Reading Int :=
  let chars := dropLowLines content
  if chars.isEmpty then refuseContent .missingIndex
  else
    let signed := takeSign chars
    (magnitudeOf signed.2).map fun magnitude => if signed.1 then -magnitude else magnitude

/-- The sum of parts to the base sixty, the last part first, each product and
each sum being rounded; `base` is the weight of the first. -/
def sumSixties
    (total : Binary64)
    (base : Nat) : List Binary64 → Reading Binary64
  | [] => .ok total
  | part :: rest =>
      match Binary64.ofInt base with
      | .infinite _ => refuseContent .overflow
      | weight => sumSixties (total.add (part.mul weight)) (base * 60) rest

/-- The floating-point number without its sign. -/
def realMagnitudeOf (body : List Char) : Reading Binary64 :=
  if body == ".inf".toList then .ok (.infinite false)
  else if body.contains ':' then do
    let parts ← contentOr .badContent ((Tag.colonParts body).mapM Binary64.read?)
    sumSixties (.zero false) 1 parts.reverse
  else contentOr .badContent (Binary64.read? body)

/-- What the words for the value that is not a number stand for. -/
def documentNan : Binary64 := .nan 1

/-- The floating-point number that a scalar writes; `mark` tells one that is not a
number and is not written by a word for it from all others. -/
def realOf
    (mark : Nat)
    (content : List Char) : Reading Binary64 :=
  let chars := (dropLowLines content).map Char.toLower
  if chars.isEmpty then refuseContent .missingIndex
  else
    let signed := takeSign chars
    if signed.2 == ".nan".toList then .ok documentNan
    else
      (realMagnitudeOf signed.2).map fun magnitude =>
        (magnitude.mul (.ofInt (if signed.1 then -1 else 1))).withMark mark

/-- The words for truth values, in small letters. -/
def truthValues : List (String × Bool) := [
  ("yes", true), ("no", false), ("true", true), ("false", false), ("on", true), ("off", false)]

/-- The truth value that a scalar names. -/
def truthOf (content : List Char) : Reading Bool :=
  contentOr .missingKey (truthValues.lookup (lowerAscii (String.ofList content)))

/-- The date or time that a scalar writes. -/
def momentOf (content : List Char) : Reading Value :=
  match readMoment? content with
  | none => refuseContent .missingOperation
  | some written => contentOr .badContent written.value?

/-- The bytes that a scalar writes. -/
def binaryOf (content : List Char) : Reading (List UInt8) :=
  if content.all fun c => c.toNat < 128 then
    match Base64.decode? content with
    | some bytes => .ok bytes
    | none => .error .malformedBinary
  else .error .malformedBinary

/-- The value of a scalar of a type; `mark` must be greater than one. -/
def scalarValue
    (mark : Nat)
    (tag : Tag)
    (content : List Char) : Reading Value :=
  match tag with
  | .null => .ok .null
  | .truth => (truthOf content).map .bool
  | .whole => (wholeOf content).map .int
  | .real => (realOf mark content).map .float
  | .text => .ok (.text (String.ofList content))
  | .binary => (binaryOf content).map .bytes
  | .moment => momentOf content
  | _ => .error .unknownTag

end Document
end DataContract
