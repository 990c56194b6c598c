import DataContract.Text.Blank
import DataContract.Text.Digit

/-!
# Numerals

The written form shared by whole numbers, floating-point numbers and decimals:
an optional sign, decimal digits of any script, and for the last two a
fraction and a power of ten. What surrounds a numeral, where low lines may
group its digits and which words name special numbers is decided by each
reader.
-/

namespace DataContract
namespace Number

open DataContract.Text

/-- A decimal numeral: `± whole . fraction · 10 ^ exponent`. -/
structure Numeral where
  /-- Whether a minus sign is in front. -/
  negative : Bool
  /-- The digits before the point. -/
  whole : List Nat
  /-- The digits after the point. -/
  fraction : List Nat
  /-- The power of ten. -/
  exponent : Int
  deriving DecidableEq, Repr

namespace Numeral

/-- All digits as one whole number. -/
def coefficient (numeral : Numeral) : Nat :=
  digitsValue (numeral.whole ++ numeral.fraction)

/-- The power of ten that belongs to the coefficient. -/
def power (numeral : Numeral) : Int :=
  numeral.exponent - numeral.fraction.length

end Numeral

/-- A leading sign, if any, and what follows it. -/
def takeSign : List Char → Bool × List Char
  | '-' :: rest => (true, rest)
  | '+' :: rest => (false, rest)
  | chars => (false, chars)

/-- The longest run of digits and what follows it. -/
def takeDigits : List Char → List Nat × List Char
  | [] => ([], [])
  | c :: rest =>
      match digitValue? c with
      | some digit =>
          let taken := takeDigits rest
          (digit :: taken.1, taken.2)
      | none => ([], c :: rest)

/-- All characters as digits. -/
def allDigits? (chars : List Char) : Option (List Nat) :=
  let taken := takeDigits chars
  if taken.2.isEmpty && !taken.1.isEmpty then some taken.1 else none

/-- A fraction, which starts with a point and may have no digits. -/
def takeFraction : List Char → List Nat × List Char
  | '.' :: rest => takeDigits rest
  | chars => ([], chars)

/-- A power of ten that ends the text; no text stands for the power zero. -/
def readPower? : List Char → Option Int
  | [] => some 0
  | c :: rest =>
      if c == 'e' || c == 'E' then
        let signed := takeSign rest
        (allDigits? signed.2).map fun digits =>
          if signed.1 then -(digitsValue digits : Int) else digitsValue digits
      else none

/-- A numeral without a sign, given the sign that stood before it. -/
def readUnsigned?
    (negative : Bool)
    (chars : List Char) : Option Numeral :=
  let whole := takeDigits chars
  let fraction := takeFraction whole.2
  if whole.1.isEmpty && fraction.1.isEmpty then none
  else (readPower? fraction.2).map fun exponent =>
    { negative, whole := whole.1, fraction := fraction.1, exponent }

/-- The characters without the low lines that group digits. A low line must
stand between two digits. The flag tells whether a digit was just read. -/
def dropGrouping : Bool → List Char → Option (List Char)
  | _, [] => some []
  | afterDigit, '_' :: rest =>
      match rest with
      | next :: _ =>
          if afterDigit && isDecimalDigit next then dropGrouping false rest else none
      | [] => none
  | _, c :: rest => (dropGrouping (isDecimalDigit c) rest).map (c :: ·)

/-- White space around whole and floating-point numbers: all blanks except the
four separator control characters. -/
def isNumberBlank (c : Char) : Bool :=
  isBlank c && !(28 ≤ c.toNat && c.toNat ≤ 31)

/-- The characters between white space on both ends. -/
def trimNumber (chars : List Char) : List Char :=
  ((chars.dropWhile isNumberBlank).reverse.dropWhile isNumberBlank).reverse

/-- Whether two texts are equal when the case of the letters from `A` to `Z` is
ignored; the second is given in small letters. -/
def matchesWord
    (chars : List Char)
    (word : String) : Bool :=
  chars.map Char.toLower == word.toList

end Number
end DataContract
