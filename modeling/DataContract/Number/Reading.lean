import DataContract.Number.Binary64
import DataContract.Number.Numeral

/-!
# Reading whole and floating-point numbers

White space around the number is ignored, low lines may group its digits, and
digits of every script are read. Whole numbers are limited in length;
floating-point numbers round to nearest and also have names for infinity and
for the value that is not a number.
-/

namespace DataContract
namespace Number

open DataContract.Text

/-- The greatest number of digits that a whole number may be written with. -/
def maxWholeDigits : Nat := 4300

/-- The whole number written by a text. -/
def readWhole? (chars : List Char) : Option Int := do
  let body ← dropGrouping false (trimNumber chars)
  let signed := takeSign body
  let digits ← allDigits? signed.2
  if digits.length ≤ maxWholeDigits then
    let magnitude := digitsValue digits
    some (if signed.1 then -(magnitude : Int) else magnitude)
  else none

namespace Binary64

/-- Powers of ten above this one round to infinity. -/
def maxDecimalPower : Int := 310

/-- Powers of ten below this one round to zero. -/
def minDecimalPower : Int := -345

/-- The number nearest to `± coefficient · 10 ^ power`; `digits` is the number
of digits of the coefficient. -/
def ofScientific
    (negative : Bool)
    (coefficient digits : Nat)
    (power : Int) : Binary64 :=
  if coefficient = 0 then zero negative
  else
    let leading := power + digits
    if maxDecimalPower < leading then .infinite negative
    else if leading < minDecimalPower then zero negative
    else if 0 ≤ power then ofRatio negative (coefficient * Nat.pow 10 power.toNat) 1
    else ofRatio negative coefficient (Nat.pow 10 (-power).toNat)

/-- The number nearest to a numeral. -/
def ofNumeral (numeral : Numeral) : Binary64 :=
  let digits := (numeral.whole ++ numeral.fraction).dropWhile (· == 0)
  ofScientific numeral.negative numeral.coefficient digits.length numeral.power

/-- The number written by a text. -/
def read? (chars : List Char) : Option Binary64 := do
  let body ← dropGrouping false (trimNumber chars)
  let signed := takeSign body
  if matchesWord signed.2 "inf" || matchesWord signed.2 "infinity" then
    some (.infinite signed.1)
  else if matchesWord signed.2 "nan" then some (.nan 0)
  else (readUnsigned? signed.1 signed.2).map ofNumeral

end Binary64
end Number
end DataContract
