/-!
# Decimal digits

Every script writes its ten decimal digits in a run of ten consecutive code
points that starts with zero, so a digit's value is its distance from the
start of its run.
-/

namespace DataContract
namespace Text

/-- The zero of each script's run of ten decimal digits. -/
def decimalZeros : List Nat := [
  48, 1632, 1776, 1984, 2406, 2534, 2662, 2790, 2918, 3046, 3174, 3302, 3430, 3558, 3664, 3792,
  3872, 4160, 4240, 6112, 6160, 6470, 6608, 6784, 6800, 6992, 7088, 7232, 7248, 42528, 43216,
  43264, 43472, 43504, 43600, 44016, 65296, 66720, 68912, 69734, 69872, 69942, 70096, 70384,
  70736, 70864, 71248, 71360, 71472, 71904, 72016, 72784, 73040, 73120, 92768, 92864, 93008,
  120782, 120792, 120802, 120812, 120822, 123200, 123632, 125264, 130032]

/-- The value of a decimal digit of any script. -/
def digitValue? (c : Char) : Option Nat :=
  (decimalZeros.find? fun start => start ≤ c.toNat && c.toNat < start + 10).map
    fun start => c.toNat - start

/-- Whether a character is a decimal digit of any script. -/
def isDecimalDigit (c : Char) : Bool :=
  (digitValue? c).isSome

/-- The value of one of the digits from 0 to 9. -/
def asciiDigitValue? (c : Char) : Option Nat :=
  if c.isDigit then some (c.toNat - '0'.toNat) else none

example : digitValue? '7' = some 7 := by decide +kernel
example : digitValue? 'x' = none := by decide +kernel

/-- The number written by decimal digits, most significant first. -/
def digitsValue (digits : List Nat) : Nat :=
  digits.foldl (fun total digit => 10 * total + digit) 0

end Text
end DataContract
