import DataContract.Number.Numeral
import DataContract.Number.Reading
import DataContract.Number.Shortest

/-!
# Decimal numbers

Decimal numbers keep a sign, a whole coefficient and a power of ten, so `1.0`
and `1.00` are equal in value and differ in form. Besides finite numbers there
are two infinities and two kinds of values that are not numbers: quiet ones
and signaling ones, each with an optional payload. Their mark tells where they come
from, and is zero if they come out of an operation.
-/

namespace DataContract
namespace Number

open DataContract.Text

/-- A decimal number. -/
inductive Decimal
  | finite
      (negative : Bool)
      (coefficient : Nat)
      (exponent : Int)
  | infinite (negative : Bool)
  | nan
      (signaling : Bool)
      (negative : Bool)
      (payload : Nat)
      (mark : Nat)
  deriving DecidableEq, Repr, Inhabited

namespace Decimal

/-- The greatest power of ten of a leading digit. -/
def maxLeading : Int := 999999999999999999

/-- The least power of ten of a last digit. -/
def minExponent : Int := -1999999999999999997

/-- Whether the value is not a number. -/
def isNaN : Decimal → Bool
  | .nan .. => true
  | _ => false

/-- The value with a mark, if it is not a number. -/
def withMark : Decimal → Nat → Decimal
  | .nan signaling negative payload _, mark => .nan signaling negative payload mark
  | number, _ => number

/-- Whether the value is not a number and must not be compared. -/
def isSignaling : Decimal → Bool
  | .nan signaling .. => signaling
  | _ => false

/-- Whether the value is zero. -/
def isZero : Decimal → Bool
  | .finite _ coefficient _ => coefficient == 0
  | _ => false

/-- A whole number. -/
def ofInt (n : Int) : Decimal :=
  .finite (n < 0) n.natAbs 0

/-- The exact value of a floating-point number. -/
def ofBinary64 : Binary64 → Decimal
  | .finite negative significand exponent =>
      if significand = 0 then .finite negative 0 0
      else if 0 ≤ exponent then .finite negative (significand * Nat.pow 2 exponent.toNat) 0
      else
        let halvings := significand.log2
        let reduce := lowestTerms (halvings + 1) significand (-exponent).toNat
        .finite negative (reduce.1 * Nat.pow 5 reduce.2) (-(reduce.2 : Int))
  | .infinite negative => .infinite negative
  | .nan _ => .nan false false 0 0
where
  /-- A fraction with a power of two below, without common factors of two. -/
  lowestTerms : Nat → Nat → Nat → Nat × Nat
    | 0, num, halves => (num, halves)
    | bound + 1, num, halves =>
        if num % 2 = 0 && halves != 0 then lowestTerms bound (num / 2) (halves - 1)
        else (num, halves)

/-- The power of ten of the leading digit. -/
def leadingPower
    (coefficient : Nat)
    (exponent : Int) : Int :=
  exponent + (digitCount coefficient : Int) - 1

/-- Compare two magnitudes. Numbers whose leading digits differ in power are
decided without scaling. -/
def compareMagnitude
    (c₁ : Nat)
    (e₁ : Int)
    (c₂ : Nat)
    (e₂ : Int) : Ordering :=
  if c₁ = 0 then (if c₂ = 0 then .eq else .lt)
  else if c₂ = 0 then .gt
  else
    match compare (leadingPower c₁ e₁) (leadingPower c₂ e₂) with
    | .eq =>
        if e₁ ≤ e₂ then compare c₁ (c₂ * Nat.pow 10 (e₂ - e₁).toNat)
        else compare (c₁ * Nat.pow 10 (e₁ - e₂).toNat) c₂
    | other => other

/-- Compare two numbers; there is no answer if one is not a number. -/
def compare? : Decimal → Decimal → Option Ordering
  | .nan .., _ => none
  | _, .nan .. => none
  | .infinite n₁, .infinite n₂ => some (compare n₂.toNat n₁.toNat)
  | .infinite n, _ => some (if n then .lt else .gt)
  | _, .infinite n => some (if n then .gt else .lt)
  | .finite n₁ c₁ e₁, .finite n₂ c₂ e₂ =>
      if c₁ = 0 && c₂ = 0 then some .eq
      else
        let negative₁ := n₁ && c₁ != 0
        let negative₂ := n₂ && c₂ != 0
        match negative₁, negative₂ with
        | true, false => some .lt
        | false, true => some .gt
        | false, false => some (compareMagnitude c₁ e₁ c₂ e₂)
        | true, true => some (compareMagnitude c₂ e₂ c₁ e₁)

/-- The digits of a coefficient with a point, or in scientific form. Scientific
form is used for positive powers and for leading digits below `10 ^ -6`. -/
def finiteText
    (coefficient : Nat)
    (exponent : Int) : String :=
  let digits := Nat.toDigits 10 coefficient
  let leading := leadingPower coefficient exponent
  if exponent ≤ 0 && -6 ≤ leading then
    if exponent = 0 then String.ofList digits
    else if leading < 0 then
      "0." ++ String.ofList (List.replicate (-leading - 1).toNat '0' ++ digits)
    else
      let whole := (leading + 1).toNat
      String.ofList (digits.take whole ++ '.' :: digits.drop whole)
  else
    let fraction := digits.drop 1
    String.ofList (digits.take 1 ++ (if fraction.isEmpty then [] else '.' :: fraction)) ++
      (if leading < 0 then "E-" else "E+") ++ toString leading.natAbs

/-- The text of a decimal, from which its form can be read back. -/
def text : Decimal → String
  | .finite negative coefficient exponent =>
      (if negative then "-" else "") ++ finiteText coefficient exponent
  | .infinite negative => if negative then "-Infinity" else "Infinity"
  | .nan signaling negative payload _ =>
      (if negative then "-" else "") ++ (if signaling then "sNaN" else "NaN") ++
        (if payload = 0 then "" else toString payload)

/-- Whether a finite number is within the limits of its form. -/
def inRange
    (coefficient : Nat)
    (exponent : Int) : Bool :=
  leadingPower coefficient exponent ≤ maxLeading && minExponent ≤ exponent

/-- The decimal that a word names, and a payload after `nan` or `snan`. -/
def readSpecial?
    (negative : Bool)
    (chars : List Char) : Option Decimal :=
  if matchesWord chars "inf" || matchesWord chars "infinity" then some (.infinite negative)
  else if matchesWord (chars.take 3) "nan" then
    (payload? (chars.drop 3)).map (.nan false negative · 0)
  else if matchesWord (chars.take 4) "snan" then
    (payload? (chars.drop 4)).map (.nan true negative · 0)
  else none
where
  /-- The payload is written by any number of digits. -/
  payload? (digits : List Char) : Option Nat :=
    if digits.isEmpty then some 0 else (allDigits? digits).map digitsValue

/-- The decimal written by a text. White space around it and low lines anywhere
in it are ignored. -/
def read? (chars : List Char) : Option Decimal :=
  let signed := takeSign ((trimBlanks chars).filter (· != '_'))
  match readUnsigned? signed.1 signed.2 with
  | some numeral =>
      if inRange numeral.coefficient numeral.power then
        some (.finite numeral.negative numeral.coefficient numeral.power)
      else none
  | none => readSpecial? signed.1 signed.2

/-- The floating-point number nearest to a decimal. -/
def toBinary64 : Decimal → Binary64
  | .finite negative coefficient exponent =>
      Binary64.ofScientific negative coefficient (digitCount coefficient) exponent
  | .infinite negative => .infinite negative
  | .nan .. => .nan 0

/-- The number of digits that the result of an operation keeps. -/
def resultDigits : Nat := 28

/-- The greatest power of ten of the leading digit of a result. -/
def maxResultLeading : Int := 999999

/-- The least power of ten of the last digit of a result. -/
def minResultExponent : Int := -1000026

/-- The coefficient and the power of a result, rounded to as many digits as it
keeps; `none` if it is too great. -/
def settle?
    (coefficient : Nat)
    (exponent : Int) : Option (Nat × Int) :=
  let leading := leadingPower coefficient exponent
  let last := max (leading - (resultDigits - 1)) minResultExponent
  if coefficient = 0 then some (0, exponent)
  else
    let kept : Nat × Int :=
      if last ≤ exponent then (coefficient, exponent)
      else if leading + 1 < last then (0, last)
      else (roundHalfEven coefficient (Nat.pow 10 (last - exponent).toNat), last)
    if kept.1 != 0 && maxResultLeading < leadingPower kept.1 kept.2 then none else some kept

/-- The whole part of a finite decimal, toward zero. -/
def truncate
    (negative : Bool)
    (coefficient : Nat)
    (exponent : Int) : Int :=
  let magnitude :=
    if coefficient = 0 then 0
    else if 0 ≤ exponent then coefficient * Nat.pow 10 exponent.toNat
    else if digitCount coefficient < exponent.natAbs then 0
    else coefficient / Nat.pow 10 exponent.natAbs
  if negative then -(magnitude : Int) else magnitude

end Decimal
end Number
end DataContract
