import DataContract.Number.Binary64

/-!
# Shortest decimal text of a floating-point number

A floating-point number stands for all real numbers that round to it. Its text
has the fewest digits of any decimal in that interval and, of those, the
digits nearest to the number. The interval holds its ends exactly if the
significand is even.
-/

namespace DataContract
namespace Number

/-- The number of decimal digits of a whole number, at least one. -/
def digitCount (n : Nat) : Nat :=
  (Nat.toDigits 10 n).length

/-- The exponent of the greatest power of ten that is at most `num / den`,
both positive. -/
def decimalExponent (num den : Nat) : Int :=
  if den ≤ num then (digitCount (num / den) : Int) - 1
  else -(digitCount ((den + num - 1) / num - 1) : Int)

/-- A coefficient without its trailing zeros, and the matching power of ten.
The first argument bounds the number of zeros. -/
def dropZeros : Nat → Nat → Int → Nat × Int
  | 0, coefficient, power => (coefficient, power)
  | bound + 1, coefficient, power =>
      if coefficient % 10 = 0 && coefficient != 0 then
        dropZeros bound (coefficient / 10) (power + 1)
      else (coefficient, power)

namespace Binary64

/-- The reals that round to a positive finite number: four times the value and
its two ends, over a common denominator, and whether the ends belong. -/
structure Interval where
  /-- The lower end. -/
  low : Nat
  /-- Four times the value. -/
  value : Nat
  /-- The upper end. -/
  high : Nat
  /-- The common denominator. -/
  den : Nat
  /-- Whether the ends round to the number too. -/
  closed : Bool

/-- The interval of a significand and a power of two. -/
def interval
    (significand : Nat)
    (exponent : Int) : Interval :=
  let scaled := fun n => magnitude n (exponent - 2)
  let below := if significand = Nat.pow 2 52 && minExponent < exponent then 1 else 2
  { low := (scaled (4 * significand - below)).1
    value := (scaled (4 * significand)).1
    high := (scaled (4 * significand + 2)).1
    den := (scaled 0).2
    closed := significand % 2 == 0 }

/-- Whether `coefficient · 10 ^ power` lies in the interval. -/
def Interval.holds
    (interval : Interval)
    (coefficient : Nat)
    (power : Int) : Bool :=
  let scale := Nat.pow 10 power.natAbs
  let point := if 0 ≤ power then coefficient * scale * interval.den else coefficient * interval.den
  let low := if 0 ≤ power then interval.low else interval.low * scale
  let high := if 0 ≤ power then interval.high else interval.high * scale
  if interval.closed then low ≤ point && point ≤ high else low < point && point < high

/-- The neighbour of the value on the grid of multiples of `10 ^ power` that
lies in the interval, the nearer one if both do. -/
def Interval.onGrid?
    (interval : Interval)
    (power : Int) : Option Nat :=
  let scale := Nat.pow 10 power.natAbs
  let num := if 0 ≤ power then interval.value else interval.value * scale
  let den := if 0 ≤ power then interval.den * scale else interval.den
  let down := num / den
  let rest := num % den
  let downFits := interval.holds down power && down != 0
  let upFits := interval.holds (down + 1) power
  if downFits && upFits then
    if 2 * rest < den then some down
    else if den < 2 * rest then some (down + 1)
    else if down % 2 = 0 then some down
    else some (down + 1)
  else if downFits then some down
  else if upFits then some (down + 1)
  else none

/-- The first grid with a hit, from one digit up to `1 + steps` digits. -/
def Interval.shortest
    (interval : Interval)
    (power : Int) : Nat → Nat × Int
  | 0 => ((interval.onGrid? power).getD 0, power)
  | steps + 1 =>
      match interval.onGrid? power with
      | some coefficient => (coefficient, power)
      | none => interval.shortest (power - 1) steps

/-- The coefficient and the power of ten of the shortest decimal. -/
def shortestDecimal
    (significand : Nat)
    (exponent : Int) : Nat × Int :=
  let reals := interval significand exponent
  let found := reals.shortest (decimalExponent reals.value reals.den) 17
  dropZeros 20 found.1 found.2

/-- Digits without an exponent are used for powers of ten in this range. -/
def positionalFrom : Int := -4

/-- Scientific text starts at this power of ten. -/
def scientificFrom : Int := 16

/-- A power of ten in scientific text: a sign and at least two digits. -/
def exponentText (power : Int) : String :=
  let digits := toString power.natAbs
  (if power < 0 then "e-" else "e+") ++ (if digits.length < 2 then "0" ++ digits else digits)

/-- The text of a positive decimal. It always has a point or an exponent. -/
def decimalText
    (coefficient : Nat)
    (power : Int) : String :=
  let digits := Nat.toDigits 10 coefficient
  let leading := power + digits.length - 1
  if positionalFrom ≤ leading && leading < scientificFrom then
    if 0 ≤ power then
      String.ofList (digits ++ List.replicate power.toNat '0') ++ ".0"
    else if leading < 0 then
      "0." ++ String.ofList (List.replicate (-leading - 1).toNat '0' ++ digits)
    else
      let whole := (leading + 1).toNat
      String.ofList (digits.take whole ++ '.' :: digits.drop whole)
  else
    let fraction := digits.drop 1
    String.ofList (digits.take 1 ++ (if fraction.isEmpty then [] else '.' :: fraction)) ++
      exponentText leading

/-- The shortest text that reads back as the number. -/
def text : Binary64 → String
  | .finite negative significand exponent =>
      let sign := if negative then "-" else ""
      if significand = 0 then sign ++ "0.0"
      else
        let decimal := shortestDecimal significand exponent
        sign ++ decimalText decimal.1 decimal.2
  | .infinite negative => if negative then "-inf" else "inf"
  | .nan _ => "nan"

end Binary64
end Number
end DataContract
