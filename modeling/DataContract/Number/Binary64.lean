/-!
# Binary floating-point numbers of 64 bits

A finite number is a sign, a whole significand below `2 ^ 53` and a power of
two. The significand is at least `2 ^ 52` unless the power is the least one,
so every number has one form and numeric equality of finite numbers is
equality of forms, the two zeros excepted. All operations are exact arithmetic
on whole numbers followed by one rounding to the nearest form, ties to even. A
value that is not a number equals nothing, but it can be the same as another;
its mark tells where it comes from, and is zero if it comes out of an operation.
-/

namespace DataContract
namespace Number

/-- A floating-point number of 64 bits. -/
inductive Binary64
  | finite
      (negative : Bool)
      (significand : Nat)
      (exponent : Int)
  | infinite (negative : Bool)
  | nan (mark : Nat)
  deriving DecidableEq, Repr, Inhabited

/-- The whole number nearest to a quotient; a tie goes to the even one. -/
def roundHalfEven (num den : Nat) : Nat :=
  let quotient := num / den
  let twice := 2 * (num % den)
  if twice < den then quotient
  else if den < twice then quotient + 1
  else if quotient % 2 = 0 then quotient
  else quotient + 1

/-- The quotient `num / den` divided by `2 ^ exponent`, as a pair. -/
def unscale
    (num den : Nat)
    (exponent : Int) : Nat × Nat :=
  if 0 ≤ exponent then (num, den * Nat.pow 2 exponent.toNat)
  else (num * Nat.pow 2 (-exponent).toNat, den)

namespace Binary64

/-- The least power of two. -/
def minExponent : Int := -1074

/-- The greatest power of two of a finite number. -/
def maxExponent : Int := 971

/-- A number that is zero. -/
def zero (negative : Bool) : Binary64 :=
  .finite negative 0 minExponent

/-- The number nearest to `num / den` with the given sign, `den` positive. -/
def ofRatio
    (negative : Bool)
    (num den : Nat) : Binary64 :=
  if num = 0 then zero negative
  else
    let guess : Int := (num.log2 : Int) - (den.log2 : Int) - 53
    let start := unscale num den guess
    let exponent :=
      max (if start.1 / start.2 < Nat.pow 2 53 then guess else guess + 1) minExponent
    let ratio := unscale num den exponent
    let rounded := roundHalfEven ratio.1 ratio.2
    if rounded = Nat.pow 2 53 then
      if maxExponent ≤ exponent then .infinite negative
      else .finite negative (Nat.pow 2 52) (exponent + 1)
    else if maxExponent < exponent then .infinite negative
    else .finite negative rounded exponent

/-- The number nearest to a fraction with a whole numerator. -/
def ofFraction
    (num : Int)
    (den : Nat) : Binary64 :=
  ofRatio (num < 0) num.natAbs den

/-- The number nearest to a whole number. -/
def ofInt (n : Int) : Binary64 :=
  ofFraction n 1

/-- A finite value as a fraction of whole numbers. -/
def magnitude
    (significand : Nat)
    (exponent : Int) : Nat × Nat :=
  if 0 ≤ exponent then (significand * Nat.pow 2 exponent.toNat, 1)
  else (significand, Nat.pow 2 (-exponent).toNat)

/-- The value of a finite number as a fraction. -/
def toFraction? : Binary64 → Option (Int × Nat)
  | .finite negative significand exponent =>
      let ratio := magnitude significand exponent
      some (if negative then -(ratio.1 : Int) else ratio.1, ratio.2)
  | _ => none

/-- Whether the number is not a number. -/
def isNaN : Binary64 → Bool
  | .nan _ => true
  | _ => false

/-- The value with a mark, if it is not a number. -/
def withMark (x : Binary64) (mark : Nat) : Binary64 :=
  if x.isNaN then .nan mark else x

/-- Whether the number is one of the two zeros. -/
def isZero : Binary64 → Bool
  | .finite _ significand _ => significand == 0
  | _ => false

/-- Whether the sign is minus. -/
def isNegative : Binary64 → Bool
  | .finite negative _ _ => negative
  | .infinite negative => negative
  | .nan _ => false

/-- The product, rounded once. -/
def mul : Binary64 → Binary64 → Binary64
  | .finite n₁ s₁ e₁, .finite n₂ s₂ e₂ =>
      let left := magnitude s₁ e₁
      let right := magnitude s₂ e₂
      ofRatio (n₁ != n₂) (left.1 * right.1) (left.2 * right.2)
  | .nan _, _ => .nan 0
  | _, .nan _ => .nan 0
  | x, y =>
      if x.isZero || y.isZero then .nan 0
      else .infinite (x.isNegative != y.isNegative)

/-- The sum, rounded once. -/
def add : Binary64 → Binary64 → Binary64
  | .finite n₁ s₁ e₁, .finite n₂ s₂ e₂ =>
      let left := magnitude s₁ e₁
      let right := magnitude s₂ e₂
      let signed := fun (negative : Bool) (n : Nat) => if negative then -(n : Int) else n
      let total := signed n₁ (left.1 * right.2) + signed n₂ (right.1 * left.2)
      if total = 0 then zero (n₁ && n₂) else ofFraction total (left.2 * right.2)
  | .infinite n₁, .infinite n₂ => if n₁ == n₂ then .infinite n₁ else .nan 0
  | .nan _, _ => .nan 0
  | _, .nan _ => .nan 0
  | .infinite n, _ => .infinite n
  | _, .infinite n => .infinite n

/-- The quotient by a positive whole number, rounded once. -/
def divNat
    (x : Binary64)
    (divisor : Nat) : Binary64 :=
  match x with
  | .finite negative significand exponent =>
      let ratio := magnitude significand exponent
      ofRatio negative ratio.1 (ratio.2 * divisor)
  | other => other

/-- The whole part of a finite number, toward zero. -/
def truncate? (x : Binary64) : Option Int :=
  x.toFraction?.map fun fraction => fraction.1.tdiv fraction.2

end Binary64
end Number
end DataContract
