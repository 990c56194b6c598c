import DataContract.Casting.Template
import DataContract.Predicate.Builtin

/-!
# Further predicate functions

Ready-made functions that can be registered as custom predicates.
-/

namespace DataContract

open Number

namespace Predicate

/-- The first half of a sequence equals the second half read backwards; an item
in the middle is always the same as itself. -/
def equalHalves (items : List Value) : Attempt Bool :=
  let half := items.length / 2
  Value.equalsItems (items.take half) (items.reverse.take half)

/-- A sequence, a text or a byte string equals itself read backwards. -/
def isPalindrome (value : Value) : Attempt Bool :=
  match value with
  | .text content => .ok (content.toList == content.toList.reverse)
  | .bytes content => .ok (content == content.reverse)
  | .list items => equalHalves items
  | .tuple items => equalHalves items
  | _ => .error .wrongKind

/-- Whether the remainder of two floating-point numbers is zero. -/
def floatDivides (divisor value : Binary64) : Attempt Bool :=
  match value.toFraction?, divisor.toFraction? with
  | some (n, d), some (m, e) =>
      if m = 0 then .error .divisionByZero else .ok ((n * e) % (m * d) == 0)
  | some (n, _), none => .ok (!divisor.isNaN && n == 0)
  | none, some (m, _) => if m = 0 then .error .divisionByZero else .ok false
  | none, none => .ok false

/-- Whether a remainder is zero after rounding. -/
def vanishes (coefficient : Nat) (exponent : Int) : Attempt Bool :=
  match Decimal.settle? coefficient exponent with
  | some rounded => .ok (rounded.1 == 0)
  | none => .error .decimalOverflow

/-- Whether the remainder of two decimals is zero. The quotient must have at
most 28 digits. -/
def decimalDivides (divisor value : Decimal) : Attempt Bool :=
  if divisor.isSignaling || value.isSignaling then .error .undefinedDecimal
  else
    match value, divisor with
    | .nan .., _ => .ok false
    | _, .nan .. => .ok false
    | .infinite _, _ => .error .undefinedDecimal
    | .finite _ coefficient exponent, .infinite _ => vanishes coefficient exponent
    | .finite _ c₁ e₁, .finite _ c₂ e₂ =>
        if c₂ = 0 then .error .undefinedDecimal
        else if c₁ = 0 then .ok true
        else if 28 < Decimal.leadingPower c₁ e₁ - Decimal.leadingPower c₂ e₂ then
          .error .undefinedDecimal
        else if Decimal.leadingPower c₁ e₁ + 1 < Decimal.leadingPower c₂ e₂ then vanishes c₁ e₁
        else
          let scale := min e₁ e₂
          let dividend := c₁ * Nat.pow 10 (e₁ - scale).toNat
          let divisor := c₂ * Nat.pow 10 (e₂ - scale).toNat
          if Nat.pow 10 28 ≤ dividend / divisor then .error .undefinedDecimal
          else vanishes (dividend % divisor) scale

/-- Nothing is left of the examined value after division. A number must divide
it; a text is a template, and the filled template is something left. -/
def isDivisible (divisor value : Value) : Attempt Bool :=
  match value with
  | .text content => (Template.fill .text content.toList divisor).map fun _ => false
  | .bytes content =>
      let chars := content.map fun byte => Char.ofNat byte.toNat
      (Template.fill .bytes chars divisor).map fun _ => false
  | _ =>
  match value.whole?, divisor.whole? with
  | some n, some m => if m = 0 then .error .divisionByZero else .ok (n % m == 0)
  | _, _ =>
      match value, divisor with
      | .decimal x, .decimal y => decimalDivides y x
      | .decimal x, _ =>
          match divisor.whole? with
          | some m => decimalDivides (.ofInt m) x
          | none => .error .wrongKind
      | _, .decimal y =>
          match value.whole? with
          | some n => decimalDivides y (.ofInt n)
          | none => .error .wrongKind
      | .float x, .float y => floatDivides y x
      | .float x, _ =>
          match divisor.whole? with
          | some m => do floatDivides (← Value.wholeToFloat m) x
          | none => .error .wrongKind
      | _, .float y =>
          match value.whole? with
          | some n => do floatDivides y (← Value.wholeToFloat n)
          | none => .error .wrongKind
      | _, _ => .error .wrongKind

/-- The examined value is not before a lower and not after an upper bound. -/
def isBetween (low high value : Value) : Attempt Bool := do
  if ← low.related .lessOrEqual value then value.related .lessOrEqual high else .ok false

/-- The further functions by name. -/
def customs : List (String × PredicateFunction) := [
  ("palindrome", unary isPalindrome),
  ("yes", unary fun _ => .ok true),
  ("no", unary fun _ => .ok false),
  ("truthy_text", fun args =>
    match args with
    | [value] => .ok value
    | _ => .error .wrongKind),
  ("divisible", binary isDivisible),
  ("between", fun args =>
    match args with
    | [low, high, value] => (isBetween low high value).map Value.bool
    | _ => .error .wrongKind),
  ("fail", fun _ => .error .functionFailed)]

end Predicate
end DataContract
