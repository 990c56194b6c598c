import DataContract.Pattern.Reading
import DataContract.Predicate.Basic
import DataContract.Value.Order
import DataContract.Value.Tag

/-!
# Built-in predicates

The predicates that every registry starts with. Each takes a fixed number of
arguments, the examined value last. A comparison or a membership test between
values that it is not made for is answered with no.
-/

namespace DataContract
namespace Predicate

/-- The examined value is of the kind that a tag names. -/
def isType (tag value : Value) : Attempt Bool :=
  if !tag.isKey then .error .wrongKind
  else
    match tag with
    | .text name =>
        match Tag.ofName? name with
        | some tag => .ok (tag.admits value)
        | none => refuse (.unknownPrimitive tag)
    | _ => refuse (.unknownPrimitive tag)

/-- The examined value is present and, if it has a size, not empty. -/
def isFilled : Value → Bool
  | .null => false
  | value => value.size? != some 0

/-- The examined value is absent or has the size zero. -/
def isEmpty : Value → Bool
  | .null => true
  | value => value.size? == some 0

/-- The examined value stands in a relation to a bound. -/
def compares
    (relation : Relation)
    (bound value : Value) : Attempt Bool :=
  orIfWrongKind (value.related relation bound) false

/-- The examined value is a whole number with a remainder of division by two. -/
def hasParity (remainder : Int) : Value → Bool
  | .int number => number % 2 == remainder
  | _ => false

/-- The examined value has a size, and the size passes a test. -/
def hasSize
    (test : Value → Attempt Bool)
    (value : Value) : Attempt Bool :=
  match value.size? with
  | some size => test (.int size)
  | none => .ok false

/-- A pattern occurs in the examined text. A pattern for bytes occurs in no
text, and is refused once it has been read. -/
def matchesPattern (pattern value : Value) : Attempt Bool :=
  match value with
  | .text content =>
      match pattern with
      | .text written =>
          (readPattern .text written.toList).map (·.succeedsIn (content.toList.map Text.codeAt))
      | .bytes written => do
          let _ ← readPattern .bytes (written.map fun byte => Char.ofNat byte.toNat)
          .error .wrongKind
      | _ => .error .wrongKind
  | _ => .ok false
where
  /-- The search that a text writes. -/
  readPattern
      (subject : PatternSubject)
      (written : List Char) : Attempt Search :=
    match Pattern.read subject written with
    | .ok search => .ok search
    | .error .malformed => .error .malformedPattern
    | .error .countTooLarge => .error .overflow
    | .error .contradictory => .error .badContent
    | .error .tooWide => .error .functionFailed

/-- The examined value is, or is not, part of a container. -/
def isPart
    (expected : Bool)
    (container value : Value) : Attempt Bool :=
  orIfWrongKind ((container.contains value).map (· == expected)) false

/-- A function of the examined value alone. -/
def unary (test : Value → Attempt Bool) : PredicateFunction
  | [value] => (test value).map Value.bool
  | _ => .error .wrongKind

/-- A function of one argument and the examined value. -/
def binary (test : Value → Value → Attempt Bool) : PredicateFunction
  | [arg, value] => (test arg value).map Value.bool
  | _ => .error .wrongKind

/-- The built-in functions by name. -/
def builtins : List (String × PredicateFunction) := [
  ("type?", binary isType),
  ("filled?", unary fun value => .ok (isFilled value)),
  ("empty?", unary fun value => .ok (isEmpty value)),
  ("eql?", binary fun expected value => value.equals expected),
  ("not_eql?", binary fun expected value => (value.equals expected).map not),
  ("gt?", binary (compares .greater)),
  ("gteq?", binary (compares .greaterOrEqual)),
  ("lt?", binary (compares .less)),
  ("lteq?", binary (compares .lessOrEqual)),
  ("even?", unary fun value => .ok (hasParity 0 value)),
  ("odd?", unary fun value => .ok (hasParity 1 value)),
  ("size?", binary fun expected => hasSize fun size => size.equals expected),
  ("min_size?", binary fun bound => hasSize fun size => size.related .greaterOrEqual bound),
  ("max_size?", binary fun bound => hasSize fun size => size.related .lessOrEqual bound),
  ("match?", binary matchesPattern),
  ("includes?", binary fun part value => isPart true value part),
  ("excludes?", binary fun part value => isPart false value part),
  ("in?", binary fun options value => isPart true options value),
  ("not_in?", binary fun options value => isPart false options value)]

end Predicate
end DataContract
