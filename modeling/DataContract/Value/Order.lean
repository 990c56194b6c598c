import DataContract.Value.Equality

/-!
# Order of values

Numbers are ordered by value, texts by code points, byte strings byte by byte,
days and times by the calendar, and two sequences of one kind by their first
difference. Values of other kinds, or of two kinds, have no order. A number
that is not a number is neither before nor after a floating-point number, and
comparing a decimal that is not a number is a fault.
-/

namespace DataContract

open Number Calendar

/-- One of the four ways to ask for an order. -/
inductive Relation
  | less
  | lessOrEqual
  | greater
  | greaterOrEqual
  deriving DecidableEq, Repr

/-- Whether a relation holds between values that compare in some way. -/
def Relation.holds : Relation → Ordering → Bool
  | .less, ordering => ordering == .lt
  | .lessOrEqual, ordering => ordering != .gt
  | .greater, ordering => ordering == .gt
  | .greaterOrEqual, ordering => ordering != .lt

/-- Compare byte strings. -/
def compareBytes : List UInt8 → List UInt8 → Ordering
  | [], [] => .eq
  | [], _ :: _ => .lt
  | _ :: _, [] => .gt
  | x :: xs, y :: ys =>
      match compare x.toNat y.toNat with
      | .eq => compareBytes xs ys
      | other => other

namespace Scalar

/-- Whether a scalar is a decimal. -/
def isDecimal : Scalar → Bool
  | .decimal _ => true
  | _ => false

/-- Whether a relation holds between two scalars. -/
def related
    (relation : Relation)
    (a b : Scalar) : Attempt Bool :=
  match a.number?, b.number? with
  | some x, some y =>
      match x.compare? y with
      | some ordering => .ok (relation.holds ordering)
      | none => if a.isDecimal || b.isDecimal then .error .undefinedDecimal else .ok false
  | _, _ =>
      match a, b with
      | .text x, .text y => .ok (relation.holds (compare x y))
      | .bytes x, .bytes y => .ok (relation.holds (compareBytes x y))
      | .date x, .date y => .ok (relation.holds (x.compare y))
      | .dateTime x, .dateTime y => orWrongKind (x.compare? y)
      | .time x, .time y => orWrongKind (x.compare? y)
      | _, _ => .error .wrongKind
where
  /-- The answer for moments, which may not be comparable. -/
  orWrongKind : Option Ordering → Attempt Bool
    | some ordering => .ok (relation.holds ordering)
    | none => .error .wrongKind

end Scalar

namespace Value

mutual

/-- Whether a relation holds between two values. -/
def related (relation : Relation) : Value → Value → Attempt Bool
  | .scalar a, .scalar b => a.related relation b
  | .list xs, .list ys => relatedItems relation xs ys
  | .tuple xs, .tuple ys => relatedItems relation xs ys
  | _, _ => .error .wrongKind

/-- Whether a relation holds between two sequences: it is decided by the first
items that differ, or else by the lengths. -/
def relatedItems (relation : Relation) : List Value → List Value → Attempt Bool
  | [], ys => .ok (relation.holds (if ys.isEmpty then .eq else .lt))
  | _ :: _, [] => .ok (relation.holds .gt)
  | x :: xs, y :: ys => do
      if ← x.equalsAsPart y then relatedItems relation xs ys else x.related relation y

end

end Value
end DataContract
