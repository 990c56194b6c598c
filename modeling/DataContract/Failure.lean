import DataContract.Value.Equality

/-!
# Failures

What validation reports about a value that does not satisfy a schema: a tree
whose leaves are predicates that do not hold, keys that are missing and broken
rules. Paths are relative to the node that reported the failure; `nest` puts a
path in front of all of them as the failure travels up.
-/

namespace DataContract

/-- A validation failure. -/
inductive Failure
  /-- A predicate that does not hold: its name, its arguments with the examined
  value last, and that value. -/
  | predicate
      (path : Path)
      (name : String)
      (args : List Value)
      (input : Value)
  /-- A required key without an entry. -/
  | missing (path : Path)
  /-- Two alternatives that both failed. -/
  | either
      (path : Path)
      (left right : Failure)
      (options : Options)
  /-- Failures found independently of each other. -/
  | several (failures : List Failure)
  /-- A failure of the input of a cast, which was then not carried out. -/
  | cast (inner : Failure)
  /-- A broken rule. -/
  | rule
      (path : Path)
      (text : String)
  deriving Inhabited

/-- The result of a validation that came to an answer. -/
abbrev Outcome := Except Failure Value

namespace Failure

/-- The name of the predicate that tells whether a value is of the right kind. -/
def typePredicate : String := "type?"

/-- Whether a failure is that of a value of the wrong kind. -/
def isTypeMismatch : Failure → Bool
  | .predicate _ name _ _ => name == typePredicate
  | _ => false

/-- Whether a failure is a predicate that does not hold of a value of the right
kind. -/
def isPastTypeCheck : Failure → Bool
  | .predicate _ name _ _ => name != typePredicate
  | _ => false

mutual

/-- A failure seen from further out: a path is put in front of all paths. -/
def nest (front : Path) : Failure → Failure
  | .predicate path name args input => .predicate (front ++ path) name args input
  | .missing path => .missing (front ++ path)
  | .either path left right options =>
      .either (front ++ path) (left.nest front) (right.nest front) options
  | .several failures => .several (nestAll front failures)
  | .cast inner => .cast (inner.nest front)
  | .rule path text => .rule (front ++ path) text

/-- Several failures seen from further out. -/
def nestAll (front : Path) : List Failure → List Failure
  | [] => []
  | failure :: rest => failure.nest front :: nestAll front rest

end

end Failure

/-- An outcome seen from further out. -/
def Outcome.nest
    (front : Path)
    (outcome : Outcome) : Outcome :=
  match outcome with
  | .ok value => .ok value
  | .error failure => .error (failure.nest front)

end DataContract
