import DataContract.Fault

/-!
# Predicates

A predicate is a named function with some of its arguments already given. It
is applied to a value as the last argument, and holds if the function's answer
counts as true.
-/

namespace DataContract

/-- A function that predicates can be built from: from all arguments, the
value last, to a value whose truth is the answer. -/
abbrev PredicateFunction := List Value → Attempt Value

/-- A function with a name and its first arguments. -/
structure Predicate where
  /-- The name that failures are told with. -/
  name : String
  /-- The arguments that are given already. -/
  args : List Value
  /-- What is asked, with the value as last argument. -/
  function : PredicateFunction

/-- Whether a predicate holds of a value. -/
def Predicate.holds
    (predicate : Predicate)
    (value : Value) : Attempt Bool :=
  (predicate.function (predicate.args ++ [value])).map Value.truthy

end DataContract
