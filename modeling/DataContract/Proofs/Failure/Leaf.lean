import DataContract.Proofs.Failure.Node
import Mathlib.Data.List.Basic

/-!
# Leaves of failures

At the leaves of a failure are the predicates that do not hold, the missing keys and the broken
rules. Alternatives, lists of failures and casts only hold them together, so what a failure has
to say about a value is in its leaves, from left to right.
-/

namespace DataContract
namespace Failure

mutual

/-- The leaves of a failure, from left to right. -/
def leaves : Failure → List Failure
  | .predicate path name args input => [.predicate path name args input]
  | .missing path => [.missing path]
  | .either _ left right _ => left.leaves ++ right.leaves
  | .several failures => leavesOfAll failures
  | .cast inner => inner.leaves
  | .rule path text => [.rule path text]

/-- The leaves of several failures, one after another. -/
def leavesOfAll : List Failure → List Failure
  | [] => []
  | failure :: rest => failure.leaves ++ leavesOfAll rest

end

theorem leavesOfAll_eq_flatMap (failures : List Failure) :
    leavesOfAll failures = failures.flatMap leaves := by
  induction failures with
  | nil => rfl
  | cons failure rest hypothesis => rw [leavesOfAll, hypothesis, List.flatMap_cons]

/-- The leaves of a failure from further out are its leaves from further out. -/
theorem leaves_nest
    (front : Path)
    (failure : Failure) :
    (failure.nest front).leaves = failure.leaves.map (nest front) := by
  induction failure with
  | predicate path name args input => simp [nest, leaves]
  | missing path => simp [nest, leaves]
  | either path left right options leftHypothesis rightHypothesis =>
      simp [nest, leaves, leftHypothesis, rightHypothesis]
  | several failures hypothesis =>
      simp only [nest, nestAll_eq_map, leaves, leavesOfAll_eq_flatMap, List.flatMap_map,
        List.map_flatMap]
      exact List.flatMap_congr hypothesis
  | cast inner hypothesis => simpa [nest, leaves] using hypothesis
  | rule path text => simp [nest, leaves]

end Failure
end DataContract
