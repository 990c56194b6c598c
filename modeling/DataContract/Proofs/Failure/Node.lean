import DataContract.Failure
import Mathlib.Logic.Function.Basic

/-!
# Nodes of failures

A failure is a tree. Its nodes are the predicates, missing keys and broken rules
at its leaves and the alternatives that failed on both sides. A path in front of a
failure is in front of every node, and paths put there one after another are one
path; no two failures look the same from further out.
-/

namespace DataContract
namespace Failure

/-- What passes from the parts of a failure to the failure holds of all failures. -/
@[elab_as_elim, induction_eliminator] theorem induct
    {motive : Failure → Prop}
    (predicate : ∀ path name args input, motive (.predicate path name args input))
    (missing : ∀ path, motive (.missing path))
    (either : ∀ path left right options, motive left → motive right →
      motive (.either path left right options))
    (several : ∀ failures, (∀ failure ∈ failures, motive failure) →
      motive (.several failures))
    (cast : ∀ inner, motive inner → motive (.cast inner))
    (rule : ∀ path text, motive (.rule path text))
    (failure : Failure) : motive failure :=
  @Failure.rec
    motive
    (fun failures => ∀ failure ∈ failures, motive failure)
    predicate missing either several cast rule
    (fun _ absent => nomatch absent)
    (fun _ _ first others _ member => by
      rcases List.mem_cons.mp member with rfl | member
      · exact first
      · exact others _ member)
    failure

mutual

/-- The nodes of a failure, alternatives before their sides. Failures that are
listed together, or inside a cast, are nodes of what lists or wraps them. -/
def nodes : Failure → List Failure
  | .predicate path name args input => [.predicate path name args input]
  | .missing path => [.missing path]
  | .either path left right options =>
      .either path left right options :: (left.nodes ++ right.nodes)
  | .several failures => listNodes failures
  | .cast inner => inner.nodes
  | .rule path text => [.rule path text]

/-- The nodes of several failures. -/
def listNodes : List Failure → List Failure
  | [] => []
  | failure :: rest => failure.nodes ++ listNodes rest

end

attribute [local simp] nodes listNodes nest

theorem mem_listNodes
    {node : Failure}
    {failures : List Failure} :
    node ∈ listNodes failures ↔ ∃ failure ∈ failures, node ∈ failure.nodes := by
  induction failures with
  | nil => simp
  | cons failure rest hypothesis => simp [hypothesis]

@[simp] theorem nestAll_eq_map
    (front : Path)
    (failures : List Failure) :
    nestAll front failures = failures.map (nest front) := by
  induction failures with
  | nil => rfl
  | cons failure rest hypothesis => simp [nestAll, hypothesis]

/-- The nodes of a failure from further out are its nodes from further out. -/
theorem mem_nodes_nest
    {front : Path}
    {failure node : Failure} :
    node ∈ (failure.nest front).nodes ↔ ∃ inner ∈ failure.nodes, inner.nest front = node := by
  induction failure generalizing node with
  | predicate path name args input => simp [eq_comm]
  | missing path => simp [eq_comm]
  | either path left right options leftHypothesis rightHypothesis =>
      simp [leftHypothesis, rightHypothesis, or_and_right, exists_or, eq_comm]
  | several failures hypothesis =>
      simp only [nest, nestAll_eq_map, nodes, mem_listNodes, List.mem_map]
      constructor
      · rintro ⟨_, ⟨failure, member, rfl⟩, inside⟩
        obtain ⟨inner, found, same⟩ := (hypothesis failure member).mp inside
        exact ⟨inner, ⟨failure, member, found⟩, same⟩
      · rintro ⟨inner, ⟨failure, member, found⟩, same⟩
        exact ⟨_, ⟨failure, member, rfl⟩, (hypothesis failure member).mpr ⟨inner, found, same⟩⟩
  | cast inner hypothesis => simpa using hypothesis
  | rule path text => simp [eq_comm]

/-- Two paths put in front of a failure one after another are one path. -/
theorem nest_nest
    (outer inner : Path)
    (failure : Failure) :
    (failure.nest inner).nest outer = failure.nest (outer ++ inner) := by
  induction failure with
  | predicate path name args input => simp
  | missing path => simp
  | either path left right options leftHypothesis rightHypothesis =>
      simp [leftHypothesis, rightHypothesis]
  | several failures hypothesis => simpa using hypothesis
  | cast inner hypothesis => simp [hypothesis]
  | rule path text => simp

/-- With nothing in front of it a failure stays as it is. -/
@[simp] theorem nest_nil (failure : Failure) : failure.nest [] = failure := by
  induction failure with
  | predicate path name args input => simp
  | missing path => simp
  | either path left right options leftHypothesis rightHypothesis =>
      simp [leftHypothesis, rightHypothesis]
  | several failures hypothesis =>
      simp only [nest, nestAll_eq_map, several.injEq]
      exact (List.map_congr_left hypothesis).trans (List.map_id' failures)
  | cast inner hypothesis => simp [hypothesis]
  | rule path text => simp

/-- Different failures stay different from further out. -/
theorem nest_injective (front : Path) : Function.Injective (nest front) := by
  intro first
  induction first with
  | predicate path name args input =>
      intro second same
      cases second <;> simp_all
  | missing path =>
      intro second same
      cases second <;> simp_all
  | either path left right options leftHypothesis rightHypothesis =>
      intro second same
      cases second with
      | either path' left' right' options' =>
          simp only [nest, either.injEq, List.append_cancel_left_eq] at same
          obtain ⟨rfl, sameLeft, sameRight, rfl⟩ := same
          rw [leftHypothesis sameLeft, rightHypothesis sameRight]
      | _ => simp at same
  | several failures hypothesis =>
      intro second same
      cases second with
      | several others =>
          simp only [nest, nestAll_eq_map, several.injEq] at same ⊢
          induction failures generalizing others with
          | nil => exact (List.map_eq_nil_iff.mp same.symm).symm
          | cons failure rest remaining =>
              cases others with
              | nil => simp at same
              | cons other others =>
                  simp only [List.map_cons, List.cons.injEq] at same ⊢
                  refine ⟨hypothesis failure List.mem_cons_self same.1, ?_⟩
                  exact remaining
                    (fun inner member => hypothesis inner (List.mem_cons_of_mem _ member))
                    others same.2
      | _ => simp at same
  | cast inner hypothesis =>
      intro second same
      cases second with
      | cast other =>
          simp only [nest, cast.injEq] at same
          rw [hypothesis same]
      | _ => simp at same
  | rule path text =>
      intro second same
      cases second <;> simp_all

end Failure
end DataContract
