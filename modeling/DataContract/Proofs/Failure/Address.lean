import DataContract.Proofs.Failure.Node

/-!
# Addresses in failures

The parts of a failure are the two alternatives, the failures that are listed and the inside of
a cast, in their order. An address is a list of indices of parts, one for each level, and leads
from the root of a failure down to one node. What nodes say at all addresses determines the
failure, so how a path is put in front of a failure can be told node by node.
-/

namespace DataContract
namespace Failure

/-- What a failure says at its root besides its path: its kind and its content. -/
inductive Label
  | predicate
      (name : String)
      (args : List Value)
      (input : Value)
  | missing
  | either (options : Options)
  | several
  | cast
  | rule (text : String)

/-- The kind of a failure and its content, without its path and its parts. -/
def label : Failure → Label
  | .predicate _ name args input => .predicate name args input
  | .missing _ => .missing
  | .either _ _ _ options => .either options
  | .several _ => .several
  | .cast _ => .cast
  | .rule _ text => .rule text

/-- The path that a failure has at its root. Lists of failures and casts have none. -/
def path? : Failure → Option Path
  | .predicate path _ _ _ => some path
  | .missing path => some path
  | .either path _ _ _ => some path
  | .several _ => none
  | .cast _ => none
  | .rule path _ => some path

/-- The failures directly below the root of a failure, in their order. -/
def parts : Failure → List Failure
  | .predicate .. => []
  | .missing _ => []
  | .either _ left right _ => [left, right]
  | .several failures => failures
  | .cast inner => [inner]
  | .rule .. => []

/-- A failure is known by its root and its parts. -/
theorem eq_of_root
    {failure other : Failure}
    (sameLabel : failure.label = other.label)
    (samePath : failure.path? = other.path?)
    (sameParts : failure.parts = other.parts) :
    failure = other := by
  cases failure <;> cases other <;> simp_all [label, path?, parts]

/-- What passes from the parts of a failure to the failure holds of all failures. -/
theorem induct_parts
    {motive : Failure → Prop}
    (step : ∀ failure, (∀ part ∈ failure.parts, motive part) → motive failure)
    (failure : Failure) : motive failure := by
  induction failure with
  | predicate path name args input => exact step _ (by simp [parts])
  | missing path => exact step _ (by simp [parts])
  | either path left right options leftHypothesis rightHypothesis =>
      exact step _ (by simp [parts, leftHypothesis, rightHypothesis])
  | several failures hypothesis => exact step _ hypothesis
  | cast inner hypothesis => exact step _ (by simp [parts, hypothesis])
  | rule path text => exact step _ (by simp [parts])

/-! ## Nodes at addresses -/

/-- The node of a failure at an address, if there is one. -/
def at? : Failure → List Nat → Option Failure
  | failure, [] => some failure
  | failure, index :: rest => failure.parts[index]?.bind fun part => part.at? rest

@[simp] theorem at?_nil (failure : Failure) : failure.at? [] = some failure := rfl

@[simp] theorem at?_cons
    (failure : Failure)
    (index : Nat)
    (rest : List Nat) :
    failure.at? (index :: rest) = failure.parts[index]?.bind fun part => part.at? rest := rfl

/-- A failure is known by what its nodes say at all addresses. -/
theorem eq_of_at?
    {failure other : Failure}
    (labels : ∀ address, (failure.at? address).map label = (other.at? address).map label)
    (paths : ∀ address, (failure.at? address).map path? = (other.at? address).map path?) :
    failure = other := by
  induction failure using induct_parts generalizing other with
  | step failure hypothesis =>
      apply eq_of_root
      · simpa using labels []
      · simpa using paths []
      · apply List.ext_getElem?
        intro index
        have labelsBelow := fun rest => labels (index :: rest)
        have pathsBelow := fun rest => paths (index :: rest)
        simp only [at?_cons] at labelsBelow pathsBelow
        cases found : failure.parts[index]? with
        | none =>
            cases faced : other.parts[index]? with
            | none => rfl
            | some face => simpa [found, faced] using labelsBelow []
        | some part =>
            cases faced : other.parts[index]? with
            | none => simpa [found, faced] using labelsBelow []
            | some face =>
                simp only [found, faced, Option.bind_some] at labelsBelow pathsBelow
                rw [hypothesis part (List.mem_of_getElem? found) labelsBelow pathsBelow]

/-! ## Nodes from further out -/

/-- Whether a failure is another one seen from further out, as their nodes tell: at every
address both have a node or neither has, of one kind and with the same content, and where the
node has a path, the front was put before it once. -/
def IsSeenFrom
    (front : Path)
    (failure other : Failure) : Prop :=
  ∀ address,
    (other.at? address).map label = (failure.at? address).map label ∧
      (other.at? address).map path? =
        (failure.at? address).map fun node => node.path?.map (front ++ ·)

section FurtherOut

variable
  (front : Path)
  (failure : Failure)

@[simp] theorem label_nest : (failure.nest front).label = failure.label := by
  cases failure <;> rfl

@[simp] theorem path?_nest : (failure.nest front).path? = failure.path?.map (front ++ ·) := by
  cases failure <;> rfl

@[simp] theorem parts_nest : (failure.nest front).parts = failure.parts.map (nest front) := by
  cases failure with
  | several failures => exact nestAll_eq_map front failures
  | _ => rfl

/-- The nodes of a failure stay at their addresses and are seen from further out themselves. -/
theorem at?_nest (address : List Nat) :
    (failure.nest front).at? address = (failure.at? address).map (nest front) := by
  induction address generalizing failure with
  | nil => rfl
  | cons index rest hypothesis =>
      rw [at?_cons, at?_cons, parts_nest, List.getElem?_map]
      cases failure.parts[index]? with
      | none => rfl
      | some part => exact hypothesis part

example :
    ((Failure.either [] (.several [.missing [.text "a"]]) (.cast (.rule [] "b")) []).nest
      [.int 3]).at? [0, 0] = some (.missing [.int 3, .text "a"]) := rfl

/-- A path put in front of a failure shows at its nodes. -/
theorem isSeenFrom_nest : IsSeenFrom front failure (failure.nest front) := by
  intro address
  simp only [at?_nest, Option.map_map, Function.comp_def, label_nest, path?_nest, true_and]

/-- Only one failure is a given one seen from further out. -/
theorem isSeenFrom_iff (other : Failure) :
    IsSeenFrom front failure other ↔ other = failure.nest front := by
  constructor
  · intro seen
    have expected := isSeenFrom_nest front failure
    apply eq_of_at?
    · exact fun address => (seen address).1.trans (expected address).1.symm
    · exact fun address => (seen address).2.trans (expected address).2.symm
  · rintro rfl
    exact isSeenFrom_nest front failure

end FurtherOut

/-- Paths act on failures: the empty path changes nothing, and two paths put in front of a
failure one after another are one path. Each of them comes once before the path of every node,
wherever the node lies, and nothing else changes: the result is the only failure of which the
nodes tell this. An outcome that is a failure becomes that result. -/
theorem nest_isAction (failure : Failure) :
    failure.nest [] = failure ∧
      (∀ inner outer, (failure.nest inner).nest outer = failure.nest (outer ++ inner)) ∧
      ∀ front other,
        (other = failure.nest front ↔ IsSeenFrom front failure other) ∧
          (Outcome.nest front (.error failure) = .error other ↔
            IsSeenFrom front failure other) := by
  refine ⟨nest_nil failure, fun inner outer => nest_nest outer inner failure, ?_⟩
  intro front other
  have seen := isSeenFrom_iff front failure other
  constructor
  · exact seen.symm
  · rw [seen, Outcome.nest, Except.error.injEq, eq_comm]

end Failure
end DataContract
