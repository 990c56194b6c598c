import DataContract.Proofs.Failure.Leaf

/-!
# Where nodes lie

Casts and alternatives are around the failures inside them, while a list of failures only lays
them one after another. What is around a node tells how its record is marked: a cast marks
everything inside it up to the sides of the next alternatives.
-/

namespace DataContract

/-- What can be around a failure, besides the failures that are listed with it. -/
inductive Enclosure
  | cast
  | union
  deriving DecidableEq, Repr

namespace Failure

/-- A node of a failure and what is around it, from the innermost to the outermost. -/
structure Site where
  /-- What is around the node, innermost first. -/
  around : List Enclosure
  /-- The node. -/
  node : Failure

/-- Whether a node lies in a cast, with no alternatives in between. -/
def Site.IsInCast (site : Site) : Prop :=
  ∃ between outer, site.around = between ++ .cast :: outer ∧ .union ∉ between

/-- A node lies in a cast if nothing else comes between the two. -/
theorem Site.isInCast_iff (site : Site) :
    site.IsInCast ↔ site.around.head? = some .cast := by
  obtain ⟨around, node⟩ := site
  constructor
  · rintro ⟨between, outer, same, apart⟩
    cases between with
    | nil => simp [show around = .cast :: outer from same]
    | cons first rest =>
        have cast : first = .cast := by
          cases first with
          | cast => rfl
          | union => simp at apart
        simp [show around = first :: rest ++ .cast :: outer from same, cast]
  · intro innermost
    obtain ⟨outer, same⟩ := List.head?_eq_some_iff.mp innermost
    exact ⟨[], outer, same, by simp⟩

mutual

/-- The nodes of a failure where they lie, alternatives before their sides, for a failure with
something around it. -/
def sites (around : List Enclosure) : Failure → List Site
  | .predicate path name args input => [⟨around, .predicate path name args input⟩]
  | .missing path => [⟨around, .missing path⟩]
  | .either path left right options =>
      ⟨around, .either path left right options⟩ ::
        (left.sites (.union :: around) ++ right.sites (.union :: around))
  | .several failures => sitesOfAll around failures
  | .cast inner => inner.sites (.cast :: around)
  | .rule path text => [⟨around, .rule path text⟩]

/-- The nodes of several failures where they lie, one failure after another. -/
def sitesOfAll (around : List Enclosure) : List Failure → List Site
  | [] => []
  | failure :: rest => failure.sites around ++ sitesOfAll around rest

end

theorem sitesOfAll_eq_flatMap
    (around : List Enclosure)
    (failures : List Failure) :
    sitesOfAll around failures = failures.flatMap (sites around) := by
  induction failures with
  | nil => rfl
  | cons failure rest hypothesis => rw [sitesOfAll, hypothesis, List.flatMap_cons]

/-- Whether a failure is a leaf. -/
def isLeaf : Failure → Bool
  | .predicate .. => true
  | .missing _ => true
  | .rule .. => true
  | .either .. => false
  | .several _ => false
  | .cast _ => false

/-- The leaves of a failure where they lie, from left to right. -/
def leafSites
    (around : List Enclosure)
    (failure : Failure) : List Site :=
  (failure.sites around).filter (·.node.isLeaf)

/-- The leaves of alternatives lie in the one side and in the other. -/
theorem leafSites_either
    (around : List Enclosure)
    (path : Path)
    (left right : Failure)
    (options : Options) :
    (Failure.either path left right options).leafSites around =
      left.leafSites (.union :: around) ++ right.leafSites (.union :: around) := by
  rw [leafSites, sites, List.filter_cons_of_neg (by simp [isLeaf]), List.filter_append]
  rfl

/-- The nodes that lie somewhere in a failure are its nodes. -/
theorem map_node_sites
    (around : List Enclosure)
    (failure : Failure) :
    (failure.sites around).map Site.node = failure.nodes := by
  induction failure generalizing around with
  | predicate path name args input => rfl
  | missing path => rfl
  | either path left right options leftHypothesis rightHypothesis =>
      simp [sites, nodes, leftHypothesis, rightHypothesis]
  | several failures hypothesis =>
      rw [sites, nodes]
      induction failures with
      | nil => rfl
      | cons failure rest remaining =>
          rw [List.forall_mem_cons] at hypothesis
          rw [sitesOfAll, listNodes, List.map_append, hypothesis.1, remaining hypothesis.2]
  | cast inner hypothesis => rw [sites, nodes, hypothesis]
  | rule path text => rfl

/-- The leaves that lie somewhere in a failure are its leaves. -/
theorem map_node_leafSites
    (around : List Enclosure)
    (failure : Failure) :
    (failure.leafSites around).map Site.node = failure.leaves := by
  induction failure generalizing around with
  | predicate path name args input => rfl
  | missing path => rfl
  | either path left right options leftHypothesis rightHypothesis =>
      rw [leafSites_either, List.map_append, leftHypothesis, rightHypothesis, leaves]
  | several failures hypothesis =>
      rw [leafSites, sites, leaves, sitesOfAll_eq_flatMap, leavesOfAll_eq_flatMap,
        List.filter_flatMap, List.map_flatMap]
      exact List.flatMap_congr fun failure member => hypothesis failure member around
  | cast inner hypothesis => exact hypothesis (.cast :: around)
  | rule path text => rfl

end Failure
end DataContract
