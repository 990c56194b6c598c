import DataContract.Proofs.Schema.Constraining
import DataContract.Proofs.Spec.Invariant

/-!
# Nodes that check types first

Every primitive, list and map that is compiled begins with the type check of its tag, taken
from the registry of the compiler, and predicates that are added later come after it. What
is known about the type checks of a registry is therefore known about the nodes of all
schemas that are compiled with it. The keys of compiled maps are declared.
-/

namespace DataContract

/-- The predicate for a tag is called the type check. -/
theorem PredicateRegistry.name_of_typeCheck
    {registry : PredicateRegistry}
    {tag : Tag}
    {predicate : Predicate}
    (checked : registry.typeCheck tag = .ok predicate) :
    predicate.name = Failure.typePredicate := by
  obtain ⟨function, -, made⟩ := Attempt.bind_eq_ok.mp checked
  cases made
  rfl

namespace Schema

variable {isCheck : Tag → Predicate → Prop}

/-- Whether a chain begins with a type check of a tag. -/
def BeginsWith
    (isCheck : Tag → Predicate → Prop)
    (tag : Tag)
    (chain : List Predicate) : Prop :=
  ∃ isType extra, chain = isType :: extra ∧ isCheck tag isType

/-- Whether a node checks the type of a value first. The keys of a map must be declared. -/
def ChecksFirst (isCheck : Tag → Predicate → Prop) : Schema → Prop
  | .primitive tag chain => BeginsWith isCheck tag chain
  | .list chain _ => BeginsWith isCheck .list chain
  | .map chain keys atomize style =>
      BeginsWith isCheck .map chain ∧ Key.AreDeclared keys atomize style
  | _ => True

/-- Further predicates come after the type check. -/
theorem BeginsWith.append
    {tag : Tag}
    {chain : List Predicate}
    (begins : BeginsWith isCheck tag chain)
    (extra : List Predicate) :
    BeginsWith isCheck tag (chain ++ extra) := by
  obtain ⟨isType, rest, rfl, checks⟩ := begins
  exact ⟨isType, rest ++ extra, rfl, checks⟩

/-- Constrained schemas check types first as before. -/
theorem checksFirst_of_constrain
    {schema constrained : Schema}
    {extra : List Predicate}
    (checks : ∀ node ∈ schema.nodes, node.ChecksFirst isCheck)
    (made : schema.constrain extra = .ok constrained) :
    ∀ node ∈ constrained.nodes, node.ChecksFirst isCheck := by
  induction schema generalizing constrained with
  | primitive tag chain =>
      cases made
      have begins : BeginsWith isCheck tag chain := checks _ (mem_nodes_self _)
      simpa [nodes, ChecksFirst] using begins.append extra
  | list chain member _ =>
      cases made
      rw [forall_nodes_list] at checks ⊢
      exact ⟨checks.1.append extra, checks.2⟩
  | map chain keys atomize style _ =>
      cases made
      rw [forall_nodes_map] at checks ⊢
      exact ⟨⟨checks.1.1.append extra, checks.1.2⟩, checks.2⟩
  | union left right options leftHypothesis rightHypothesis =>
      obtain ⟨first, second, leftMade, rightMade, rfl⟩ := constrain_union_eq_ok.mp made
      rw [forall_nodes_union] at checks ⊢
      exact ⟨trivial, leftHypothesis checks.2.1 leftMade, rightHypothesis checks.2.2 rightMade⟩
  | cast input output caster options _ outputHypothesis =>
      obtain ⟨second, outputMade, rfl⟩ := constrain_cast_eq_ok.mp made
      rw [forall_nodes_cast] at checks ⊢
      exact ⟨trivial, checks.2.1, outputHypothesis checks.2.2 outputMade⟩
  | custom type =>
      rcases constrain_custom_eq_ok.mp made with ⟨-, rfl⟩ | ⟨-, other, -, rfl⟩ <;>
        simp [nodes, ChecksFirst]

/-- A compiler makes nodes that begin with the type checks of its registry. -/
theorem keeps_checksFirst
    {compiler : Compiler}
    (checks : ∀ tag isType, compiler.predicates.typeCheck tag = .ok isType →
      isCheck tag isType) :
    compiler.Keeps fun schema => ∀ node ∈ schema.nodes, node.ChecksFirst isCheck where
  primitive tag isType extra made := by
    have begins : BeginsWith isCheck tag (isType :: extra) :=
      ⟨isType, extra, rfl, checks tag isType made⟩
    simpa [nodes, ChecksFirst] using begins
  list isType extra member made memberChecks := by
    rw [forall_nodes_list]
    exact ⟨⟨isType, extra, rfl, checks .list isType made⟩, memberChecks⟩
  map isType extra keys atomize style made declared keysCheck := by
    rw [forall_nodes_map]
    exact ⟨⟨⟨isType, extra, rfl, checks .map isType made⟩, declared⟩, keysCheck⟩
  union left right options leftChecks rightChecks := by
    rw [forall_nodes_union]
    exact ⟨trivial, leftChecks, rightChecks⟩
  cast input output caster options inputChecks outputChecks := by
    rw [forall_nodes_cast]
    exact ⟨trivial, inputChecks, outputChecks⟩
  constrain _ _ _ before made := checksFirst_of_constrain before made

/-- All nodes of a compiled schema begin with type checks of the registries that it was
compiled with. -/
theorem IsCompiled.checksFirst
    {allowed : PredicateRegistry → Prop}
    (checks : ∀ registry, allowed registry → ∀ tag isType,
      registry.typeCheck tag = .ok isType → isCheck tag isType)
    {schema : Schema}
    (compiled : schema.IsCompiled allowed) :
    ∀ node ∈ schema.nodes, node.ChecksFirst isCheck :=
  compiled.holds
    (fun compiler permitted => keeps_checksFirst (checks compiler.predicates permitted))
    (fun _ _ _ before made => checksFirst_of_constrain before made)

/-- What is compiled with the built-in types and predicates, without anything that was
compiled before, is compiled with the registry that everything starts from. -/
theorem isCompiled_of_standard
    {allowed : PredicateRegistry → Prop}
    (permitted : allowed .standard)
    {spec : Spec}
    {options : CompileOptions}
    {schema : Schema}
    (plain : spec.embedded = [])
    (compiled : Compiler.standard.compile spec options = .ok schema) :
    schema.IsCompiled allowed := by
  refine .compile .standard spec options schema permitted ?_ ?_ compiled
  · simp [Compiler.standard, TypeRegistry.standard, TypeRegistry.numberDefinition,
      Spec.embedded, Spec.listEmbedded, Spec.entriesEmbedded]
  · rw [plain]
    exact fun part absent => nomatch absent

end Schema
end DataContract
