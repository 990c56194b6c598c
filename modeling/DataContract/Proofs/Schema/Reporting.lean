import DataContract.Proofs.Schema.Report

/-!
# What all reported failures have in common

The failures that a schema reports are put together in a few ways: a predicate does not hold, a
key is missing, a custom schema fails, and lists, maps, unions and casts pass on
what their parts report. A property that comes about and is passed on in all of these ways is
one of every failure that the schema reports.
-/

namespace DataContract

/-- A property of failures that lists of failures, the items of lists and casts pass on. -/
structure Failure.IsPassedOn (property : Failure → Prop) : Prop where
  /-- Items of lists pass it on. -/
  item : ∀ (index : Nat) (inner : Failure), property inner → property (inner.nest [.int index])
  /-- Lists of failures pass it on. -/
  several : ∀ failures, failures ≠ [] → (∀ inner ∈ failures, property inner) →
    property (.several failures)
  /-- Casts pass it on. -/
  cast : ∀ inner, property inner → property (.cast inner)

/-- Collected reports fail with their failures, of which there is at least one. -/
theorem Parts.holds_of_outcome
    {property : Failure → Prop}
    (passed : Failure.IsPassedOn property)
    {reports : List (Except Failure α)}
    {whole : List α → Value}
    {failure : Failure}
    (each : ∀ inner, .error inner ∈ reports → property inner)
    (failed : (collect reports).outcome whole = .error failure) :
    property failure := by
  obtain rfl := outcome_collect_eq_error failed
  refine passed.several _ ?_ fun inner member => each inner (mem_failures_collect.mp member)
  intro none
  simp [outcome, none] at failed

namespace Schema

/-- Whether what a node has to say itself about a value has a property, and the node passes the
property on. -/
structure Reports
    (property : Failure → Prop)
    (node : Schema) : Prop where
  /-- The failures of its predicates have it. -/
  predicate : ∀ predicate ∈ node.chain, ∀ value, property (predicate.failure value)
  /-- The failures of its missing keys have it. -/
  missing : ∀ key ∈ node.keys, property (.missing [key.name])
  /-- Its keys pass it on. -/
  entry : ∀ key ∈ node.keys, ∀ inner, property inner → property (inner.nest [key.name])
  /-- Its sides pass it on, if it is a union. -/
  either : ∀ left right options, node = .union left right options →
    ∀ first second, property first → property second →
      property (.either [] first second options)
  /-- What it reports has it, if it is a custom type. -/
  custom : ∀ type, node = .custom type →
    ∀ value failure, type.now.validate value = .ok (.error failure) → property failure

section Failed

variable
  {property : Failure → Prop}
  {node : Schema}

theorem Reports.of_checkChain
    (reports : node.Reports property)
    {value : Value}
    {failure : Failure}
    (failed : checkChain node.chain value = .ok (.error failure)) :
    property failure := by
  obtain ⟨before, predicate, after, split, -, -, rfl⟩ := exists_of_checkChain_failed failed
  exact reports.predicate predicate (by simp [split]) value

/-- What all nodes report and pass on is reported by the schema. -/
theorem holds_of_validate_failed
    (passed : Failure.IsPassedOn property)
    {schema : Schema}
    (reports : ∀ node ∈ schema.nodes, node.Reports property)
    {value : Value}
    {failure : Failure}
    (failed : schema.validate value = .ok (.error failure)) :
    property failure := by
  induction schema generalizing value failure with
  | primitive tag chain => exact (reports _ (mem_nodes_self _)).of_checkChain failed
  | list chain member hypothesis =>
      rw [forall_nodes_list] at reports
      obtain ⟨own, inner⟩ := reports
      rcases validate_list_eq_ok.mp failed with
        ⟨reported, stopped, same⟩ | ⟨-, items, outcomes, -, each, whole⟩
      · cases same
        exact own.of_checkChain stopped
      · refine Parts.holds_of_outcome passed (fun _ reported => ?_) whole.symm
        obtain ⟨index, item, failure, -, validated, rfl⟩ :=
          exists_item_of_itemReports each reported
        exact passed.item _ failure (hypothesis inner validated)
  | map chain keys atomize style hypothesis =>
      rw [forall_nodes_map] at reports
      obtain ⟨own, inner⟩ := reports
      rcases validate_map_eq_ok.mp failed with ⟨reported, stopped, same⟩ | ⟨-, answered⟩
      · cases same
        exact own.of_checkChain stopped
      · obtain ⟨data, outcomes, -, each, whole⟩ := keysOutcome_eq_ok.mp answered
        refine Parts.holds_of_outcome passed (fun _ reported => ?_) whole.symm
        obtain ⟨key, member, report⟩ :=
          Attempt.exists_item_of_mem each (by simpa using reported)
        rcases Key.report_eq_failed.mp report with
          ⟨-, -, rfl⟩ | ⟨part, failure, -, validated, rfl⟩
        · exact own.missing key member
        · exact own.entry key member failure (hypothesis key member (inner key member) validated)
  | union left right options leftHypothesis rightHypothesis =>
      rw [forall_nodes_union] at reports
      obtain ⟨own, ofLeft, ofRight⟩ := reports
      rcases validate_union_eq_ok.mp failed with
        ⟨accepted, -, same⟩ | ⟨first, firstFailed, ⟨-, same⟩ | ⟨-, second⟩⟩
      · cases same
      · cases same
        exact leftHypothesis ofLeft firstFailed
      · rcases second with ⟨accepted, -, same⟩ | ⟨other, otherFailed, same⟩
        · cases same
        · cases same
          exact own.either left right options rfl first other
            (leftHypothesis ofLeft firstFailed) (rightHypothesis ofRight otherFailed)
  | cast input output caster options inputHypothesis outputHypothesis =>
      rw [forall_nodes_cast] at reports
      obtain ⟨-, ofInput, ofOutput⟩ := reports
      rcases validate_cast_eq_ok.mp failed with
        ⟨inner, stopped, same⟩ | ⟨accepted, given, -, -, answered⟩
      · cases same
        exact passed.cast inner (inputHypothesis ofInput stopped)
      · exact outputHypothesis ofOutput answered
  | custom type => exact (reports _ (mem_nodes_self _)).custom type rfl value failure failed

end Failed

end Schema
end DataContract
