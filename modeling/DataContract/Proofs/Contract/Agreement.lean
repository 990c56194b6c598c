import DataContract.Contract
import DataContract.Proofs.Predicate.TypeCheck
import DataContract.Proofs.Report.Listing
import DataContract.Proofs.Report.Order
import DataContract.Proofs.Rule
import DataContract.Proofs.Schema.Reporting

/-!
# The two answers of a contract

A contract answers with a failure tree or with the records made from it. The two answers
agree, and a rejected value comes with at least one record: every failure that validation
or a rule reports has a leaf, because failures are listed together only if there are any.
Rules have no say about values that the schema rejects, and can only reject the others.
-/

namespace DataContract

/-! ## Failures have leaves -/

/-- A failure that has a node has one from further out. -/
theorem Failure.nodes_nest_ne_nil
    {front : Path}
    {failure : Failure}
    (present : failure.nodes ≠ []) :
    (failure.nest front).nodes ≠ [] := by
  obtain ⟨node, member⟩ := List.exists_mem_of_ne_nil _ present
  exact List.ne_nil_of_mem (mem_nodes_nest.mpr ⟨node, member, rfl⟩)

/-- Failures that are listed together have a node if one of them has. -/
theorem Failure.nodes_several_ne_nil
    {failure : Failure}
    {failures : List Failure}
    (member : failure ∈ failures)
    (present : failure.nodes ≠ []) :
    (Failure.several failures).nodes ≠ [] := by
  obtain ⟨node, inside⟩ := List.exists_mem_of_ne_nil _ present
  exact List.ne_nil_of_mem (mem_listNodes.mpr ⟨failure, member, inside⟩)

/-- Having a leaf is passed on. -/
theorem Failure.isPassedOn_nodes_ne_nil : IsPassedOn fun failure => failure.nodes ≠ [] where
  item index inner present := nodes_nest_ne_nil present
  several failures some each := by
    obtain ⟨inner, member⟩ := List.exists_mem_of_ne_nil _ some
    exact nodes_several_ne_nil member (each inner member)
  cast inner present := by rwa [nodes]

namespace Schema

/-- Whether a custom schema never fails with nothing but empty lists of failures. -/
def NamesFailures : Schema → Prop
  | .custom type => ∀ value failure, type.now.validate value = .ok (.error failure) →
      failure.nodes ≠ []
  | _ => True

/-- Every failure of validation has a leaf. -/
theorem nodes_ne_nil_of_validate
    {schema : Schema}
    (named : ∀ node ∈ schema.nodes, node.NamesFailures)
    {value : Value}
    {failure : Failure}
    (failed : schema.validate value = .ok (.error failure)) :
    failure.nodes ≠ [] := by
  refine holds_of_validate_failed Failure.isPassedOn_nodes_ne_nil (fun node member => ?_) failed
  constructor
  · simp [Predicate.failure, Failure.nodes]
  · simp [Failure.nodes]
  · exact fun key _ inner present => Failure.nodes_nest_ne_nil present
  · simp [Failure.nodes]
  · rintro type rfl
    exact named _ member

end Schema

/-! ## Contracts -/

section Answers

variable
  {schema : Schema}
  {rules : List Rule}
  {value : Value}

/-- What the schema rejects is rejected with the same failure, whatever the rules. -/
theorem check_of_rejected
    {failure : Failure}
    (rejected : schema.validate value = .ok (.error failure))
    (rules : List Rule) :
    check schema rules value = .ok (.error failure) := by
  rw [check, rejected]
  rfl

/-- What the schema accepts is accepted as it is if no rule reports anything. -/
theorem check_of_accepted
    {output valid : Value}
    (accepted : schema.validate value = .ok (.ok output)) :
    check schema rules value = .ok (.ok valid) ↔
      valid = output ∧ ∀ rule ∈ rules, rule.apply output = .ok [] := by
  rw [check, accepted, Attempt.ok_bind, ← applyRules_eq_nil_iff]
  cases applied : applyRules rules output with
  | error fault => simp [applied]
  | ok failures =>
      cases failures with
      | nil => simp [applied, @eq_comm Value output]
      | cons failure rest => simp [applied]

/-- What rules report has leaves. -/
theorem nodes_ne_nil_of_applyRules
    {found : List Failure}
    (applied : applyRules rules value = .ok found) :
    ∀ failure ∈ found, failure.nodes ≠ [] := by
  intro failure member
  obtain ⟨rule, -, own, told, inside⟩ := exists_apply_of_mem_applyRules applied failure member
  obtain ⟨path, text, rfl, -⟩ := rule.exists_rule_of_apply told failure inside
  simp [Failure.nodes]

/-- The failures of a contract have leaves if those of its schema have. -/
theorem nodes_ne_nil_of_check
    (named : ∀ node ∈ schema.nodes, node.NamesFailures)
    {failure : Failure}
    (failed : check schema rules value = .ok (.error failure)) :
    failure.nodes ≠ [] := by
  rw [check] at failed
  obtain ⟨outcome, validated, failed⟩ := Attempt.bind_eq_ok.mp failed
  cases outcome with
  | error reported =>
      cases failed
      exact Schema.nodes_ne_nil_of_validate named validated
  | ok valid =>
      obtain ⟨failures, applied, failed⟩ := Attempt.bind_eq_ok.mp failed
      cases failures with
      | nil => simp at failed
      | cons first rest =>
          obtain rfl : Failure.several (first :: rest) = failure := by simpa using failed
          exact Failure.nodes_several_ne_nil List.mem_cons_self
            (nodes_ne_nil_of_applyRules applied first List.mem_cons_self)

/-- A report is the validated value, or the records of the failure. -/
theorem conform_eq_ok
    {backend : MessageBackend}
    {sort : Bool}
    {reported : Except (List Record) Value} :
    conform schema rules backend sort value = .ok reported ↔
      (∃ valid, check schema rules value = .ok (.ok valid) ∧ reported = .ok valid) ∨
      ∃ failure found, check schema rules value = .ok (.error failure) ∧
        render backend [] sort failure = .ok found ∧ reported = .error found := by
  rw [conform]
  cases checked : check schema rules value with
  | error fault => simp
  | ok outcome =>
      cases outcome with
      | ok valid => simp [eq_comm]
      | error failure =>
          simp [Attempt.bind_eq_ok, @eq_comm (Except (List Record) Value) reported]

/-- A failure with a leaf has a record. -/
theorem render_ne_nil
    {backend : MessageBackend}
    {front : Path}
    {sort : Bool}
    {failure : Failure}
    {found : List Record}
    (present : failure.nodes ≠ [])
    (rendered : render backend front sort failure = .ok found) :
    found ≠ [] := by
  obtain ⟨emitted, made, -, same⟩ := render_eq_ok.mp rendered
  have listed : failure.listing ≠ [] := (Failure.listing_eq_nil_iff failure).not.mpr present
  have some : emitted ≠ [] := by
    rw [← List.length_pos_iff, length_records made]
    exact List.length_pos_iff.mpr listed
  cases sort with
  | false => exact same.symm ▸ some
  | true =>
      rintro rfl
      exact some (List.nil_perm.mp ((show [] = sortRecords emitted from same) ▸
        sortRecords_perm emitted))

end Answers

namespace Contract

/-- A report of a contract is one about its schema and rules. -/
theorem conform_of_conform
    {contract : Contract}
    {value : Value}
    {reported : Except (List Record) Value}
    (answered : contract.conform value = .ok reported) :
    DataContract.conform contract.schema contract.rules contract.backend contract.sortErrors
      value = .ok reported := by
  obtain ⟨-, -, answered⟩ := Attempt.bind_eq_ok.mp answered
  exact answered

/-- A rule for members who are not of age. -/
def adults : Rule where
  name := "adults"
  guard := .always
  body
    | .map [(_, .int age)] =>
        .ok (if age < 18 then .located [.text "age"] "must be of age" else .pass)
    | _ => .ok .fail

/-- A contract about the age of a member. -/
def membership : Contract where
  schema :=
    .map [.typeCheck .map]
      [.mk [] (.text "age") .required (.primitive .integer [.typeCheck .integer]) false]
      false .camel
  rules := [adults]
  backend := .default
  sortErrors := true

end Contract
end DataContract
