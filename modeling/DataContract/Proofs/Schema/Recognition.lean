import DataContract.Proofs.Attempt
import DataContract.Proofs.Schema.Node
import DataContract.Schema.Constraint

/-!
# Recognized schemas

A schema is recognized as one by the constraints that it shows. A union shows the alternative of
its sides, and cannot if one of its options is named like a side; a cast shows what its output
shows. Whether a schema is recognized is therefore up to the options of the unions in view.
-/

namespace DataContract

namespace Schema

/-- Whether a schema is recognized as one: no union that it shows has an option that is named
like a side. -/
def IsRecognized : Schema → Prop
  | .primitive .. => True
  | .list .. => True
  | .map .. => True
  | .union left right options =>
      (∀ option ∈ options, option.1 ∉ Constraint.reservedOptions) ∧
        left.IsRecognized ∧ right.IsRecognized
  | .cast _ output _ _ => output.IsRecognized
  | .custom .. => True

/-- An alternative can be made if no option is named like a side. -/
theorem alternative_eq_ok
    {left right constraint : Constraint}
    {options : Options} :
    Constraint.alternative left right options = .ok constraint ↔
      (∀ option ∈ options, option.1 ∉ Constraint.reservedOptions) ∧
        constraint = .either left right options := by
  rw [Constraint.alternative]
  split
  · rename_i reserved
    obtain ⟨option, member, named⟩ := List.any_eq_true.mp reserved
    simp only [reduceCtorEq, false_iff, not_and]
    intro free
    exact absurd (by simpa using named) (free option member)
  · rename_i free
    simp only [Bool.not_eq_true, List.any_eq_false, List.contains_iff_mem] at free
    exact ⟨fun made => ⟨free, (Except.ok.inj made).symm⟩, fun ⟨_, same⟩ => by rw [same]⟩

/-- The schemas that are recognized are those that can show their constraints. -/
theorem exists_constraints_iff
    {schema : Schema} :
    (∃ constraint, schema.constraints = .ok constraint) ↔ schema.IsRecognized := by
  induction schema with
  | primitive tag chain => simp [constraints, IsRecognized]
  | list chain member _ => simp [constraints, IsRecognized]
  | map chain keys atomize style _ => simp [constraints, IsRecognized]
  | union left right options leftHypothesis rightHypothesis =>
      simp only [constraints, IsRecognized, ← leftHypothesis, ← rightHypothesis,
        Attempt.bind_eq_ok, alternative_eq_ok]
      constructor
      · rintro ⟨_, first, leftShown, second, rightShown, free, rfl⟩
        exact ⟨free, ⟨first, leftShown⟩, second, rightShown⟩
      · rintro ⟨free, ⟨first, leftShown⟩, second, rightShown⟩
        exact ⟨_, first, leftShown, second, rightShown, free, rfl⟩
  | cast input output caster options _ outputHypothesis =>
      simpa [constraints, IsRecognized] using outputHypothesis
  | custom type => simp [constraints, IsRecognized]

/-- What is done after a look at the constraints is done if the schema is recognized. -/
theorem constraints_bind_of_isRecognized
    {schema : Schema}
    (recognized : schema.IsRecognized)
    (next : Attempt α) :
    (do let _ ← schema.constraints; next) = next := by
  obtain ⟨constraint, shown⟩ := exists_constraints_iff.mpr recognized
  rw [shown, Attempt.ok_bind]

end Schema

end DataContract
