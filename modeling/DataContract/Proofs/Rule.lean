import DataContract.Proofs.Attempt
import DataContract.Rule

/-!
# What rules report

The failures that rules report are broken rules, at paths of segments. They are reported rule
by rule, so that nothing is reported if no rule reports anything.
-/

namespace DataContract

mutual

/-- What an answer of a rule reports are broken rules. -/
theorem Verdict.exists_rule_of_failures
    {rule : String}
    (verdict : Verdict)
    {found : List Failure}
    (answered : verdict.failures rule = .ok found) :
    ∀ failure ∈ found, ∃ path text, failure = .rule path text ∧
      ∀ segment ∈ path, segment.isSegment = true := by
  cases verdict with
  | pass =>
      cases answered
      simp
  | fail =>
      cases answered
      simp
  | message text =>
      cases answered
      simp
  | located path text =>
      rw [Verdict.failures, Verdict.failureAt] at answered
      split at answered
      · rename_i usable
        cases answered
        simpa using usable
      · cases answered
  | several answers => exact exists_rule_of_failuresOfAll answers answered
  | unsupported value => cases answered

/-- What answers of a rule report are broken rules. -/
theorem Verdict.exists_rule_of_failuresOfAll
    {rule : String}
    (verdicts : List Verdict)
    {found : List Failure}
    (answered : Verdict.failuresOfAll rule verdicts = .ok found) :
    ∀ failure ∈ found, ∃ path text, failure = .rule path text ∧
      ∀ segment ∈ path, segment.isSegment = true := by
  cases verdicts with
  | nil =>
      cases answered
      simp
  | cons verdict rest =>
      rw [Verdict.failuresOfAll] at answered
      simp only [Attempt.bind_eq_ok, Except.ok.injEq] at answered
      obtain ⟨first, made, others, remaining, rfl⟩ := answered
      rw [List.forall_mem_append]
      exact ⟨exists_rule_of_failures verdict made, exists_rule_of_failuresOfAll rest remaining⟩

end

section Rules

variable
  {rule : Rule}
  {rules : List Rule}
  {value : Value}
  {found : List Failure}

/-- What a rule reports are broken rules. -/
theorem Rule.exists_rule_of_apply
    (applied : rule.apply value = .ok found) :
    ∀ failure ∈ found, ∃ path text, failure = .rule path text ∧
      ∀ segment ∈ path, segment.isSegment = true := by
  rw [Rule.apply] at applied
  obtain ⟨applies, -, applied⟩ := Attempt.bind_eq_ok.mp applied
  split at applied
  · obtain ⟨verdict, -, answered⟩ := Attempt.bind_eq_ok.mp applied
    exact verdict.exists_rule_of_failures answered
  · cases applied
    simp

/-- What a rule reports comes before what the rules after it report. -/
theorem applyRules_cons_eq_ok :
    applyRules (rule :: rules) value = .ok found ↔
      ∃ first others, rule.apply value = .ok first ∧ applyRules rules value = .ok others ∧
        found = first ++ others := by
  simp only [applyRules, Attempt.bind_eq_ok, Except.ok.injEq]
  constructor
  · rintro ⟨first, applied, others, remaining, rfl⟩
    exact ⟨first, others, applied, remaining, rfl⟩
  · rintro ⟨first, others, applied, remaining, rfl⟩
    exact ⟨first, applied, others, remaining, rfl⟩

/-- What rules report is reported by one of them. -/
theorem exists_apply_of_mem_applyRules
    (applied : applyRules rules value = .ok found) :
    ∀ failure ∈ found, ∃ rule ∈ rules, ∃ own, rule.apply value = .ok own ∧ failure ∈ own := by
  induction rules generalizing found with
  | nil =>
      cases applied
      simp
  | cons rule rest hypothesis =>
      obtain ⟨first, others, made, remaining, rfl⟩ := applyRules_cons_eq_ok.mp applied
      rw [List.forall_mem_append]
      refine ⟨fun failure member => ⟨rule, List.mem_cons_self, first, made, member⟩, ?_⟩
      intro failure member
      obtain ⟨other, present, own, told, inside⟩ := hypothesis remaining failure member
      exact ⟨other, List.mem_cons_of_mem _ present, own, told, inside⟩

/-- Rules report nothing if none of them does. -/
theorem applyRules_eq_nil_iff :
    applyRules rules value = .ok [] ↔ ∀ rule ∈ rules, rule.apply value = .ok [] := by
  induction rules with
  | nil => simp [applyRules]
  | cons rule rest hypothesis =>
      rw [applyRules_cons_eq_ok, List.forall_mem_cons, ← hypothesis]
      constructor
      · rintro ⟨first, others, applied, remaining, empty⟩
        obtain ⟨rfl, rfl⟩ := List.append_eq_nil_iff.mp empty.symm
        exact ⟨applied, remaining⟩
      · rintro ⟨applied, remaining⟩
        exact ⟨[], [], applied, remaining, rfl⟩

end Rules

end DataContract
