import DataContract.Report.Basic
import DataContract.Rule
import DataContract.Spec.Compile

/-!
# Contracts

A contract is a schema with rules and a wording. Rules are applied only to
values that satisfy the schema, and they see the validated value. A contract
answers with the validated value, or with the failure tree or the records made
from it.
-/

namespace DataContract

/-- Validate against a schema and, if that succeeds, against rules. -/
def check
    (schema : Schema)
    (rules : List Rule)
    (value : Value) : Attempt Outcome := do
  match ← schema.validate value with
  | .error failure => .ok (.error failure)
  | .ok valid => do
      let failures ← applyRules rules valid
      if failures.isEmpty then .ok (.ok valid) else .ok (.error (.several failures))

/-- Validate and report failures as records. -/
def conform
    (schema : Schema)
    (rules : List Rule)
    (backend : MessageBackend)
    (sort : Bool)
    (value : Value) : Attempt (Except (List Record) Value) := do
  match ← check schema rules value with
  | .ok valid => .ok (.ok valid)
  | .error failure => do .ok (.error (← render backend [] sort failure))

/-- A contract. -/
structure Contract where
  /-- What values are validated with. -/
  schema : Schema
  /-- What is checked once a value is valid, in this order. -/
  rules : List Rule
  /-- The words in which failures are told. -/
  backend : MessageBackend
  /-- Whether what is told is sorted by path. -/
  sortErrors : Bool

namespace Contract

/-- The rules that are given when a contract is made. -/
def givenRules (sources : List RuleSource) : Attempt (List Rule) :=
  sources.mapM fun source => source.toRule .null .always

/-- The contract of a specification with rules and a wording. -/
def make
    (compiler : Compiler)
    (spec : Spec)
    (options : CompileOptions)
    (sources : List RuleSource)
    (backend : MessageBackend) : Attempt Contract := do
  let schema ← compiler.compile spec options
  let rules ← givenRules sources
  .ok ⟨schema, rules, backend, compiler.settings.sortErrors⟩

/-- Validate a value; a failure is given as a tree. -/
def validate
    (contract : Contract)
    (value : Value) : Attempt Outcome :=
  check contract.schema contract.rules value

/-- Validate a value; a failure is given as records. The schema must be able to
show its constraints. -/
def conform
    (contract : Contract)
    (value : Value) : Attempt (Except (List Record) Value) := do
  let _ ← contract.schema.constraints
  DataContract.conform contract.schema contract.rules contract.backend contract.sortErrors value

/-- The contract with one more rule at the end. -/
def addRule
    (contract : Contract)
    (source : RuleSource)
    (name : Value)
    (guard : Guard) : Attempt Contract := do
  let rule ← source.toRule name guard
  .ok { contract with rules := contract.rules ++ [rule] }

end Contract

/-- Validate a value against a specification, compiled with the built-in types
and predicates, and against rules. -/
def conformTo
    (spec : Spec)
    (sources : List RuleSource)
    (backend : MessageBackend)
    (sort : Bool)
    (value : Value) : Attempt (Except (List Record) Value) := do
  let schema ← Compiler.standard.compile spec .none
  let rules ← Contract.givenRules sources
  conform schema rules backend sort value

end DataContract
