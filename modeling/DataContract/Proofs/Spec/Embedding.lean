import DataContract.Contract
import DataContract.Proofs.Schema.Recognition
import DataContract.Proofs.Spec.Context

/-!
# Compiled schemas in specifications

A compiled schema that is recognized as one stands for itself wherever a specification is
expected: what is compiled around it has this very schema at its place. A schema that is not
recognized still validates values, but nothing that asks for a specification takes it.
-/

namespace DataContract

namespace Compiler

/-- A compiled schema is compiled to itself if it is recognized. -/
theorem compileSpec_compiled_eq_ok
    {compiler : Compiler}
    {types : List (String × Spec)}
    {scope : Scope}
    {root : Path}
    {type schema : Schema} :
    compileSpec compiler types scope root (.compiled type) = .ok schema ↔
      type.IsRecognized ∧ schema = type := by
  rw [compileSpec, Attempt.bind_eq_ok, ← Schema.exists_constraints_iff, exists_and_right]
  simp [eq_comm]

/-- A recognized schema is compiled to itself, takes every place in which a specification is
compiled, with the same tag if a cast looks at it, and is taken as it is by contracts and for
single values. A schema that is not recognized has no place in any specification that is
compiled; one that is recognized stands at its place unchanged. -/
theorem compiled_in_place (type : Schema) :
    (type.IsRecognized →
      (∀ compiler : Compiler, ∀ options, compiler.compile (.compiled type) options = .ok type) ∧
      (∀ compiler : Compiler, ∀ options frames filler whole part,
        compiler.compile (SpecFrame.fillAll frames filler) options = .ok whole →
        whole.at? (SpecFrame.allSteps frames) = some part →
        (SpecFrame.someReadsTag frames = true → type.tag = part.tag) →
          ∃ made, compiler.compile (SpecFrame.fillAll frames (.compiled type)) options =
            .ok made) ∧
      (∀ compiler options sources backend,
        Contract.make compiler (.compiled type) options sources backend =
          (Contract.givenRules sources).map fun rules =>
            ⟨type, rules, backend, compiler.settings.sortErrors⟩) ∧
      (∀ rules backend sort value,
        Contract.conform ⟨type, rules, backend, sort⟩ value =
          conform type rules backend sort value) ∧
      ∀ sources backend sort value,
        conformTo (.compiled type) sources backend sort value = do
          let rules ← Contract.givenRules sources
          conform type rules backend sort value) ∧
    ∀ compiler : Compiler, ∀ options frames made,
      compiler.compile (SpecFrame.fillAll frames (.compiled type)) options = .ok made →
        type.IsRecognized ∧ made.at? (SpecFrame.allSteps frames) = some type := by
  constructor
  · intro recognized
    have itself (compiler : Compiler) (options : CompileOptions) :
        compiler.compile (.compiled type) options = .ok type :=
      compileSpec_compiled_eq_ok.mpr ⟨recognized, rfl⟩
    refine ⟨itself, ?_, ?_, ?_, ?_⟩
    · intro compiler options frames filler whole part made reached read
      obtain ⟨found, same, -, exchange⟩ := exists_part_of_fillAll made
      obtain rfl : found = part := Option.some.inj (same.symm.trans reached)
      obtain ⟨others, otherMade, -⟩ := exchange (.compiled type) type
        (fun _ _ => compileSpec_compiled_eq_ok.mpr ⟨recognized, rfl⟩) read [] (.inr rfl)
      exact ⟨others, otherMade⟩
    · intro compiler options sources backend
      rw [Contract.make, itself, Attempt.ok_bind]
      cases Contract.givenRules sources <;> rfl
    · intro rules backend sort value
      exact Schema.constraints_bind_of_isRecognized recognized _
    · intro sources backend sort value
      rw [conformTo, itself, Attempt.ok_bind]
  · intro compiler options frames made compiled
    obtain ⟨part, reached, ⟨inner, place, own⟩, -⟩ := exists_part_of_fillAll compiled
    obtain ⟨recognized, rfl⟩ := compileSpec_compiled_eq_ok.mp own
    exact ⟨recognized, reached⟩

/-- What is compiled for a whole number or a text under the name of an identifier. -/
def identifier : Schema :=
  .union (.primitive .integer [.typeCheck .integer]) (.primitive .string [.typeCheck .string])
    [("name", .text "identifier")]

/-- The specification that `identifier` is compiled from. -/
def identifierSpec : Spec :=
  .tuple
    [.text "union", .text "integer", .text "string",
    .map [(.text "name", .text "identifier")]]

theorem compile_identifier : Compiler.standard.compile identifierSpec .none = .ok identifier := by
  simp [identifierSpec, Compiler.compile, Compiler.compileSpec, Compiler.compileName]
  rfl

/-- A map of a list of anything. -/
def anyIds : Schema :=
  .map [.typeCheck .map]
    [.mk [] (.text "ids") .required
      (.list [.typeCheck .list] (.primitive .any [.typeCheck .any])) false]
    false .camel

theorem compile_anyIds :
    Compiler.standard.compile
        (.map [(.text "ids", .tuple [.text "list", .text "any"])]) .none = .ok anyIds := by
  simp [Compiler.compile, Compiler.compileSpec, Compiler.compileMap, Compiler.compileKeys,
    Compiler.compileEntry, Compiler.compileName, Compiler.declaredKey]
  rfl

theorem compiled_in_place_identifier :
    Compiler.standard.compile identifierSpec .none = .ok identifier ∧
      Compiler.standard.compile (.compiled identifier) .none = .ok identifier ∧
      ∃ made, Compiler.standard.compile
          (.map [(.text "ids", .tuple [.text "list", .compiled identifier])]) .none = .ok made ∧
        made.at? [.key 0, .member] = some identifier := by
  have recognized : identifier.IsRecognized := by
    simp [identifier, Schema.IsRecognized, Constraint.reservedOptions]
  obtain ⟨taken, places⟩ := compiled_in_place identifier
  obtain ⟨itself, exchange, -⟩ := taken recognized
  refine ⟨compile_identifier, itself _ _, ?_⟩
  have unread : SpecFrame.someReadsTag [.entry [] (.text "ids") [], .member []] ≠ true := by decide
  obtain ⟨made, placed⟩ := exchange _ _ [.entry [] (.text "ids") [], .member []] _ _ _
    compile_anyIds rfl (fun reads => absurd reads unread)
  exact ⟨made, placed, (places _ _ _ _ placed).2⟩

/-- A whole number or a text, with an option that is named like a side. -/
def sided : Schema :=
  .union (.primitive .integer [.typeCheck .integer]) (.primitive .string [.typeCheck .string])
    [("left", .int 1)]

/-- A union with an option that is named like a side is compiled and validates values, but is
not taken for a compiled schema. -/
theorem sided_is_not_taken :
    Compiler.standard.compile
        (.tuple
          [.text "union", .text "integer", .text "string",
          .map [(.text "left", .scalar (.int 1))]])
        .none = .ok sided ∧
      sided.validate (.text "a") = .ok (.ok (.text "a")) ∧
      Compiler.standard.compile (.compiled sided) .none = .error .wrongKind ∧
      conformTo (.compiled sided) [] .default true (.text "a") = .error .wrongKind := by
  refine ⟨?_, rfl, ?_, ?_⟩
  · simp [Compiler.compile, Compiler.compileSpec, Compiler.compileName]
    rfl
  · simp [Compiler.compile, Compiler.compileSpec]
    rfl
  · simp [conformTo, Compiler.compile, Compiler.compileSpec]
    rfl

end Compiler
end DataContract
