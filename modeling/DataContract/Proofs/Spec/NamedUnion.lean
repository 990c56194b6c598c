import DataContract.Proofs.Report.Union
import DataContract.Proofs.Spec.Alternatives

/-!
# Named unions

The alternatives of a union that a builder makes nest to the right, and only the outermost union
has the name. A value that the type check of one alternative accepts, but its predicates do not,
is reported with the predicate that fails if the alternative is the first or the second: then
its failure is the whole failure or one of the two sides of it. The failure of any later
alternative is inside that of an inner union, where it is not looked for, so that the report has
the text of the name instead.
-/

namespace DataContract

namespace Builder

/-- A builder makes a union with a name of at least two alternatives. -/
theorem exists_of_call_union
    {specs : List Spec}
    {name spec : Spec}
    (built : call "union" ⟨specs, [("name", name)]⟩ = .ok spec) :
    ∃ left right more, specs = left :: right :: more ∧
      spec = unionOf (unionOptions (some name)) left right more := by
  match specs with
  | [] => cases built
  | [only] => cases built
  | left :: right :: more =>
      have made := call_union left right more (some name)
      exact ⟨left, right, more, rfl, Except.ok.inj (built.symm.trans made)⟩

end Builder

namespace Schema

variable
  {value name : Value}
  {options : Options}
  {type : Schema}

/-- The report of alternatives with a name, all before one whose failure is final being
mismatches. It has the failure of this one if that is the first or the second, and otherwise
only the name. -/
theorem exists_render_oneOf_of_commits
    (named : unionName? options = some name)
    {stop : Schema}
    {failure : Failure}
    (fails : stop.validate value = .ok (.error failure))
    (final : stop.commitsTo failure = true)
    {before after rest : List Schema}
    (split : type :: rest = before ++ stop :: after)
    (mismatches : ∀ alternative ∈ before, alternative.Mismatches value) :
    ∃ found, (oneOf options type rest).validate value = .ok (.error found) ∧
      ∀ backend sort, render backend [] sort found =
        if before.length ≤ 1 then render backend [] sort failure else backend.reportName name := by
  have past : failure.isPastTypeCheck = true := (Bool.and_eq_true_iff.mp final).2
  match before, split with
  | [], split =>
      obtain ⟨rfl, rfl⟩ := List.cons.inj split
      exact ⟨failure, validate_oneOf_of_commits options rest fails final, fun _ _ => rfl⟩
  | [first], split =>
      obtain ⟨rfl, rfl⟩ := List.cons.inj split
      have inner := validate_oneOf_of_commits [] after fails final
      obtain ⟨side, early, whole⟩ :=
        exists_validate_oneOf_cons options (mismatches type List.mem_cons_self) inner
      have precise : preciseSide? side failure = some failure := by
        rw [preciseSide?, early, past]
      exact ⟨_, whole, fun _ _ => render_either_of_precise named precise⟩
  | first :: second :: before, split =>
      obtain ⟨rfl, rfl⟩ := List.cons.inj split
      rw [List.forall_mem_cons] at mismatches
      obtain ⟨hidden, inner, late⟩ :=
        exists_validate_oneOf_of_mismatches [] fails final mismatches.2 after
      obtain ⟨side, early, whole⟩ := exists_validate_oneOf_cons options mismatches.1 inner
      have vague : preciseSide? side hidden = none := by
        rw [preciseSide?, early, late]
      have deep : ¬ (type :: second :: before).length ≤ 1 := by simp
      refine ⟨_, whole, fun backend sort => ?_⟩
      rw [if_neg deep]
      exact render_either_of_vague named vague

end Schema

namespace Compiler

variable
  {compiler : Compiler}
  {options : CompileOptions}

/-- Whether a specification has a schema that a value mismatches. -/
def Mismatches
    (compiler : Compiler)
    (options : CompileOptions)
    (value : Value)
    (spec : Spec) : Prop :=
  ∃ type, compiler.compile spec options = .ok type ∧ type.Mismatches value

/-- A value mismatches what is compiled from specifications that it mismatches. -/
theorem mismatches_of_forall₂
    {value : Value}
    {specs : List Spec}
    {types : List Schema}
    (each : List.Forall₂ (fun spec type => compiler.compile spec options = .ok type) specs types)
    (mismatches : ∀ spec ∈ specs, compiler.Mismatches options value spec) :
    ∀ type ∈ types, type.Mismatches value := by
  intro type member
  obtain ⟨spec, present, made⟩ := Attempt.exists_item_of_mem each member
  obtain ⟨found, compiled, mismatch⟩ := mismatches spec present
  obtain rfl : found = type := Except.ok.inj (compiled.symm.trans made)
  exact mismatch

/-- The union that a builder makes with a name is compiled to the compiled alternatives, with the
name. -/
theorem exists_oneOf_of_call_union
    {name : String}
    (filled : name ≠ "")
    {specs : List Spec}
    {spec : Spec}
    {schema : Schema}
    (built : Builder.call "union" ⟨specs, [("name", .text name)]⟩ = .ok spec)
    (compiled : compiler.compile spec options = .ok schema) :
    ∃ type next rest,
      List.Forall₂ (fun spec type => compiler.compile spec options = .ok type) specs
        (type :: next :: rest) ∧
      schema = .oneOf [("name", .text name)] type (next :: rest) := by
  obtain ⟨left, right, more, rfl, rfl⟩ := Builder.exists_of_call_union built
  obtain ⟨type, rest, entries, own, each, read, kept, rfl⟩ :=
    compileSpec_unionOf_eq_ok.mp compiled
  have counts : (Spec.text name).toValue.truthy = true := by
    simpa [Spec.toValue, Value.truthy, Value.size?] using filled
  have options : Builder.unionOptions (some (.text name)) = .map [(.text "name", .text name)] := by
    rw [Builder.unionOptions, if_pos counts]
  rw [options] at read
  cases read
  cases kept
  obtain ⟨next, types, -, -, rfl⟩ := List.forall₂_cons_left_iff.mp (List.forall₂_cons.mp each).2
  exact ⟨type, next, types, each, rfl⟩

/-- A union that a builder makes with a name reports the predicate that refuses a value of the
kind of an alternative if the alternative is the first or the second. From the third on, and for
a value that mismatches all alternatives, it reports the name, for which English has a text. -/
theorem render_named_union
    {name : String}
    (filled : name ≠ "")
    {specs : List Spec}
    {spec : Spec}
    {schema : Schema}
    (built : Builder.call "union" ⟨specs, [("name", .text name)]⟩ = .ok spec)
    (compiled : compiler.compile spec options = .ok schema)
    (value : Value) :
    (∀ before alternative after type failure, specs = before ++ alternative :: after →
      (∀ earlier ∈ before, compiler.Mismatches options value earlier) →
      compiler.compile alternative options = .ok type → type.Admits value →
      type.validate value = .ok (.error failure) →
      ∃ found, schema.validate value = .ok (.error found) ∧
        ∃ predicate ∈ type.chain, predicate.name ≠ Failure.typePredicate ∧
          predicate.holds value = .ok false ∧
          ∀ backend sort,
            render backend [] sort failure = backend.reportPredicate predicate value ∧
            render backend [] sort found =
              if before.length ≤ 1 then backend.reportPredicate predicate value
              else backend.reportName (.text name)) ∧
    ((∀ alternative ∈ specs, compiler.Mismatches options value alternative) →
      ∃ found, schema.validate value = .ok (.error found) ∧
        ∀ backend sort, render backend [] sort found = backend.reportName (.text name)) ∧
    ∃ record, MessageBackend.default.reportName (.text name) = .ok [record] := by
  obtain ⟨type, next, rest, each, rfl⟩ := exists_oneOf_of_call_union filled built compiled
  have named : unionName? [("name", .text name)] = some (.text name) := rfl
  refine ⟨?_, ?_, exists_reportName_default name⟩
  · rintro before alternative after chosen failure rfl mismatches made admits fails
    obtain ⟨first, found, last, split, earlier, foundMade, -⟩ :=
      Attempt.exists_split_of_forall₂ each
    obtain rfl : found = chosen := Except.ok.inj (foundMade.symm.trans made)
    obtain ⟨final, predicate, member, other, broken, rfl⟩ :=
      Schema.exists_predicate_of_admits admits fails
    have skipped : ∀ type ∈ first, type.Mismatches value :=
      mismatches_of_forall₂ earlier mismatches
    obtain ⟨found, refused, rendered⟩ :=
      Schema.exists_render_oneOf_of_commits named fails final split skipped
    have count : before.length = first.length := earlier.length_eq
    refine ⟨found, refused, predicate, member, other, broken, fun backend sort => ?_⟩
    rw [rendered, render_predicate_failure, count]
    exact ⟨rfl, rfl⟩
  · intro mismatches
    have skipped := mismatches_of_forall₂ each mismatches
    have whole : (Schema.oneOf [("name", .text name)] type (next :: rest)).Mismatches value :=
      Schema.mismatches_oneOf _ skipped
    obtain ⟨first, second, -, -, refused, rendered⟩ := Schema.exists_render_of_mismatches whole
    exact ⟨_, refused, rendered⟩

/-- A value that a tag does not admit mismatches the name of the tag. -/
theorem mismatches_tag
    (tag : Tag)
    {value : Value}
    (refused : tag.admits value = false) :
    standard.Mismatches .none value (.text tag.name) := by
  have checks : (Predicate.typeCheck tag).holds value = .ok false := by
    rw [Predicate.holds_typeCheck, refused]
  exact ⟨_, compile_tag_name tag, _, [], rfl, rfl, checks⟩

/-- A text that is not empty. -/
def filledSpec : Spec := .tuple [.text "type", .text "string", .list [.text "filled?"]]

/-- What the specification of a text that is not empty is compiled to. -/
def filledText : Schema := .primitive .string [.typeCheck .string, .filledCheck]

theorem compile_filledSpec : standard.compile filledSpec .none = .ok filledText := by
  simp [filledSpec, compile, compileSpec, compileName]
  rfl

theorem admits_filledText : filledText.Admits (.text "") :=
  ⟨_, _, rfl, ⟨_, _, rfl, rfl, rfl⟩, by simp [Predicate.filledCheck, Failure.typePredicate]⟩

/-- The record of a text that has to be filled. -/
def filledRecord : Record :=
  .mk .type [] "must be filled" (predicateDetails "filled?" [.text ""]) false [] []

theorem render_filled_failure :
    render .default [] true (Predicate.filledCheck.failure (.text "")) = .ok [filledRecord] := by
  rw [render_predicate_failure]
  rfl

/-- The union of three alternatives that is named after a code. -/
def codeSpec (first second third : Spec) : Spec :=
  Builder.unionOf (.map [(.text "name", .text "code")]) first second [third]

theorem render_named_union_code :
    ∃ schema found,
      Builder.call "union"
        ⟨[.text "integer", filledSpec, .text "float"], [("name", .text "code")]⟩ =
          .ok (codeSpec (.text "integer") filledSpec (.text "float")) ∧
      standard.compile (codeSpec (.text "integer") filledSpec (.text "float")) .none =
        .ok schema ∧
      schema.validate (.text "") = .ok (.error found) ∧
      render .default [] true found = .ok [filledRecord] := by
  have built : Builder.call "union"
      ⟨[.text "integer", filledSpec, .text "float"], [("name", .text "code")]⟩ =
        .ok (codeSpec (.text "integer") filledSpec (.text "float")) := rfl
  have compiled : standard.compile (codeSpec (.text "integer") filledSpec (.text "float")) .none =
      .ok (.oneOf [("name", .text "code")] (.primitive .integer [.typeCheck .integer])
        [filledText, .primitive .float [.typeCheck .float]]) :=
    compileSpec_unionOf_eq_ok.mpr
      ⟨_, _, _, _, .cons (compile_tag_name .integer)
        (.cons compile_filledSpec (.cons (compile_tag_name .float) .nil)), rfl, rfl, rfl⟩
  obtain ⟨precise, -⟩ := render_named_union (by decide) built compiled (.text "")
  obtain ⟨found, refused, predicate, member, -, broken, rendered⟩ :=
    precise [.text "integer"] filledSpec [.text "float"] filledText
      (Predicate.filledCheck.failure (.text "")) rfl
      (List.forall_mem_singleton.mpr (mismatches_tag .integer rfl)) compile_filledSpec
      admits_filledText rfl
  obtain ⟨told, same⟩ := rendered .default true
  refine ⟨_, found, built, compiled, refused, ?_⟩
  rw [same, if_pos (by simp), ← told]
  exact render_filled_failure

/-- The third of three alternatives has got past its type check, but the report has the text of
the name. -/
theorem third_alternative_is_hidden :
    ∃ schema found,
      Builder.call "union"
        ⟨[.text "integer", .text "float", filledSpec], [("name", .text "code")]⟩ =
          .ok (codeSpec (.text "integer") (.text "float") filledSpec) ∧
      standard.compile (codeSpec (.text "integer") (.text "float") filledSpec) .none =
        .ok schema ∧
      standard.compile filledSpec .none = .ok filledText ∧
      (∀ other ∈ [.text "integer", .text "float"],
        standard.Mismatches .none (.text "") other) ∧
      filledText.Admits (.text "") ∧
      filledText.validate (.text "") = .ok (.error (Predicate.filledCheck.failure (.text ""))) ∧
      render .default [] true (Predicate.filledCheck.failure (.text "")) = .ok [filledRecord] ∧
      schema.validate (.text "") = .ok (.error found) ∧
      render .default [] true found =
        .ok [.mk .type [] "must satisfy code" [(.text "union", .text "code")] false [] []] := by
  have compiled : standard.compile (codeSpec (.text "integer") (.text "float") filledSpec) .none =
      .ok (.oneOf [("name", .text "code")] (.primitive .integer [.typeCheck .integer])
        [.primitive .float [.typeCheck .float], filledText]) :=
    compileSpec_unionOf_eq_ok.mpr
      ⟨_, _, _, _, .cons (compile_tag_name .integer)
        (.cons (compile_tag_name .float) (.cons compile_filledSpec .nil)), rfl, rfl, rfl⟩
  have others : ∀ other ∈ [.text "integer", .text "float"],
      standard.Mismatches .none (.text "") other := by
    simp only [List.forall_mem_cons]
    exact ⟨mismatches_tag .integer rfl, mismatches_tag .float rfl, by simp⟩
  refine ⟨_, _, rfl, compiled, compile_filledSpec, others, admits_filledText, rfl,
    render_filled_failure, rfl, ?_⟩
  rw [render_either_of_vague rfl rfl]
  rfl

end Compiler
end DataContract
