import DataContract.Proofs.SchemaFile.Description
import DataContract.Proofs.Spec.Predicates
import Mathlib.Data.List.Permutation

/-!
# Predicates beside entries

The predicates beside an entry of a schema file are put into the specification that
the entry is read as, before anything is compiled. For every specification that
reading comes to there is a place for them, and compiling it is the same as compiling
the specification without them and constraining the schema.

The two ways of handing predicates down follow different trees: one follows the lists,
maps, unions and casts that were read, the other those that were compiled, in which a
name has been replaced by its type and a union of three is a union in a union.
-/

namespace DataContract
namespace SchemaFile

/-- Specifications of the forms that entries are read as, which have a place for
further predicates. -/
inductive IsConstrainable : Spec → Prop
  | name (name : String) : IsConstrainable (.text name)
  | keys (entries : List (Value × Spec)) : IsConstrainable (.map entries)
  | type (part : Spec) (own : List Spec) :
      IsConstrainable (.tuple [.text "type", part, .list own])
  | list (part : Spec) (own : List Spec) :
      IsConstrainable (.tuple [.text "list", part, .list own])
  | map (entries : List (Value × Spec)) (own : List Spec) :
      IsConstrainable (.tuple [.text "map", .map entries, .list own])
  | union
      (options : List Spec)
      (each : ∀ option ∈ options, IsConstrainable option) :
      IsConstrainable (.list options)
  | cast
      (source output : Spec)
      (options : List (Value × Spec))
      (inner : IsConstrainable output) :
      IsConstrainable (.tuple [.text "cast", source, output, .map options])

section Reading

variable
  {location : String}
  {extra : List Spec}

/-- Predicates have a place in several specifications if they have one in each. -/
theorem exists_constrainedAll
    {options : List Spec}
    (each : ∀ option ∈ options, ∃ result, constrained location extra option = .ok result ∧
      IsConstrainable result) :
    ∃ results, constrainedAll location extra options = .ok results ∧
      ∀ result ∈ results, IsConstrainable result := by
  induction options with
  | nil => exact ⟨[], rfl, by simp⟩
  | cons option rest hypothesis =>
      rw [List.forall_mem_cons] at each
      obtain ⟨first, firstMade, firstShape⟩ := each.1
      obtain ⟨others, othersMade, othersShape⟩ := hypothesis each.2
      refine ⟨first :: others, ?_, List.forall_mem_cons.mpr ⟨firstShape, othersShape⟩⟩
      simp [constrainedAll, firstMade, othersMade]

/-- Further predicates have a place in every constrainable specification, and leave
room for more. -/
theorem IsConstrainable.exists_constrained
    {spec : Spec}
    (shape : IsConstrainable spec) :
    ∃ result, constrained location extra spec = .ok result ∧ IsConstrainable result := by
  induction shape with
  | name name => exact ⟨_, rfl, .type _ extra⟩
  | keys entries => exact ⟨_, rfl, .map entries extra⟩
  | type part own => exact ⟨_, rfl, .type part (own ++ extra)⟩
  | list part own => exact ⟨_, rfl, .list part (own ++ extra)⟩
  | map entries own => exact ⟨_, rfl, .map entries (own ++ extra)⟩
  | union options each hypothesis =>
      obtain ⟨results, made, shapes⟩ := exists_constrainedAll hypothesis
      exact ⟨.list results, by simp [constrained, made], .union results shapes⟩
  | cast source output options inner hypothesis =>
      obtain ⟨result, made, shape⟩ := hypothesis
      refine ⟨.tuple [.text "cast", source, result, .map options], ?_,
        .cast source result options shape⟩
      simp [constrained, made]

/-- A constrainable specification keeps being one with predicates beside it. -/
theorem IsConstrainable.exists_withPredicates
    {spec : Spec}
    (shape : IsConstrainable spec) :
    ∃ result, withPredicates location extra spec = .ok result ∧ IsConstrainable result := by
  cases extra with
  | nil => exact ⟨spec, rfl, shape⟩
  | cons first rest => exact shape.exists_constrained

theorem IsConstrainable.of_withPredicates
    {spec result : Spec}
    (shape : IsConstrainable spec)
    (made : withPredicates location extra spec = .ok result) :
    IsConstrainable result := by
  obtain ⟨other, remade, shape⟩ := shape.exists_withPredicates
  rwa [Except.ok.inj (made.symm.trans remade)]

end Reading

/-- Whatever an entry is read as is constrainable. -/
theorem isConstrainable_of_parseEntry
    {location : String}
    {entry : Value}
    {spec : Spec}
    (parsed : parseEntry location entry = .ok spec) :
    IsConstrainable spec := by
  refine parseEntry_induct ?name ?keys ?type ?list ?map ?union ?cast parsed
  case name =>
    intro name
    exact .name name
  case keys =>
    intro entries keys _ _
    exact .keys keys
  case type =>
    intro entries name predicates _
    exact .type (.ofValue name) predicates
  case list =>
    intro entries member spec predicates _ _
    exact .list spec predicates
  case map =>
    intro entries keys specs predicates _ _
    exact .map specs predicates
  case union =>
    intro entries options specs predicates location spec _ read made
    refine IsConstrainable.of_withPredicates (.union specs fun spec member => ?_) made
    obtain ⟨option, -, shape⟩ := Attempt.exists_item_of_mem read member
    exact shape
  case cast =>
    intro entries source output options input result predicates location spec _ _ shape made
    exact IsConstrainable.of_withPredicates (.cast input result _ shape) made

/-- Whether compiling one specification is compiling another and constraining the
schema by the predicates of a list, at every place with the given options. -/
def CompilesTo
    (compiler : Compiler)
    (types : List (String × Spec))
    (scope : Scope)
    (extra : List Spec)
    (spec result : Spec) : Prop :=
  ∀ root schema, compiler.compileSpec types scope root result = .ok schema ↔
    ∃ plain predicates, compiler.compileSpec types scope root spec = .ok plain ∧
      Compiler.readPredicates compiler.predicates (.list extra) = .ok predicates ∧
      plain.constrain predicates = .ok schema

section Compiling

variable
  {compiler : Compiler}
  {types : List (String × Spec)}
  {scope : Scope}
  {location : String}
  {extra : List Spec}

/-- Alternatives that are compiled to constrained schemas make a constrained union. -/
theorem compileAlternatives_constrained
    {options results : List Spec}
    (each : List.Forall₂ (CompilesTo compiler types scope extra) options results)
    {schema : Schema} :
    compiler.compileAlternatives types scope results = .ok schema ↔
      ∃ plain predicates, compiler.compileAlternatives types scope options = .ok plain ∧
        Compiler.readPredicates compiler.predicates (.list extra) = .ok predicates ∧
        plain.constrain predicates = .ok schema := by
  induction each generalizing schema with
  | nil =>
      rw [Compiler.compileAlternatives]
      simp
  | @cons option result options results first rest hypothesis =>
      cases rest with
      | nil =>
          rw [Compiler.compileAlternatives, Compiler.compileAlternatives]
          exact first [] schema
      | cons second others =>
          rw [Compiler.compileAlternatives, Compiler.compileAlternatives]
          simp only [Attempt.bind_eq_ok, Except.ok.injEq, hypothesis, first [] _]
          constructor
          · rintro ⟨left, ⟨plainLeft, predicates, leftMade, read, leftConstrained⟩,
              right, ⟨plainRight, others, rightMade, reread, rightConstrained⟩, rfl⟩
            obtain rfl := Except.ok.inj (read.symm.trans reread)
            exact ⟨_, predicates, ⟨plainLeft, leftMade, plainRight, rightMade, rfl⟩, read,
              Schema.constrain_union_eq_ok.mpr
                ⟨left, right, leftConstrained, rightConstrained, rfl⟩⟩
          · rintro ⟨_, predicates, ⟨plainLeft, leftMade, plainRight, rightMade, rfl⟩, read,
              constrained⟩
            obtain ⟨left, right, leftConstrained, rightConstrained, rfl⟩ :=
              Schema.constrain_union_eq_ok.mp constrained
            exact ⟨left, ⟨plainLeft, predicates, leftMade, read, leftConstrained⟩,
              right, ⟨plainRight, predicates, rightMade, read, rightConstrained⟩, rfl⟩

/-- A name with predicates beside it is a type without any, constrained by them. -/
theorem compilesTo_name
    (known : ∀ type ∈ types, type.2.Holds Schema.Appends)
    {name : String} :
    CompilesTo compiler types scope extra (.text name)
      (.tuple [.text "type", .text name, .list extra]) := by
  intro root schema
  have plain : compiler.compileSpec types scope root (.text name) =
      compiler.compileName types scope name [] := by
    rw [Compiler.compileSpec]
  simp only [plain, Compiler.compileSpec_type_eq_ok, Compiler.optionalPart_cons_zero]
  constructor
  · rintro ⟨_, predicates, same, read, compiled⟩
    cases same
    obtain ⟨plain, made, constrained⟩ :=
      (Compiler.compileName_append_eq_ok known [] predicates).mp compiled
    exact ⟨plain, predicates, made, read, constrained⟩
  · rintro ⟨plain, predicates, made, read, constrained⟩
    exact ⟨name, predicates, rfl, read,
      (Compiler.compileName_append_eq_ok known [] predicates).mpr ⟨plain, made, constrained⟩⟩

/-- The predicates of a cast are those of its output. -/
theorem compilesTo_cast
    {source output second : Spec}
    {options : List (Value × Spec)}
    (appends : ∀ plain, compiler.compileSpec types scope [] output = .ok plain → plain.Appends)
    (inner : CompilesTo compiler types scope extra output second) :
    CompilesTo compiler types scope extra
      (.tuple [.text "cast", source, output, .map options])
      (.tuple [.text "cast", source, second, .map options]) := by
  intro root schema
  simp only [Compiler.compileSpec_cast_eq_ok, inner [] _]
  constructor
  · rintro ⟨entries, input, _, read, inputMade,
      ⟨plain, predicates, outputMade, listed, constrained⟩, cast⟩
    obtain ⟨whole, made, both⟩ :=
      (Compiler.castOf_constrain_eq_ok (appends plain outputMade) constrained).mp cast
    exact ⟨whole, predicates, ⟨entries, input, plain, read, inputMade, outputMade, made⟩,
      listed, both⟩
  · rintro ⟨whole, predicates, ⟨entries, input, plain, read, inputMade, outputMade, made⟩,
      listed, both⟩
    obtain ⟨-, caster, named, -, -, rfl⟩ := Compiler.castOf_eq_ok.mp made
    obtain ⟨second, constrained, -⟩ := Schema.constrain_cast_eq_ok.mp both
    exact ⟨entries, input, second, read, inputMade,
      ⟨plain, predicates, outputMade, listed, constrained⟩,
      (Compiler.castOf_constrain_eq_ok (appends plain outputMade) constrained).mpr
        ⟨_, made, both⟩⟩

/-- Alternatives put further predicates at the end if each does. -/
theorem appends_of_compileAlternatives
    {options : List Spec}
    (each : ∀ option ∈ options, ∀ root schema,
      compiler.compileSpec types scope root option = .ok schema → schema.Appends)
    {schema : Schema}
    (compiled : compiler.compileAlternatives types scope options = .ok schema) :
    schema.Appends := by
  induction options generalizing schema with
  | nil =>
      rw [Compiler.compileAlternatives] at compiled
      simp at compiled
  | cons option rest hypothesis =>
      rw [List.forall_mem_cons] at each
      cases rest with
      | nil =>
          rw [Compiler.compileAlternatives] at compiled
          exact each.1 [] schema compiled
      | cons second others =>
          rw [Compiler.compileAlternatives] at compiled
          simp only [Attempt.bind_eq_ok, Except.ok.injEq] at compiled
          obtain ⟨left, leftMade, right, rightMade, rfl⟩ := compiled
          exact Schema.appends_union_iff.mpr
            ⟨each.1 [] left leftMade, hypothesis each.2 rightMade⟩

/-- What a constrainable specification is compiled to puts further predicates at the end. -/
theorem IsConstrainable.appends
    (known : ∀ type ∈ types, type.2.Holds Schema.Appends)
    {spec : Spec}
    (shape : IsConstrainable spec)
    {root : Path}
    {schema : Schema}
    (compiled : compiler.compileSpec types scope root spec = .ok schema) :
    schema.Appends := by
  induction shape generalizing root schema with
  | name name =>
      rw [Compiler.compileSpec_text] at compiled
      exact Compiler.appends_of_compileName known compiled
  | keys entries =>
      rw [Compiler.compileSpec_keys, Compiler.compileMap_eq_ok] at compiled
      obtain ⟨keys, chain, -, -, rfl⟩ := compiled
      simp [Schema.Appends, Schema.openCustoms]
  | type part own =>
      obtain ⟨name, predicates, -, -, made⟩ := Compiler.compileSpec_type_eq_ok.mp compiled
      exact Compiler.appends_of_compileName known made
  | list part own =>
      obtain ⟨chain, member, -, -, rfl⟩ := Compiler.compileSpec_list_eq_ok.mp compiled
      simp [Schema.Appends, Schema.openCustoms]
  | map entries own =>
      rw [Compiler.compileSpec_map, Compiler.compileMap_eq_ok] at compiled
      obtain ⟨keys, chain, -, -, rfl⟩ := compiled
      simp [Schema.Appends, Schema.openCustoms]
  | union options each hypothesis =>
      rw [Compiler.compileSpec] at compiled
      split at compiled
      · simp at compiled
      · exact appends_of_compileAlternatives
          (fun option member root schema made => hypothesis option member made) compiled
  | cast source output options inner hypothesis =>
      obtain ⟨entries, input, result, -, -, made, cast⟩ :=
        Compiler.compileSpec_cast_eq_ok.mp compiled
      obtain ⟨-, caster, named, -, -, rfl⟩ := Compiler.castOf_eq_ok.mp cast
      exact Schema.appends_cast_iff.mpr (hypothesis made)

/-- A specification with further predicates is compiled to the constrained schema. -/
theorem IsConstrainable.compilesTo
    (known : ∀ type ∈ types, type.2.Holds Schema.Appends)
    {spec result : Spec}
    (shape : IsConstrainable spec)
    (made : constrained location extra spec = .ok result) :
    CompilesTo compiler types scope extra spec result := by
  induction shape generalizing result with
  | name name =>
      cases made
      exact compilesTo_name known
  | keys entries =>
      intro root schema
      cases made
      have plain : compiler.compileSpec types scope root (.map entries) =
          compiler.compileMap types scope root entries (.list []) := by
        rw [Compiler.compileSpec, Compiler.compileMap_absent]
      rw [plain, Compiler.compileSpec_map, Compiler.optionalPart_cons_zero]
      exact Compiler.compileMap_append_eq_ok [] extra
  | type part own =>
      intro root schema
      cases made
      exact Compiler.compileSpec_type_append_eq_ok known
  | list part own =>
      intro root schema
      cases made
      exact Compiler.compileSpec_list_append_eq_ok
  | map entries own =>
      intro root schema
      cases made
      rw [Compiler.compileSpec_map, Compiler.compileSpec_map]
      exact Compiler.compileMap_append_eq_ok own extra
  | union options each hypothesis =>
      intro root schema
      obtain ⟨results, resultsMade, same⟩ := Attempt.bind_eq_ok.mp made
      cases same
      have pairs := forall₂_of_constrainedAll
        (fun option member result made => hypothesis option member made) resultsMade
      rw [Compiler.compileSpec, Compiler.compileSpec, pairs.length_eq]
      split
      · simp
      · exact compileAlternatives_constrained pairs
  | cast source output options inner hypothesis =>
      obtain ⟨second, secondMade, same⟩ := Attempt.bind_eq_ok.mp made
      cases same
      exact compilesTo_cast (fun plain made => inner.appends known made) (hypothesis secondMade)

end Compiling

/-- Predicates beside an entry always have a place in the specification that the entry
is read as. Compiling it with them succeeds exactly if compiling it without them,
resolving them and constraining succeed, and comes to the constrained schema. Custom
schemas among the registered types must put further predicates at the end of their own,
if they have a way to take them. -/
theorem compile_withPredicates
    (location place : String)
    (entry : Value)
    (spec : Spec)
    (extra : List Spec)
    (parsed : parseEntry location entry = .ok spec) :
    ∃ result, withPredicates place extra spec = .ok result ∧
      ∀ (compiler : Compiler) (options : CompileOptions) (schema : Schema),
        (∀ type ∈ compiler.types.types, type.2.Holds Schema.Appends) →
          (compiler.compile result options = .ok schema ↔
            ∃ plain predicates, compiler.compile spec options = .ok plain ∧
              Compiler.readPredicates compiler.predicates (.list extra) = .ok predicates ∧
              plain.constrain predicates = .ok schema) := by
  have shape := isConstrainable_of_parseEntry parsed
  cases extra with
  | nil =>
      refine ⟨spec, rfl, ?_⟩
      intro compiler options schema known
      have none : Compiler.readPredicates compiler.predicates (.list []) = .ok [] := rfl
      simp [none]
  | cons first rest =>
      obtain ⟨result, made, -⟩ := shape.exists_constrained
      exact ⟨result, made, fun compiler options schema known =>
        shape.compilesTo known made [] schema⟩

/-- An entry for a number, for a text that is cast to one, or for a code. -/
def amountEntry : Value :=
  .map
    [(.text "union",
      .list
        [.text "integer",
        .map
          [(.text "cast",
            .map [(.text "from", .text "string"), (.text "to", .text "integer")])],
        .text "code"])]

/-- The specification that `amountEntry` is read as. -/
def amountSpec : Spec :=
  .list
    [.text "integer",
    .tuple [.text "cast", .text "string", .text "integer", .map []],
    .text "code"]

/-- The built-in types and predicates, and codes, which are a custom schema. -/
def codeCompiler : Compiler :=
  { Compiler.standard with
    types := ⟨("code", .compiled (.custom (.ofTexts "code" true 0 []))) ::
      TypeRegistry.standard.types⟩ }

theorem appends_codeCompiler :
    ∀ type ∈ codeCompiler.types.types, type.2.Holds Schema.Appends := by
  have code : (Schema.custom (.ofTexts "code" true 0 [])).Appends :=
    Schema.appends_custom_iff.mpr (CustomType.appends_ofTexts "code" true 0 [])
  simp [codeCompiler, TypeRegistry.standard, TypeRegistry.numberDefinition, Spec.Holds,
    Spec.embedded, Spec.listEmbedded, Spec.entriesEmbedded, code]

theorem compile_withPredicates_amount :
    ∃ result,
      withPredicates "amount" [.tuple [.text "gt?", .scalar (.int 0)]] amountSpec = .ok result ∧
      ∀ (options : CompileOptions) (schema : Schema),
        codeCompiler.compile result options = .ok schema ↔
          ∃ plain predicates, codeCompiler.compile amountSpec options = .ok plain ∧
            Compiler.readPredicates codeCompiler.predicates
                (.list [.tuple [.text "gt?", .scalar (.int 0)]]) =
              .ok predicates ∧
            plain.constrain predicates = .ok schema := by
  obtain ⟨result, made, same⟩ :=
    compile_withPredicates "amount" "amount" amountEntry amountSpec
      [.tuple [.text "gt?", .scalar (.int 0)]] (by cbv)
  exact ⟨result, made, fun options schema =>
    same codeCompiler options schema appends_codeCompiler⟩

end SchemaFile
end DataContract
