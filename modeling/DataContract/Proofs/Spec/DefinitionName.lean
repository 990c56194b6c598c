import DataContract.Proofs.Report.Union
import DataContract.Proofs.Schema.Constraining
import DataContract.Proofs.Spec.Alternatives
import DataContract.Proofs.Spec.Refusal

/-!
# Unions that are defined

A definition of a union can be used in place, by its name in the registry, or by its name with
further predicates, and the compiled union can be constrained afterwards. In every case the
union has the options that are written in the union itself. The options of the definition decide
how maps name their keys, but a name among them does not get to the union: only a union with a
name of its own is reported under one.
-/

namespace DataContract

/-- Specifications of unions with the options that are written in them. -/
inductive Spec.IsUnion : Options → Spec → Prop
  | form
      {own : Options}
      {left right : Spec}
      {rest : List Spec}
      {entries : List (Value × Spec)}
      (read : (Compiler.optionalMap rest 0).toOptionEntries = .ok entries)
      (named : Spec.namedOptions entries = .ok own) :
      IsUnion own (.tuple (.text "union" :: left :: right :: rest))
  | listing (specs : List Spec) : IsUnion [] (.list specs)

namespace Compiler

/-- The places of a definition: where it is written, and where its name is, with further
predicates or without. -/
inductive Uses
    (compiler : Compiler)
    (definition : Spec) : Spec → Prop
  | inPlace : Uses compiler definition definition
  | name
      {name : String}
      (registered : compiler.types.types.lookup name = some definition)
      (free : Tag.ofName? name = none) :
      Uses compiler definition (.text name)
  | type
      {name : String}
      (registered : compiler.types.types.lookup name = some definition)
      (free : Tag.ofName? name = none)
      (rest : List Spec) :
      Uses compiler definition (.tuple (.text "type" :: .text name :: rest))

section Compiled

variable
  {compiler : Compiler}
  {own : Options}
  {spec : Spec}
  {schema : Schema}

/-- A union has the options that are written in it. -/
theorem exists_union_of_isUnion
    {types : List (String × Spec)}
    {scope : Scope}
    {root : Path}
    (united : spec.IsUnion own)
    (compiled : compileSpec compiler types scope root spec = .ok schema) :
    ∃ left right, schema = .union left right own := by
  cases united with
  | form read named =>
      obtain ⟨left, right, entries, options, -, -, readAgain, namedAgain, rfl⟩ :=
        compileSpec_union_eq_ok.mp compiled
      obtain rfl := Except.ok.inj (readAgain.symm.trans read)
      obtain rfl := Except.ok.inj (namedAgain.symm.trans named)
      exact ⟨left, right, rfl⟩
  | listing specs =>
      obtain ⟨several, made⟩ := compileSpec_listing_eq_ok.mp compiled
      obtain ⟨type, rest, each, rfl⟩ := compileAlternatives_eq_ok.mp made
      cases rest with
      | nil =>
          have alone : specs.length = 1 := each.length_eq
          omega
      | cons next rest => exact ⟨type, .oneOf [] next rest, rfl⟩

/-- A union that is constrained keeps its options. -/
theorem exists_union_of_constrain
    {left right : Schema}
    {extra : List Predicate}
    (made : (Schema.union left right own).constrain extra = .ok schema) :
    ∃ first second, schema = .union first second own := by
  obtain ⟨first, second, -, -, rfl⟩ := Schema.constrain_union_eq_ok.mp made
  exact ⟨first, second, rfl⟩

/-- A name of a definition of a union stands for a union with its own options. -/
theorem exists_union_of_compileName
    {label name : String}
    {given : CompileOptions}
    {scope : Scope}
    {extra : List Predicate}
    (united : spec.IsUnion own)
    (registered : compiler.types.types.lookup name = some (.definition label spec given))
    (free : Tag.ofName? name = none)
    (compiled : compileName compiler compiler.types.types scope name extra = .ok schema) :
    ∃ left right, schema = .union left right own := by
  rw [compileName_of_lookup free registered] at compiled
  obtain ⟨base, made, constrained⟩ := Attempt.bind_eq_ok.mp compiled
  rw [compileSpec_definition] at made
  obtain ⟨left, right, rfl⟩ := exists_union_of_isUnion united made
  exact exists_union_of_constrain constrained

/-- A definition of a union is compiled to a union with the options written in it, wherever it is
used. -/
theorem exists_union_of_uses
    {options : CompileOptions}
    {label : String}
    {given : CompileOptions}
    {use : Spec}
    (united : spec.IsUnion own)
    (uses : compiler.Uses (.definition label spec given) use)
    (compiled : compiler.compile use options = .ok schema) :
    ∃ left right, schema = .union left right own := by
  rw [compile] at compiled
  cases uses with
  | inPlace =>
      rw [compileSpec_definition] at compiled
      exact exists_union_of_isUnion united compiled
  | name registered free =>
      rw [compileSpec_text] at compiled
      exact exists_union_of_compileName united registered free compiled
  | type registered free rest =>
      obtain ⟨name, extra, same, -, made⟩ := compileSpec_type_eq_ok.mp compiled
      cases same
      exact exists_union_of_compileName united registered free made

/-- Whatever options a definition of a union gives, the union has the tag that its own options
give it, wherever the definition is used and however it is constrained. A value that mismatches
all alternatives is reported under the name in the union's own options, if they hold one, and
otherwise with the records of both sides. -/
theorem render_defined_union
    {options : CompileOptions}
    {label : String}
    {given : CompileOptions}
    {use : Spec}
    {base : Schema}
    {extra : List Predicate}
    (united : spec.IsUnion own)
    (uses : compiler.Uses (.definition label spec given) use)
    (compiled : compiler.compile use options = .ok base)
    (constrained : base.constrain extra = .ok schema) :
    schema.tag = (own.lookup "name").getD (.text "union") ∧
    ∃ left right, schema = .union left right own ∧
      ∀ value, schema.Mismatches value →
        ∃ first second,
          left.validate value = .ok (.error first) ∧ right.validate value = .ok (.error second) ∧
          schema.validate value = .ok (.error (.either [] first second own)) ∧
          ∀ backend sort, render backend [] sort (.either [] first second own) =
            match unionName? own with
            | some name => backend.reportName name
            | none => backend.reportSides first second := by
  obtain ⟨left, right, rfl⟩ := exists_union_of_uses united uses compiled
  obtain ⟨first, second, rfl⟩ := exists_union_of_constrain constrained
  exact ⟨rfl, first, second, rfl, fun value => Schema.exists_render_of_mismatches⟩

end Compiled

/-- A union of whole numbers and a further type, with options. -/
def numberOr
    (type : Tag)
    (options : Options) : Schema :=
  .union (.primitive .integer [.typeCheck .integer]) (.primitive type [.typeCheck type]) options

theorem compile_numberName :
    standard.compile (.text "number") .none =
      .ok (numberOr .float [("name", .text "number")]) := by
  have made := compile_number (standard.settings.scope.enter .none)
  rw [compile, compileSpec_text, compileName_of_lookup rfl rfl]
  exact Attempt.bind_eq_ok.mpr ⟨_, made, rfl⟩

theorem render_defined_union_number :
    ∃ schema found,
      (numberOr .float [("name", .text "number")]).constrain [.evenCheck] = .ok schema ∧
      schema.tag = .text "number" ∧
      schema.validate (.text "seven") = .ok (.error found) ∧
      render .default [] true found =
        .ok [.mk .type [] "must be a number" [(.text "union", .text "number")] false [] []] := by
  have constrained : (numberOr .float [("name", .text "number")]).constrain [.evenCheck] = .ok
      (.union (.primitive .integer [.typeCheck .integer, .evenCheck])
        (.primitive .float [.typeCheck .float, .evenCheck]) [("name", .text "number")]) := rfl
  have uses : standard.Uses TypeRegistry.numberDefinition (.text "number") := .name rfl rfl
  obtain ⟨tag, left, right, same, told⟩ :=
    render_defined_union (.form rfl rfl) uses compile_numberName constrained
  have mismatches : (Schema.union (.primitive .integer [.typeCheck .integer, .evenCheck])
      (.primitive .float [.typeCheck .float, .evenCheck])
        [("name", .text "number")]).Mismatches (.text "seven") :=
    ⟨⟨_, _, rfl, rfl, rfl⟩, ⟨_, _, rfl, rfl, rfl⟩⟩
  obtain ⟨first, second, -, -, refused, rendered⟩ := told _ mismatches
  refine ⟨_, _, constrained, tag, refused, ?_⟩
  rw [rendered]
  rfl

/-- A definition of identifiers, whole numbers or texts, that gives a name to them. -/
def identifierDefinition : Spec :=
  .definition "id" (.tuple [.text "union", .text "integer", .text "string"])
    ⟨none, none, [("name", .text "identifier")]⟩

/-- The record of a value that is no identifier, under the name of the definition. -/
def identifierRecord : Record :=
  .mk .type [] "must satisfy identifier" [(.text "union", .text "identifier")] false [] []

/-- The record of a type check that a boolean does not pass. -/
def typeRecord
    (tag : Tag)
    (text : String) : Record :=
  .mk .type [] text (predicateDetails Failure.typePredicate [.text tag.name, .bool true]) false
    [] []

/-- The name that a definition gives is neither the tag of the union nor in the report. -/
theorem name_of_definition_is_lost :
    standard.compile identifierDefinition .none = .ok (numberOr .string []) ∧
    (numberOr .string []).tag = .text "union" ∧
    (numberOr .string []).Mismatches (.bool true) ∧
    MessageBackend.default.reportName (.text "identifier") = .ok [identifierRecord] ∧
    ∃ found,
      (numberOr .string []).validate (.bool true) = .ok (.error found) ∧
      render .default [] true found =
        .ok [.mk .union [] "must be an integer or must be a string"
          [(.text "union", .bool true)] false
          [typeRecord .integer "must be an integer"] [typeRecord .string "must be a string"]] := by
  have compiled : standard.compile identifierDefinition .none = .ok (numberOr .string []) := by
    simp [identifierDefinition, compile, compileSpec, compileName]
    rfl
  have mismatches : (numberOr .string []).Mismatches (.bool true) :=
    ⟨⟨_, _, rfl, rfl, rfl⟩, ⟨_, _, rfl, rfl, rfl⟩⟩
  refine ⟨compiled, rfl, mismatches, rfl, _, rfl, ?_⟩
  rw [render_either_of_unnamed rfl]
  rfl

end Compiler
end DataContract
