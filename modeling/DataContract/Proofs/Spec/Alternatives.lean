import DataContract.Proofs.Schema.Alternatives
import DataContract.Proofs.Spec.Context
import DataContract.Spec.Builder

/-!
# Compiled alternatives

A list of specifications and the union that a builder makes of them are compiled to the same
schema, the union of the compiled alternatives. It validates by trying them from left to right.
Alternatives that come after one that stops the scan for a value can be exchanged for any others
without a difference for the value.
-/

namespace DataContract

/-! ## Unions that a builder makes -/

namespace Builder

/-- A builder nests its alternatives to the right, with the options that a name stands for on the
outermost union. -/
theorem call_union
    (left right : Spec)
    (more : List Spec)
    (name : Option Spec) :
    call "union" ⟨left :: right :: more, name.toList.map fun given => ("name", given)⟩ =
      .ok (unionOf (unionOptions name) left right more) := by
  have found : builders.lookup "union" = some union := rfl
  have called (given : List (String × Spec)) (named : given = name.toList.map ("name", ·)) :
      union ⟨left :: right :: more, given⟩ =
        .ok (unionOf (unionOptions name) left right more) := by
    subst named
    cases name <;> rfl
  rw [call, found]
  cases name with
  | none => exact called _ rfl
  | some given => exact called _ rfl

end Builder

namespace Compiler

section Nesting

variable
  {compiler : Compiler}
  {types : List (String × Spec)}
  {scope : Scope}
  {root : Path}

/-- Alternatives are compiled one by one and then nested to the right. -/
theorem compileAlternatives_eq_ok
    {specs : List Spec}
    {schema : Schema} :
    compileAlternatives compiler types scope specs = .ok schema ↔
      ∃ type rest,
        List.Forall₂ (fun spec type => compileSpec compiler types scope [] spec = .ok type) specs
          (type :: rest) ∧
        schema = .oneOf [] type rest := by
  induction specs generalizing schema with
  | nil => simp [compileAlternatives]
  | cons first others hypothesis =>
      cases others with
      | nil =>
          rw [compileAlternatives]
          constructor
          · intro made
            exact ⟨schema, [], .cons made .nil, rfl⟩
          · rintro ⟨type, rest, each, rfl⟩
            rw [List.forall₂_cons, List.forall₂_nil_left_iff] at each
            rw [each.2]
            exact each.1
      | cons second others =>
          rw [compileAlternatives, Attempt.bind_eq_ok]
          constructor
          · rintro ⟨left, leftMade, made⟩
            obtain ⟨right, rightMade, same⟩ := Attempt.bind_eq_ok.mp made
            cases same
            obtain ⟨next, rest, each, rfl⟩ := hypothesis.mp rightMade
            exact ⟨left, next :: rest, .cons leftMade each, rfl⟩
          · rintro ⟨left, rest, each, rfl⟩
            rw [List.forall₂_cons, List.forall₂_cons_left_iff] at each
            obtain ⟨leftMade, next, types, nextMade, remaining, rfl⟩ := each
            have rightMade := hypothesis.mpr ⟨next, types, .cons nextMade remaining, rfl⟩
            refine ⟨left, leftMade, ?_⟩
            rw [rightMade]
            rfl

/-- What a builder nests is compiled to the union of the compiled alternatives, with the options
that are given for the outermost union. -/
theorem compileSpec_unionOf_eq_ok
    {options left right : Spec}
    {more : List Spec}
    {schema : Schema} :
    compileSpec compiler types scope root (Builder.unionOf options left right more) =
        .ok schema ↔
      ∃ type rest entries own,
        List.Forall₂ (fun spec type => compileSpec compiler types scope [] spec = .ok type)
          (left :: right :: more) (type :: rest) ∧
        options.toOptionEntries = .ok entries ∧ Spec.namedOptions entries = .ok own ∧
        schema = .oneOf own type rest := by
  induction more generalizing options left right root schema with
  | nil =>
      rw [Builder.unionOf, compileSpec_union_eq_ok]
      constructor
      · rintro ⟨first, second, entries, own, firstMade, secondMade, read, named, rfl⟩
        exact ⟨first, [second], entries, own, .cons firstMade (.cons secondMade .nil), read, named,
          rfl⟩
      · rintro ⟨first, rest, entries, own, each, read, named, rfl⟩
        rw [List.forall₂_cons, List.forall₂_cons_left_iff] at each
        obtain ⟨firstMade, second, none, secondMade, nothing, rfl⟩ := each
        rw [List.forall₂_nil_left_iff] at nothing
        rw [nothing]
        exact ⟨first, second, entries, own, firstMade, secondMade, read, named, rfl⟩
  | cons next others hypothesis =>
      rw [Builder.unionOf, compileSpec_union_eq_ok]
      constructor
      · rintro ⟨first, nested, entries, own, firstMade, nestedMade, read, named, rfl⟩
        obtain ⟨second, rest, none, unnamed, each, blank, empty, rfl⟩ :=
          hypothesis.mp nestedMade
        cases blank
        cases empty
        exact ⟨first, second :: rest, entries, own, .cons firstMade each, read, named, rfl⟩
      · rintro ⟨first, rest, entries, own, each, read, named, rfl⟩
        rw [List.forall₂_cons, List.forall₂_cons_left_iff] at each
        obtain ⟨firstMade, second, types, secondMade, remaining, rfl⟩ := each
        have blank : (Spec.map []).toOptionEntries = .ok [] := rfl
        have empty : Spec.namedOptions [] = .ok [] := rfl
        have nestedMade :
            compileSpec compiler _ scope [] (Builder.unionOf (.map []) right next others) =
              .ok (.oneOf [] second types) :=
          hypothesis.mpr ⟨second, types, [], [], .cons secondMade remaining, blank, empty, rfl⟩
        exact ⟨first, _, entries, own, firstMade, nestedMade, read, named, rfl⟩

end Nesting

variable
  {compiler : Compiler}
  {options : CompileOptions}

/-- A list of specifications is compiled to the union of what at least two specifications are
compiled to. -/
theorem compile_listing_eq_ok
    {specs : List Spec}
    {schema : Schema} :
    compiler.compile (.list specs) options = .ok schema ↔
      ∃ type next rest,
        List.Forall₂ (fun spec type => compiler.compile spec options = .ok type) specs
          (type :: next :: rest) ∧
        schema = .oneOf [] type (next :: rest) := by
  rw [compile, compileSpec_listing_eq_ok, compileAlternatives_eq_ok]
  constructor
  · rintro ⟨several, type, rest, each, rfl⟩
    cases rest with
    | nil =>
        have alone : specs.length = 1 := each.length_eq
        omega
    | cons next rest => exact ⟨type, next, rest, each, rfl⟩
  · rintro ⟨type, next, rest, each, rfl⟩
    have count : specs.length = (type :: next :: rest).length := each.length_eq
    have several : 2 ≤ specs.length := by
      rw [count]
      simp
    exact ⟨several, type, next :: rest, each, rfl⟩

/-- Several specifications in a list are compiled to what the union of a builder without a name is
compiled to. -/
theorem compile_call_union
    {specs : List Spec}
    {schema : Schema}
    (compiled : compiler.compile (.list specs) options = .ok schema)
    (name : Option Spec)
    (unnamed : ∀ given ∈ name, given.toValue.truthy = false) :
    ∃ spec,
      Builder.call "union" ⟨specs, name.toList.map fun given => ("name", given)⟩ = .ok spec ∧
        compiler.compile spec options = .ok schema := by
  obtain ⟨type, next, rest, each, rfl⟩ := compile_listing_eq_ok.mp compiled
  obtain ⟨left, others, leftMade, remaining, rfl⟩ := List.forall₂_cons_right_iff.mp each
  obtain ⟨right, more, rightMade, others, rfl⟩ := List.forall₂_cons_right_iff.mp remaining
  have blank : Builder.unionOptions name = .map [] := by
    cases name with
    | none => rfl
    | some given => simp [Builder.unionOptions, unnamed given rfl]
  refine ⟨_, Builder.call_union left right more name, ?_⟩
  rw [blank]
  exact compileSpec_unionOf_eq_ok.mpr ⟨type, next :: rest, [], [], each, rfl, rfl, rfl⟩

/-- Several alternatives, in a list or from a builder without a name, are compiled to a schema that
validates every value by a scan of the compiled alternatives. Whatever is put after an
alternative that stops the scan, the outcome is the same. -/
theorem validate_alternatives
    {specs : List Spec}
    {schema : Schema}
    (compiled : compiler.compile (.list specs) options = .ok schema) :
    (∀ name : Option Spec, (∀ given ∈ name, given.toValue.truthy = false) →
      ∃ spec,
        Builder.call "union" ⟨specs, name.toList.map fun given => ("name", given)⟩ = .ok spec ∧
          compiler.compile spec options = .ok schema) ∧
    ∃ types,
      List.Forall₂ (fun spec type => compiler.compile spec options = .ok type) specs types ∧
        ∀ value,
          schema.validate value = Schema.scan value [] types ∧
            ∀ before stop after type, specs = before ++ stop :: after →
              compiler.compile stop options = .ok type → type.Stops value →
              ∀ others other,
                compiler.compile (.list (before ++ stop :: others)) options = .ok other →
                  other.validate value = schema.validate value := by
  refine ⟨compile_call_union compiled, ?_⟩
  have scanned {specs : List Spec} {schema : Schema}
      (compiled : compiler.compile (.list specs) options = .ok schema) :
      ∃ types,
        List.Forall₂ (fun spec type => compiler.compile spec options = .ok type) specs types ∧
          ∀ value, schema.validate value = Schema.scan value [] types := by
    obtain ⟨type, next, rest, each, rfl⟩ := compile_listing_eq_ok.mp compiled
    exact ⟨type :: next :: rest, each, fun value => Schema.validate_oneOf value type (next :: rest)⟩
  obtain ⟨types, each, agrees⟩ := scanned compiled
  refine ⟨types, each, fun value => ⟨agrees value, ?_⟩⟩
  rintro before stop after type rfl made stops others other exchanged
  obtain ⟨otherTypes, otherEach, otherAgrees⟩ := scanned exchanged
  obtain ⟨first, found, last, rfl, earlier, foundMade, -⟩ :=
    Attempt.exists_split_of_forall₂ each
  obtain ⟨otherFirst, otherFound, otherLast, rfl, otherEarlier, otherMade, -⟩ :=
    Attempt.exists_split_of_forall₂ otherEach
  have sameFirst : otherFirst = first := Attempt.eq_of_forall₂_ok otherEarlier earlier
  have sameStop : found = type := Except.ok.inj (foundMade.symm.trans made)
  have sameOther : otherFound = type := Except.ok.inj (otherMade.symm.trans made)
  subst sameFirst sameStop sameOther
  rw [otherAgrees, agrees]
  exact Schema.scan_append_of_stops stops otherFirst otherLast last

/-- The name of a tag is compiled to the type check of the tag. -/
theorem compile_tag_name (tag : Tag) :
    standard.compile (.text tag.name) .none = .ok (.primitive tag [.typeCheck tag]) := by
  rw [compile, compileSpec_text, compileName, Tag.ofName?_name]
  rfl

/-- An even whole number. -/
def evenSpec : Spec := .tuple [.text "type", .text "integer", .list [.text "even?"]]

theorem compile_evenSpec :
    standard.compile evenSpec .none =
      .ok (.primitive .integer [.typeCheck .integer, .evenCheck]) := by
  simp [evenSpec, compile, compileSpec, compileName]
  rfl

/-- A value that is a text, an even whole number or something of a third type. -/
def evenOr (third : Tag) : Schema :=
  .oneOf [] (.primitive .string [.typeCheck .string])
    [.primitive .integer [.typeCheck .integer, .evenCheck], .primitive third [.typeCheck third]]

theorem compile_evenOr_float :
    standard.compile (.list [.text "string", evenSpec, .text "float"]) .none =
      .ok (evenOr .float) := by
  simp [evenSpec, compile, compileSpec, compileAlternatives, compileName]
  rfl

theorem compile_evenOr_any :
    standard.compile (.list [.text "string", evenSpec, .text "any"]) .none = .ok (evenOr .any) := by
  simp [evenSpec, compile, compileSpec, compileAlternatives, compileName]
  rfl

theorem validate_alternatives_evenOr :
    (evenOr .float).validate (.int 7) =
        .ok (.error
          (.either [] ((Predicate.typeCheck .string).failure (.int 7))
            (Predicate.evenCheck.failure (.int 7)) [])) ∧
      (evenOr .any).validate (.int 7) = (evenOr .float).validate (.int 7) := by
  obtain ⟨-, types, each, scanned⟩ := validate_alternatives compile_evenOr_float
  have made : List.Forall₂ (fun spec type => standard.compile spec .none = .ok type)
      [.text "string", evenSpec, .text "float"]
      [.primitive .string [.typeCheck .string],
        .primitive .integer [.typeCheck .integer, .evenCheck],
        .primitive .float [.typeCheck .float]] :=
    .cons (compile_tag_name .string) (.cons compile_evenSpec (.cons (compile_tag_name .float) .nil))
  rw [Attempt.eq_of_forall₂_ok each made] at scanned
  obtain ⟨outcome, exchange⟩ := scanned (.int 7)
  have odd : (Schema.primitive .integer [.typeCheck .integer, .evenCheck]).Stops (.int 7) :=
    ⟨Predicate.evenCheck.failure (.int 7), rfl, rfl⟩
  refine ⟨?_, ?_⟩
  · rw [outcome]
    rfl
  · exact exchange [.text "string"] evenSpec [.text "float"] _ rfl compile_evenSpec odd
      [.text "any"] _ compile_evenOr_any

end Compiler
end DataContract
