import DataContract.Proofs.Schema.Appending
import DataContract.Proofs.Spec.Invariant

/-!
# Predicates at the end

Further predicates can be put at the end of the list of predicates of a form before it
is compiled, or they can be compiled on their own and constrain what the form is
compiled to. The lemmas here show for chains, names and casts that both come to the
same, if the custom schemas among the registered types put further predicates at the end
of their own.
-/

namespace DataContract
namespace Compiler

/-- The predicates of two lists one after the other are those of the first and then
those of the second. -/
theorem readPredicates_append_eq_ok
    {registry : PredicateRegistry}
    {own extra : List Spec}
    {predicates : List Predicate} :
    readPredicates registry (.list (own ++ extra)) = .ok predicates ↔
      ∃ first second, readPredicates registry (.list own) = .ok first ∧
        readPredicates registry (.list extra) = .ok second ∧ predicates = first ++ second := by
  have listed (items : List Spec) : predicateItems (.list items) = .ok items := by
    cases items <;> rfl
  simp only [readPredicates, listed, Attempt.ok_bind, List.mapM_append, Attempt.bind_eq_ok,
    Except.ok.injEq]
  constructor
  · rintro ⟨_, ⟨first, firstRead, second, secondRead, same⟩, rfl⟩
    cases same
    exact ⟨_, _, ⟨first, firstRead, rfl⟩, ⟨second, secondRead, rfl⟩, List.flatten_append⟩
  · rintro ⟨_, _, ⟨first, firstRead, rfl⟩, ⟨second, secondRead, rfl⟩, rfl⟩
    exact ⟨_, ⟨first, firstRead, second, secondRead, rfl⟩, List.flatten_append⟩

section Chains

variable
  {registry : PredicateRegistry}
  {tag : Tag}
  {chain : List Predicate}

/-- Predicates at the end of a list are at the end of its chain. -/
theorem chainWith_append_eq_ok
    {own extra : List Spec} :
    chainWith registry tag (.list (own ++ extra)) = .ok chain ↔
      ∃ first second, chainWith registry tag (.list own) = .ok first ∧
        readPredicates registry (.list extra) = .ok second ∧ chain = first ++ second := by
  simp only [chainWith_eq_ok, readPredicates_append_eq_ok]
  constructor
  · rintro ⟨isType, _, checked, ⟨first, second, firstRead, secondRead, rfl⟩, rfl⟩
    exact ⟨_, second, ⟨isType, first, checked, firstRead, rfl⟩, secondRead, rfl⟩
  · rintro ⟨_, second, ⟨isType, first, checked, firstRead, rfl⟩, secondRead, rfl⟩
    exact ⟨isType, _, checked, ⟨first, second, firstRead, secondRead, rfl⟩, rfl⟩

/-- A form without a list of predicates has an empty one. -/
theorem chainWith_absent :
    chainWith registry tag (.tuple []) = chainWith registry tag (.list []) := rfl

end Chains

section Forms

variable
  {compiler : Compiler}
  {types : List (String × Spec)}
  {scope : Scope}
  {root : Path}
  {schema : Schema}

/-- Putting further predicates at the end is passed on wherever a compiler puts schemas
together. -/
theorem keeps_appends (compiler : Compiler) : compiler.Keeps Schema.Appends where
  primitive _ _ _ _ := by simp [Schema.Appends, Schema.openCustoms]
  list _ _ _ _ _ := by simp [Schema.Appends, Schema.openCustoms]
  map _ _ _ _ _ _ _ _ := by simp [Schema.Appends, Schema.openCustoms]
  union _ _ _ left right := Schema.appends_union_iff.mpr ⟨left, right⟩
  cast _ _ _ _ _ output := Schema.appends_cast_iff.mpr output
  constrain _ _ _ appends made := appends.of_constrain made

/-- What a registered type is compiled to puts further predicates at the end. -/
theorem appends_of_lookup
    (known : ∀ type ∈ types, type.2.Holds Schema.Appends)
    {name : String}
    {type : Spec}
    (found : types.lookup name = some type)
    (compiled : compileSpec compiler (without types name) scope [] type = .ok schema) :
    schema.Appends := by
  obtain ⟨before, after, split, -⟩ := List.lookup_eq_some_iff.mp found
  refine holds_compileSpec (keeps_appends compiler) _ scope [] type schema ?_ ?_ compiled
  · exact fun other member => known other (List.mem_of_mem_filter member)
  · exact known (name, type) (by simp [split])

/-- A name is compiled to a schema that puts further predicates at the end. -/
theorem appends_of_compileName
    (known : ∀ type ∈ types, type.2.Holds Schema.Appends)
    {name : String}
    {own : List Predicate}
    (compiled : compileName compiler types scope name own = .ok schema) :
    schema.Appends := by
  cases named : Tag.ofName? name with
  | some tag =>
      rw [compileName, named] at compiled
      obtain ⟨chain, -, same⟩ := Attempt.bind_eq_ok.mp compiled
      cases same
      simp [Schema.Appends, Schema.openCustoms]
  | none =>
      cases found : types.lookup name with
      | none =>
          rw [compileName_of_missing named found] at compiled
          split at compiled <;> simp at compiled
      | some type =>
          rw [compileName_of_lookup named found] at compiled
          obtain ⟨inner, made, constrained⟩ := Attempt.bind_eq_ok.mp compiled
          exact (appends_of_lookup known found made).of_constrain constrained

/-- A name with predicates is compiled to the type of the name, constrained by the
last of them. -/
theorem compileName_append_eq_ok
    (known : ∀ type ∈ types, type.2.Holds Schema.Appends)
    {name : String}
    (own extra : List Predicate) :
    compileName compiler types scope name (own ++ extra) = .ok schema ↔
      ∃ plain, compileName compiler types scope name own = .ok plain ∧
        plain.constrain extra = .ok schema := by
  cases named : Tag.ofName? name with
  | some tag =>
      rw [compileName, compileName, named]
      simp only [chain, Attempt.bind_eq_ok, Except.ok.injEq]
      constructor
      · rintro ⟨_, ⟨isType, checked, rfl⟩, rfl⟩
        exact ⟨_, ⟨_, ⟨isType, checked, rfl⟩, rfl⟩, rfl⟩
      · rintro ⟨_, ⟨_, ⟨isType, checked, rfl⟩, rfl⟩, made⟩
        exact ⟨_, ⟨isType, checked, rfl⟩, Except.ok.inj made⟩
  | none =>
      cases found : types.lookup name with
      | none =>
          rw [compileName_of_missing named found, compileName_of_missing named found]
          split <;> simp
      | some type =>
          rw [compileName_of_lookup named found, compileName_of_lookup named found]
          simp only [Attempt.bind_eq_ok]
          constructor
          · rintro ⟨inner, made, constrained⟩
            have appends := appends_of_lookup known found made
            obtain ⟨plain, first, second⟩ :=
              (Schema.constrain_append_eq_ok appends).mp constrained
            exact ⟨plain, ⟨inner, made, first⟩, second⟩
          · rintro ⟨plain, ⟨inner, made, first⟩, second⟩
            have appends := appends_of_lookup known found made
            exact ⟨inner, made, (Schema.constrain_append_eq_ok appends).mpr
              ⟨plain, first, second⟩⟩

/-- A map with predicates at the end of its list is the map, constrained by them. -/
theorem compileMap_append_eq_ok
    {entries : List (Value × Spec)}
    (own extra : List Spec) :
    compileMap compiler types scope root entries (.list (own ++ extra)) = .ok schema ↔
      ∃ plain predicates,
        compileMap compiler types scope root entries (.list own) = .ok plain ∧
        readPredicates compiler.predicates (.list extra) = .ok predicates ∧
        plain.constrain predicates = .ok schema := by
  simp only [compileMap_eq_ok, chainWith_append_eq_ok]
  constructor
  · rintro ⟨keys, _, made, ⟨first, second, firstChained, secondRead, rfl⟩, rfl⟩
    exact ⟨_, second, ⟨keys, first, made, firstChained, rfl⟩, secondRead, rfl⟩
  · rintro ⟨_, second, ⟨keys, first, made, firstChained, rfl⟩, secondRead, constrained⟩
    exact ⟨keys, _, made, ⟨first, second, firstChained, secondRead, rfl⟩,
      (Except.ok.inj constrained).symm⟩

/-- A map without a list of predicates has an empty one. -/
theorem compileMap_absent
    {entries : List (Value × Spec)} :
    compileMap compiler types scope root entries (.tuple []) =
      compileMap compiler types scope root entries (.list []) := by
  rw [compileMap, compileMap, chainWith_absent]

/-- A cast to a constrained output is the cast, constrained. -/
theorem castOf_constrain_eq_ok
    {input output constrained : Schema}
    {entries : List (Value × Spec)}
    {extra : List Predicate}
    (appends : output.Appends)
    (made : output.constrain extra = .ok constrained) :
    castOf input constrained entries = .ok schema ↔
      ∃ plain, castOf input output entries = .ok plain ∧ plain.constrain extra = .ok schema := by
  simp only [castOf_eq_ok, appends.tag_of_constrain made]
  constructor
  · rintro ⟨convertible, caster, options, called, named, rfl⟩
    exact ⟨_, ⟨convertible, caster, options, called, named, rfl⟩,
      Schema.constrain_cast_eq_ok.mpr ⟨constrained, made, rfl⟩⟩
  · rintro ⟨_, ⟨convertible, caster, options, called, named, rfl⟩, both⟩
    obtain ⟨second, remade, rfl⟩ := Schema.constrain_cast_eq_ok.mp both
    obtain rfl := Except.ok.inj (made.symm.trans remade)
    exact ⟨convertible, caster, options, called, named, rfl⟩

/-- A type with predicates at the end of its list is the type, constrained by them. -/
theorem compileSpec_type_append_eq_ok
    (known : ∀ type ∈ types, type.2.Holds Schema.Appends)
    {part : Spec}
    {own extra : List Spec} :
    compileSpec compiler types scope root (.tuple [.text "type", part, .list (own ++ extra)]) =
        .ok schema ↔
      ∃ plain predicates,
        compileSpec compiler types scope root (.tuple [.text "type", part, .list own]) =
          .ok plain ∧
        readPredicates compiler.predicates (.list extra) = .ok predicates ∧
        plain.constrain predicates = .ok schema := by
  simp only [compileSpec_type_eq_ok, optionalPart_cons_zero, readPredicates_append_eq_ok]
  constructor
  · rintro ⟨name, _, rfl, ⟨first, second, firstRead, secondRead, rfl⟩, compiled⟩
    obtain ⟨plain, made, constrained⟩ := (compileName_append_eq_ok known first second).mp compiled
    exact ⟨plain, second, ⟨name, first, rfl, firstRead, made⟩, secondRead, constrained⟩
  · rintro ⟨plain, second, ⟨name, first, rfl, firstRead, made⟩, secondRead, constrained⟩
    exact ⟨name, _, rfl, ⟨first, second, firstRead, secondRead, rfl⟩,
      (compileName_append_eq_ok known first second).mpr ⟨plain, made, constrained⟩⟩

/-- A list with predicates at the end of its list is the list, constrained by them. -/
theorem compileSpec_list_append_eq_ok
    {part : Spec}
    {own extra : List Spec} :
    compileSpec compiler types scope root (.tuple [.text "list", part, .list (own ++ extra)]) =
        .ok schema ↔
      ∃ plain predicates,
        compileSpec compiler types scope root (.tuple [.text "list", part, .list own]) =
          .ok plain ∧
        readPredicates compiler.predicates (.list extra) = .ok predicates ∧
        plain.constrain predicates = .ok schema := by
  simp only [compileSpec_list_eq_ok, optionalPart_cons_zero, chainWith_append_eq_ok]
  constructor
  · rintro ⟨_, member, ⟨first, second, firstChained, secondRead, rfl⟩, made, rfl⟩
    exact ⟨_, second, ⟨first, member, firstChained, made, rfl⟩, secondRead, rfl⟩
  · rintro ⟨_, second, ⟨first, member, firstChained, made, rfl⟩, secondRead, constrained⟩
    exact ⟨_, member, ⟨first, second, firstChained, secondRead, rfl⟩, made,
      (Except.ok.inj constrained).symm⟩

end Forms

end Compiler
end DataContract
