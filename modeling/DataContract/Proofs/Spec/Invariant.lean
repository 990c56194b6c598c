import DataContract.Proofs.Spec.Provenance

/-!
# What compiling makes

Whatever predicates and casters a compiler is given, the schemas that it makes are
put together in a few ways, from parts of its own and from schemas that the
specification or the registry of types holds already. A property that all of these
ways keep holds of every schema that was compiled, also one after another, so that
what was compiled first is part of what is compiled then.
-/

namespace DataContract

namespace Spec

mutual

/-- The schemas that a specification holds already. -/
def embedded : Spec → List Schema
  | .compiled type => [type]
  | .definition _ inner _ => inner.embedded
  | .list items => listEmbedded items
  | .tuple items => listEmbedded items
  | .map entries => entriesEmbedded entries
  | .scalar _ | .member .. | .other _ | .predicate _ | .caster _ => []

/-- The schemas that several specifications hold already. -/
def listEmbedded : List Spec → List Schema
  | [] => []
  | spec :: rest => spec.embedded ++ listEmbedded rest

/-- The schemas that the values of entries hold already. -/
def entriesEmbedded : List (Value × Spec) → List Schema
  | [] => []
  | (_, spec) :: rest => spec.embedded ++ entriesEmbedded rest

end

/-- Whether a property holds of all schemas that a specification holds already. -/
def Holds
    (property : Schema → Prop)
    (spec : Spec) : Prop :=
  ∀ type ∈ spec.embedded, property type

section Parts

variable {property : Schema → Prop}

mutual

/-- A plain value holds no schemas. -/
theorem embedded_ofValue (value : Value) : (ofValue value).embedded = [] := by
  match value with
  | .scalar _ | .member .. | .record .. | .handle _ => rw [ofValue, embedded]
  | .list items | .tuple items => rw [ofValue, embedded, listEmbedded_ofValues items]
  | .map entries => rw [ofValue, embedded, entriesEmbedded_ofEntries entries]

theorem listEmbedded_ofValues (values : List Value) : listEmbedded (ofValues values) = [] := by
  match values with
  | [] => rw [ofValues, listEmbedded]
  | value :: rest =>
      rw [ofValues, listEmbedded, embedded_ofValue value, listEmbedded_ofValues rest]
      rfl

theorem entriesEmbedded_ofEntries (entries : Entries) :
    entriesEmbedded (ofEntries entries) = [] := by
  match entries with
  | [] => rw [ofEntries, entriesEmbedded]
  | (key, value) :: rest =>
      rw [ofEntries, entriesEmbedded, embedded_ofValue value, entriesEmbedded_ofEntries rest]
      rfl

end

theorem forall_listEmbedded
    {specs : List Spec} :
    (∀ type ∈ listEmbedded specs, property type) ↔ ∀ spec ∈ specs, spec.Holds property := by
  induction specs with
  | nil => simp [listEmbedded]
  | cons spec rest hypothesis =>
      simp only [listEmbedded, List.mem_append, or_imp, forall_and, hypothesis,
        List.forall_mem_cons]
      rfl

theorem forall_entriesEmbedded
    {entries : List (Value × Spec)} :
    (∀ type ∈ entriesEmbedded entries, property type) ↔
      ∀ entry ∈ entries, entry.2.Holds property := by
  induction entries with
  | nil => simp [entriesEmbedded]
  | cons entry rest hypothesis =>
      simp only [entriesEmbedded, List.mem_append, or_imp, forall_and, hypothesis,
        List.forall_mem_cons]
      rfl

theorem holds_ofValue (value : Value) : (ofValue value).Holds property := by
  simp [Holds, embedded_ofValue]

/-- What holds of all schemas in a specification holds of all schemas in its parts. -/
theorem isInherited_holds : IsInherited (Holds property) where
  values entries held := by
    rwa [Holds, embedded, forall_entriesEmbedded] at held
  items whole items held found := by
    unfold items? at found
    split at found
    · cases found
      rwa [Holds, embedded, forall_listEmbedded] at held
    · cases found
      rwa [Holds, embedded, forall_listEmbedded] at held
    · cases found
      intro item member
      obtain ⟨entry, -, rfl⟩ := List.mem_map.mp member
      exact holds_ofValue entry.1
    · cases found
      rw [Holds, embedded] at held
      simpa [Holds, field, embedded, listEmbedded, embedded_ofValue] using held
    · obtain ⟨values, -, rfl⟩ := Option.map_eq_some_iff.mp found
      rw [← forall_listEmbedded, listEmbedded_ofValues]
      simp

end Parts

end Spec

namespace Compiler

/-- A property of schemas that is passed on wherever a compiler puts schemas
together. -/
structure Keeps
    (compiler : Compiler)
    (property : Schema → Prop) : Prop where
  /-- Primitives have it. -/
  primitive : ∀ tag isType extra, compiler.predicates.typeCheck tag = .ok isType →
    property (.primitive tag (isType :: extra))
  /-- Lists of what has it have it. -/
  list : ∀ isType extra member, compiler.predicates.typeCheck .list = .ok isType →
    property member → property (.list (isType :: extra) member)
  /-- Maps of what has it have it. -/
  map : ∀ isType extra keys atomize style,
    compiler.predicates.typeCheck .map = .ok isType →
      Key.AreDeclared keys atomize style → (∀ key ∈ keys, property key.type) →
        property (.map (isType :: extra) keys atomize style)
  /-- Unions of what has it have it. -/
  union : ∀ left right options, property left → property right →
    property (.union left right options)
  /-- Casts between what has it have it. -/
  cast : ∀ input output caster options, property input → property output →
    property (.cast input output caster options)
  /-- Constraining keeps it. -/
  constrain : ∀ schema extra constrained, property schema →
    schema.constrain extra = .ok constrained → property constrained

section Kept

variable
  {compiler : Compiler}
  {property : Schema → Prop}

/-- What a compiler keeps it builds, whatever predicates and casters it is given. -/
theorem Keeps.builds (keeps : compiler.Keeps property) :
    compiler.Builds (Spec.Holds property) (fun _ => True) (fun _ => True) property where
  inherited := Spec.isInherited_holds
  compiled type held := held type (by simp [Spec.embedded])
  predicate _ _ := trivial
  caster _ _ := trivial
  registered _ _ _ _ := trivial
  primitive tag isType extra checked _ := keeps.primitive tag isType extra checked
  list isType extra member checked _ := keeps.list isType extra member checked
  map isType extra keys atomize style checked _ := keeps.map isType extra keys atomize style checked
  union := keeps.union
  cast input output caster options ofInput ofOutput _ :=
    keeps.cast input output caster options ofInput ofOutput
  constrain schema extra constrained held _ := keeps.constrain schema extra constrained held

/-- What a specification is compiled to has every property that its compiler
keeps, if all schemas have it that are compiled already. -/
theorem holds_compileSpec
    (keeps : compiler.Keeps property)
    (types : List (String × Spec))
    (scope : Scope)
    (root : Path)
    (spec : Spec)
    (schema : Schema)
    (known : ∀ type ∈ types, type.2.Holds property)
    (held : spec.Holds property)
    (compiled : compileSpec compiler types scope root spec = .ok schema) :
    property schema :=
  keeps.builds.holds known held compiled

end Kept

/-- The built-in types and predicates, but for a type check that gives every value one answer. -/
def blind (answer : Bool) : Compiler :=
  { standard with
    predicates := ⟨PredicateRegistry.put Predicate.builtins Failure.typePredicate
      (Predicate.binary fun _ _ => .ok answer)⟩ }

end Compiler

namespace Schema

/-- Whether a schema was compiled by a compiler whose registry of predicates is an
allowed one, or constrained after that. The schemas that were compiled already
before it must have been made in this way too. -/
inductive IsCompiled (allowed : PredicateRegistry → Prop) : Schema → Prop
  | compile
      (compiler : Compiler)
      (spec : Spec)
      (options : CompileOptions)
      (schema : Schema)
      (permitted : allowed compiler.predicates)
      (registered : ∀ type ∈ compiler.types.types, ∀ part ∈ type.2.embedded,
        IsCompiled allowed part)
      (held : ∀ part ∈ spec.embedded, IsCompiled allowed part)
      (compiled : compiler.compile spec options = .ok schema) :
      IsCompiled allowed schema
  | constrain
      (schema constrained : Schema)
      (extra : List Predicate)
      (before : IsCompiled allowed schema)
      (made : schema.constrain extra = .ok constrained) :
      IsCompiled allowed constrained

/-- What all allowed compilers keep holds of every compiled schema. -/
theorem IsCompiled.holds
    {allowed : PredicateRegistry → Prop}
    {property : Schema → Prop}
    (keeps : ∀ compiler : Compiler, allowed compiler.predicates → compiler.Keeps property)
    (constrains : ∀ schema extra constrained, property schema →
      schema.constrain extra = .ok constrained → property constrained)
    {schema : Schema}
    (compiled : schema.IsCompiled allowed) :
    property schema := by
  induction compiled with
  | compile compiler spec options schema permitted _ _ made registered held =>
      exact Compiler.holds_compileSpec (keeps compiler permitted) _ _ [] spec schema
        registered held made
  | constrain schema constrained extra _ made hypothesis =>
      exact constrains schema extra constrained hypothesis made

end Schema
end DataContract
