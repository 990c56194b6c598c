import DataContract.Proofs.Spec.Position

/-!
# Names of registered types

A name is compiled as its definition is, but in the definition the name itself cannot be looked
up any more. This makes no difference: a definition that comes back to its own name has no
schema either way, and any other is compiled to the same schema whether its name can be looked
up or not.

The proof compares a list of types with the list in which one name is missing. What is compiled
depends on the names that are compiled for it, and the definitions of these are compiled with a
shorter list, so that the two can be compared by induction on the number of types.
-/

namespace DataContract
namespace Compiler

/-- Whether a specification is compiled with some options in some place. -/
def Compiles
    (compiler : Compiler)
    (types : List (String × Spec))
    (spec : Spec) : Prop :=
  ∃ scope root schema, compileSpec compiler types scope root spec = .ok schema

/-- Whether a name is compiled with some options and some further predicates. -/
def Resolves
    (compiler : Compiler)
    (types : List (String × Spec))
    (name : String) : Prop :=
  ∃ scope extra schema, compileName compiler types scope name extra = .ok schema

section Without

variable
  {types : List (String × Spec)}
  {name other : String}

theorem without_comm
    (types : List (String × Spec))
    (name other : String) :
    without (without types name) other = without (without types other) name := by
  simp only [without, List.filter_filter, Bool.and_comm]

@[simp] theorem lookup_without_self
    (types : List (String × Spec))
    (name : String) :
    (without types name).lookup name = none := by
  rw [List.lookup_eq_none_iff]
  intro type member
  have differs : (type.1 != name) = true := (List.mem_filter.mp member).2
  rw [bne_iff_ne] at differs
  simpa using differs.symm

theorem lookup_without_of_ne
    (differs : other ≠ name) :
    (without types name).lookup other = types.lookup other := by
  induction types with
  | nil => rfl
  | cons type rest hypothesis =>
      rw [without] at hypothesis ⊢
      by_cases same : type.1 = name
      · have apart : (other == type.1) = false := by simpa [same] using differs
        rw [List.filter_cons_of_neg (by simpa using same), List.lookup_cons, apart, hypothesis]
      · rw [List.filter_cons_of_pos (by simpa using same), List.lookup_cons, List.lookup_cons,
          hypothesis]

end Without

section Names

variable
  {compiler : Compiler}
  {types : List (String × Spec)}
  {name : String}

/-- The name of a tag does not depend on the types. -/
theorem compileName_of_tag
    {tag : Tag}
    (named : Tag.ofName? name = some tag)
    (types others : List (String × Spec))
    (scope : Scope)
    (extra : List Predicate) :
    compileName compiler types scope name extra =
      compileName compiler others scope name extra := by
  rw [compileName, compileName, named]

/-- The name of a type is compiled as its entry in the registry is, without the name. -/
theorem compileName_of_lookup
    {type : Spec}
    (unnamed : Tag.ofName? name = none)
    (found : types.lookup name = some type)
    (scope : Scope)
    (extra : List Predicate) :
    compileName compiler types scope name extra = (do
      (← compileSpec compiler (without types name) scope [] type).constrain extra) := by
  unfold compileName
  rw [unnamed]
  dsimp only
  split
  · rename_i other same
    rw [found] at same
    cases same
    rfl
  · rename_i missing
    rw [found] at missing
    cases missing

/-- A name that is neither a tag nor can be looked up is refused, or stops as one that occurs in
its own definition. -/
theorem compileName_of_missing
    (unnamed : Tag.ofName? name = none)
    (missing : types.lookup name = none)
    (scope : Scope)
    (extra : List Predicate) :
    compileName compiler types scope name extra =
      if compiler.types.isRegistered name then .error .endlessDefinition
      else refuse (.unknownType (.text name)) := by
  unfold compileName
  rw [unnamed]
  dsimp only
  split
  · rename_i type found
    rw [missing] at found
    cases found
  · rfl

theorem compiles_of_resolves
    {type : Spec}
    (unnamed : Tag.ofName? name = none)
    (found : types.lookup name = some type)
    (resolves : Resolves compiler types name) :
    Compiles compiler (without types name) type := by
  obtain ⟨scope, extra, schema, made⟩ := resolves
  rw [compileName_of_lookup unnamed found] at made
  obtain ⟨plain, compiled, -⟩ := Attempt.bind_eq_ok.mp made
  exact ⟨scope, [], plain, compiled⟩

theorem exists_lookup_of_resolves
    (unnamed : Tag.ofName? name = none)
    (resolves : Resolves compiler types name) :
    ∃ type, types.lookup name = some type := by
  cases found : types.lookup name with
  | some type => exact ⟨type, rfl⟩
  | none =>
      obtain ⟨scope, extra, schema, made⟩ := resolves
      rw [compileName_of_missing unnamed found] at made
      split at made <;> simp at made

end Names

section Parts

variable
  {compiler : Compiler}
  {types others : List (String × Spec)}
  {scope : Scope}
  {root : Path}

/-- The values of compiled keys are compiled. -/
theorem compiles_of_compileKeys
    {seen : List Value}
    {entries : List (Value × Spec)}
    {keys : List Key}
    (made : compileKeys compiler types scope root seen entries = .ok keys) :
    ∀ entry ∈ entries, Compiles compiler types entry.2 := by
  induction entries generalizing seen keys with
  | nil => simp
  | cons entry rest hypothesis =>
      obtain ⟨type, inline, others, -, compiled, remaining, rfl⟩ :=
        compileKeys_cons_eq_ok.mp made
      rw [List.forall_mem_cons]
      refine ⟨?_, hypothesis remaining⟩
      rw [compileEntry_eq] at compiled
      obtain ⟨type, compiled, -⟩ := Attempt.bind_eq_ok.mp compiled
      exact ⟨scope, _, type, compiled⟩

theorem compileKeys_congr
    {entries : List (Value × Spec)}
    (same : ∀ entry ∈ entries, ∀ scope root,
      compileSpec compiler types scope root entry.2 =
        compileSpec compiler others scope root entry.2)
    (scope : Scope)
    (root : Path)
    (seen : List Value) :
    compileKeys compiler types scope root seen entries =
      compileKeys compiler others scope root seen entries := by
  induction entries generalizing seen with
  | nil => rw [compileKeys, compileKeys]
  | cons entry rest hypothesis =>
      obtain ⟨name, spec⟩ := entry
      rw [List.forall_mem_cons] at same
      obtain ⟨first, remaining⟩ := same
      rw [compileKeys, compileKeys]
      simp only [compileEntry_eq, first, hypothesis remaining]

/-- A compiled map is compiled to the same with other types if the values of its keys are. -/
theorem compileMap_eq_of_values
    {entries : List (Value × Spec)}
    {list : Spec}
    {schema : Schema}
    (same : ∀ entry ∈ entries, Compiles compiler types entry.2 → ∀ scope root,
      compileSpec compiler types scope root entry.2 =
        compileSpec compiler others scope root entry.2)
    (made : compileMap compiler types scope root entries list = .ok schema) :
    ∀ scope root,
      compileMap compiler types scope root entries list =
        compileMap compiler others scope root entries list := by
  obtain ⟨keys, chain, keysMade, -, -⟩ := compileMap_eq_ok.mp made
  have compiles := compiles_of_compileKeys keysMade
  intro scope root
  rw [compileMap, compileMap,
    compileKeys_congr fun entry member => same entry member (compiles entry member)]

theorem compiles_of_compileAlternatives
    {specs : List Spec}
    {schema : Schema}
    (made : compileAlternatives compiler types scope specs = .ok schema) :
    ∀ spec ∈ specs, Compiles compiler types spec := by
  induction specs generalizing schema with
  | nil => simp
  | cons first rest hypothesis =>
      rw [List.forall_mem_cons]
      cases rest with
      | nil =>
          rw [compileAlternatives] at made
          exact ⟨⟨scope, [], schema, made⟩, by simp⟩
      | cons second rest =>
          rw [compileAlternatives] at made
          simp only [Attempt.bind_eq_ok] at made
          obtain ⟨left, leftMade, right, rightMade, -⟩ := made
          exact ⟨⟨scope, [], left, leftMade⟩, hypothesis rightMade⟩

theorem compileAlternatives_congr
    {specs : List Spec}
    (same : ∀ spec ∈ specs, ∀ scope root,
      compileSpec compiler types scope root spec = compileSpec compiler others scope root spec)
    (scope : Scope) :
    compileAlternatives compiler types scope specs =
      compileAlternatives compiler others scope specs := by
  induction specs with
  | nil => rw [compileAlternatives, compileAlternatives]
  | cons first rest hypothesis =>
      rw [List.forall_mem_cons] at same
      obtain ⟨first, remaining⟩ := same
      cases rest with
      | nil => rw [compileAlternatives, compileAlternatives, first]
      | cons second rest =>
          rw [compileAlternatives, compileAlternatives, first, hypothesis remaining]

end Parts

section Registries

variable
  {compiler : Compiler}
  {types others : List (String × Spec)}
  {spec : Spec}

/-- What is compiled depends on the types only through the names that are compiled. -/
theorem compileSpec_eq_of_names
    (same : ∀ name, Resolves compiler types name → ∀ scope extra,
      compileName compiler types scope name extra = compileName compiler others scope name extra)
    (compiles : Compiles compiler types spec) :
    ∀ scope root,
      compileSpec compiler types scope root spec =
        compileSpec compiler others scope root spec := by
  induction spec using Spec.induct with
  | definition name inner options hypothesis =>
      obtain ⟨scope, root, schema, made⟩ := compiles
      rw [compileSpec_definition] at made
      intro scope root
      rw [compileSpec_definition, compileSpec_definition]
      exact hypothesis ⟨_, _, schema, made⟩ _ _
  | compiled type =>
      intro scope root
      rw [compileSpec, compileSpec]
  | text name =>
      obtain ⟨scope, root, schema, made⟩ := compiles
      rw [compileSpec_text] at made
      intro scope root
      rw [compileSpec_text, compileSpec_text]
      exact same name ⟨_, _, schema, made⟩ scope []
  | keys entries hypothesis =>
      obtain ⟨scope, root, schema, made⟩ := compiles
      rw [compileSpec_keys] at made
      intro scope root
      rw [compileSpec_keys, compileSpec_keys]
      exact compileMap_eq_of_values hypothesis made scope root
  | alternatives first second rest hypothesis =>
      obtain ⟨scope, root, schema, made⟩ := compiles
      rw [compileSpec_alternatives] at made
      have compiled := compiles_of_compileAlternatives made
      intro scope root
      rw [compileSpec_alternatives, compileSpec_alternatives]
      exact compileAlternatives_congr
        (fun spec member => hypothesis spec member (compiled spec member)) scope
  | type name rest =>
      obtain ⟨scope, root, schema, made⟩ := compiles
      obtain ⟨text, extra, rfl, -, compiled⟩ := compileSpec_type_eq_ok.mp made
      intro scope root
      rw [compileSpec_type, compileSpec_type]
      simp only [same text ⟨_, _, schema, compiled⟩]
  | list member rest hypothesis =>
      obtain ⟨scope, root, schema, made⟩ := compiles
      obtain ⟨chain, type, -, compiled, -⟩ := compileSpec_list_eq_ok.mp made
      intro scope root
      rw [compileSpec_list, compileSpec_list, hypothesis ⟨_, _, type, compiled⟩]
  | map entries rest hypothesis =>
      obtain ⟨scope, root, schema, made⟩ := compiles
      rw [compileSpec_map] at made
      intro scope root
      rw [compileSpec_map, compileSpec_map]
      exact compileMap_eq_of_values hypothesis made scope root
  | union left right rest leftHypothesis rightHypothesis =>
      obtain ⟨scope, root, schema, made⟩ := compiles
      obtain ⟨first, second, -, -, leftMade, rightMade, -, -, -⟩ :=
        compileSpec_union_eq_ok.mp made
      intro scope root
      rw [compileSpec_union, compileSpec_union, leftHypothesis ⟨_, _, first, leftMade⟩,
        rightHypothesis ⟨_, _, second, rightMade⟩]
  | cast input output rest inputHypothesis outputHypothesis =>
      obtain ⟨scope, root, schema, made⟩ := compiles
      obtain ⟨-, first, second, -, inputMade, outputMade, -⟩ := compileSpec_cast_eq_ok.mp made
      intro scope root
      rw [compileSpec_cast, compileSpec_cast, inputHypothesis ⟨_, _, first, inputMade⟩,
        outputHypothesis ⟨_, _, second, outputMade⟩]
  | misshapen spec refused =>
      obtain ⟨cause, -, refused⟩ := refused
      intro scope root
      rw [refused, refused]

/-- What is compiled without a name is compiled to the same schema with it. -/
theorem compileSpec_without
    (name : String)
    (compiles : Compiles compiler (without types name) spec) :
    ∀ scope root,
      compileSpec compiler (without types name) scope root spec =
        compileSpec compiler types scope root spec := by
  induction size : types.length using Nat.strongRecOn generalizing types spec with
  | ind count hypothesis =>
      subst size
      refine compileSpec_eq_of_names (fun other resolves scope extra => ?_) compiles
      cases named : Tag.ofName? other with
      | some tag => exact compileName_of_tag named _ _ scope extra
      | none =>
          obtain ⟨type, found⟩ := exists_lookup_of_resolves named resolves
          have differs : other ≠ name := by
            rintro rfl
            simp at found
          have known : types.lookup other = some type := by
            rwa [lookup_without_of_ne differs] at found
          have inner := compiles_of_resolves named found resolves
          rw [without_comm] at inner
          have same := hypothesis _ (length_without_lt types other type known) inner rfl
          rw [compileName_of_lookup named found, compileName_of_lookup named known,
            without_comm, same]

/-- If the definition of a name cannot do without the name, nothing that is compiled uses
it. -/
theorem compileSpec_of_endless
    {name : String}
    {type : Spec}
    (defined : types.lookup name = some type)
    (endless : ¬ Compiles compiler (without types name) type)
    (compiles : Compiles compiler types spec) :
    ∀ scope root,
      compileSpec compiler types scope root spec =
        compileSpec compiler (without types name) scope root spec := by
  induction size : types.length using Nat.strongRecOn generalizing types spec with
  | ind count hypothesis =>
      subst size
      refine compileSpec_eq_of_names (fun other resolves scope extra => ?_) compiles
      cases named : Tag.ofName? other with
      | some tag => exact compileName_of_tag named _ _ scope extra
      | none =>
          obtain ⟨body, found⟩ := exists_lookup_of_resolves named resolves
          have inner := compiles_of_resolves named found resolves
          have differs : other ≠ name := by
            rintro rfl
            cases defined.symm.trans found
            exact endless inner
          have known : (without types name).lookup other = some body := by
            rwa [lookup_without_of_ne differs]
          have stillDefined : (without types other).lookup name = some type := by
            rwa [lookup_without_of_ne differs.symm]
          have stillEndless :
              ¬ Compiles compiler (without (without types other) name) type := by
            rintro ⟨scope, root, schema, made⟩
            rw [without_comm] at made
            rw [compileSpec_without other ⟨scope, root, schema, made⟩] at made
            exact endless ⟨scope, root, schema, made⟩
          have same := hypothesis _ (length_without_lt types other body found) stillDefined
            stillEndless inner rfl
          rw [compileName_of_lookup named found, compileName_of_lookup named known,
            without_comm types name other, same]

/-- The definition of a name is compiled to the same schema whether the name can be looked up
or not. -/
theorem agree_without
    {name : String}
    {type : Spec}
    (defined : types.lookup name = some type)
    (scope : Scope)
    (root : Path) :
    Attempt.Agree Eq
      (compileSpec compiler (without types name) scope root type)
      (compileSpec compiler types scope root type) := by
  by_cases inner : Compiles compiler (without types name) type
  · exact .of_eq (fun _ => rfl) (compileSpec_without name inner scope root)
  · have outer : ¬ Compiles compiler types type := by
      intro compiles
      have same := compileSpec_of_endless defined inner compiles
      obtain ⟨scope, root, schema, made⟩ := compiles
      rw [same] at made
      exact inner ⟨scope, root, schema, made⟩
    cases alone : compileSpec compiler (without types name) scope root type with
    | ok schema => exact absurd ⟨scope, root, schema, alone⟩ inner
    | error fault =>
        cases among : compileSpec compiler types scope root type with
        | ok schema => exact absurd ⟨scope, root, schema, among⟩ outer
        | error other => exact .error fault other

end Registries

end Compiler
end DataContract
