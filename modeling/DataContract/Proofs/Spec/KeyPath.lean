import DataContract.Proofs.Spec.Scoping

/-!
# Keys of compiled maps

The keys of a compiled map are those that its specification declares, one for each entry and in
the order of the entries. A map that is given directly for a key continues the path of the key,
and the key has the keys of this map for its children; everywhere else, in lists, alternatives,
casts and definitions, paths start anew. No map declares a name twice: whatever a specification
leads to, it cannot be compiled if there is such a map.
-/

namespace DataContract

/-- What a key of a map of specifications declares: the name in a pair with a presence, or else
the key itself, which is required then. -/
inductive Declares : Value → Presence → Value → Prop
  | required (name : Value) :
      Declares (.tuple [.text "required", name]) .required name
  | optional (name : Value) :
      Declares (.tuple [.text "optional", name]) .optional name
  | bare
      (name : Value)
      (notRequired : ∀ inner, name ≠ .tuple [.text "required", inner])
      (notOptional : ∀ inner, name ≠ .tuple [.text "optional", inner]) :
      Declares name .required name

namespace Compiler

theorem declares_iff
    {key name : Value}
    {presence : Presence} :
    Declares key presence name ↔ declaredKey key = (presence, name) := by
  constructor
  · rintro (_ | _ | ⟨_, notRequired, notOptional⟩)
    · rfl
    · rfl
    · unfold declaredKey
      split
      · rename_i word inner
        split
        · rename_i presence found
          obtain rfl : presence.name = word := by simpa using List.find?_some found
          cases presence with
          | required => exact absurd rfl (notRequired inner)
          | optional => exact absurd rfl (notOptional inner)
        · rfl
      · rfl
  · intro declared
    unfold declaredKey at declared
    split at declared
    · rename_i word inner
      split at declared
      · rename_i found
        cases declared
        obtain rfl : presence.name = word := by simpa using List.find?_some found
        cases presence with
        | required => exact .required name
        | optional => exact .optional name
      · rename_i unknown
        cases declared
        refine .bare _ ?_ ?_
        · rintro other ⟨⟩
          cases unknown
        · rintro other ⟨⟩
          cases unknown
    · rename_i plain
      cases declared
      exact .bare _ (fun inner => plain _ inner) fun inner => plain _ inner

end Compiler

/-- Whether a key of a compiled map is made for an entry of its specification, with some names
around it. -/
structure Key.IsMadeFor
    (around : Path)
    (entry : Value × Spec)
    (key : Key) : Prop where
  /-- It has the declared presence and name. -/
  declared : Declares entry.1 key.presence key.name
  /-- Its path is its name behind those around it. -/
  path : key.path = around ++ [key.name]
  /-- Its children are the keys of a map that is given in its place. -/
  children : key.children = if entry.2.isKeyed then key.type.keys else []

/-- Whether the keys of a compiled map are made for the entries of its specification, and no
name equals an earlier one. -/
structure Key.AreMadeFor
    (around : Path)
    (entries : List (Value × Spec))
    (keys : List Key) : Prop where
  /-- There is one for each entry, in order. -/
  each : List.Forall₂ (Key.IsMadeFor around) entries keys
  /-- No name equals an earlier one. -/
  distinct : keys.Pairwise fun earlier later => later.name.sameKey earlier.name = false

/-- Whether entries of a map declare a name that an earlier entry declares, whatever the presence
that goes with it. -/
def DeclaresTwice (entries : List (Value × Spec)) : Prop :=
  ∃ earlier later presence otherPresence name other,
    [earlier, later].Sublist entries ∧
      Declares earlier.1 presence name ∧ Declares later.1 otherPresence other ∧
        other.sameKey name = true

/-- Keys are not made for entries that declare a name twice. -/
theorem Key.AreMadeFor.not_declaresTwice
    {around : Path}
    {entries : List (Value × Spec)}
    {keys : List Key}
    (made : Key.AreMadeFor around entries keys) :
    ¬ DeclaresTwice entries := by
  have names : keys.map Key.name = entries.map fun entry => (Compiler.declaredKey entry.1).2 := by
    have each := made.each
    clear made
    induction each with
    | nil => rfl
    | cons first _ hypothesis =>
        rw [List.map_cons, List.map_cons, hypothesis, Compiler.declares_iff.mp first.declared]
  have distinct := made.distinct
  rw [← List.pairwise_map (f := Key.name) (R := fun a b => b.sameKey a = false), names,
    List.pairwise_map, List.pairwise_iff_forall_sublist] at distinct
  rintro ⟨earlier, later, _, _, name, other, inside, first, second, same⟩
  have differs := distinct inside
  rw [Compiler.declares_iff.mp first, Compiler.declares_iff.mp second, same] at differs
  cases differs

namespace Schema

/-- The keys of the map that some steps lead to. -/
def keysAt?
    (schema : Schema)
    (steps : List Step) : Option (List Key) :=
  ((schema.at? steps).bind mapParts?).map Prod.fst

theorem keysAt?_append
    {schema part : Schema}
    {steps : List Step}
    (found : schema.at? steps = some part)
    (rest : List Step) :
    schema.keysAt? (steps ++ rest) = part.keysAt? rest := by
  rw [keysAt?, at?_append, found]
  rfl

theorem keysAt?_of_constrain
    {schema constrained : Schema}
    {extra : List Predicate}
    (made : schema.constrain extra = .ok constrained)
    (steps : List Step) :
    constrained.keysAt? steps = schema.keysAt? steps := by
  rw [keysAt?, keysAt?, bind_mapParts?_of_constrain made]

/-- A map has options if it has keys. -/
theorem isSome_optionsAt?
    {schema : Schema}
    {steps : List Step}
    {keys : List Key}
    (found : schema.keysAt? steps = some keys) :
    (schema.optionsAt? steps).isSome = true := by
  obtain ⟨parts, present, -⟩ := Option.map_eq_some_iff.mp found
  rw [optionsAt?_eq_map_mapParts?, present]
  rfl

end Schema

namespace Spec

/-- The entries of a map of keys, given alone or with predicates. -/
def entries? : Spec → Option (List (Value × Spec))
  | .map entries => some entries
  | .tuple (.text "map" :: .map entries :: _) => some entries
  | _ => none

/-- Where a map of a compiled schema has its keys from: from the entries of a map of keys with
some names around it, or from the map of a schema that was compiled before. -/
inductive KeySource
  | declared
      (around : Path)
      (entries : List (Value × Spec))
  | within
      (type : Schema)
      (steps : List Schema.Step)

/-- Whether the keys of a map, if there is one, are those of a source. -/
def KeySource.Provides : KeySource → Option (List Key) → Prop
  | .declared around entries, found =>
      ∃ keys, found = some keys ∧ Key.AreMadeFor around entries keys
  | .within type steps, found => found = type.keysAt? steps

/-- Whether, going along a specification as some steps go along its schema, one comes to a source
of keys. The names around the specification go on to a map that is given directly for a key, with
the name of the key; all others start anew. A name leads on to the type that it stands for. -/
inductive Draws (types : List (String × Spec)) :
    Path → Spec → List Schema.Step → KeySource → Prop
  | here
      (root : Path)
      (spec : Spec)
      (entries : List (Value × Spec))
      (own : spec.entries? = some entries) :
      Draws types root spec [] (.declared root entries)
  | compiled
      (root : Path)
      (type : Schema)
      (steps : List Schema.Step) :
      Draws types root (.compiled type) steps (.within type steps)
  | name
      (root : Path)
      (name : String)
      (type : Spec)
      (steps : List Schema.Step)
      (source : KeySource)
      (unnamed : Tag.ofName? name = none)
      (found : types.lookup name = some type)
      (inside : Draws types [] type steps source) :
      Draws types root (.text name) steps source
  | type
      (root : Path)
      (name : String)
      (rest : List Spec)
      (type : Spec)
      (steps : List Schema.Step)
      (source : KeySource)
      (unnamed : Tag.ofName? name = none)
      (found : types.lookup name = some type)
      (inside : Draws types [] type steps source) :
      Draws types root (.tuple (.text "type" :: .text name :: rest)) steps source
  | fill
      (root : Path)
      (frame : SpecFrame)
      (filler : Spec)
      (steps : List Schema.Step)
      (source : KeySource)
      (inside : Draws types (frame.root root filler) filler steps source) :
      Draws types root (frame.fill filler) (frame.steps ++ steps) source

/-- Where a map has its options from there is a source of its keys. -/
theorem Leads.exists_draws
    {types : List (String × Spec)}
    {enclosing : List CompileOptions}
    {spec : Spec}
    {steps : List Schema.Step}
    {origin : Origin}
    (leads : Leads types enclosing spec steps origin)
    (root : Path) :
    ∃ source, Draws types root spec steps source := by
  induction leads generalizing root with
  | here enclosing spec keyed =>
      unfold isKeyed at keyed
      split at keyed
      · exact ⟨_, .here root _ _ rfl⟩
      · exact ⟨_, .here root _ _ rfl⟩
      · cases keyed
  | compiled enclosing type steps => exact ⟨_, .compiled root type steps⟩
  | name enclosing name type steps origin unnamed found _ hypothesis =>
      obtain ⟨source, inside⟩ := hypothesis []
      exact ⟨source, .name root name type steps source unnamed found inside⟩
  | type enclosing name rest type steps origin unnamed found _ hypothesis =>
      obtain ⟨source, inside⟩ := hypothesis []
      exact ⟨source, .type root name rest type steps source unnamed found inside⟩
  | fill enclosing frame filler steps origin _ hypothesis =>
      obtain ⟨source, inside⟩ := hypothesis (frame.root root filler)
      exact ⟨source, .fill root frame filler steps source inside⟩

end Spec

namespace Compiler

open Spec (Draws KeySource)

section Keys

variable
  {compiler : Compiler}
  {types : List (String × Spec)}
  {scope : Scope}
  {root : Path}

/-- Compiled keys are made for the entries that they are compiled from. -/
theorem areMadeFor_of_compileKeys
    {entries : List (Value × Spec)}
    {seen : List Value}
    {keys : List Key}
    (made : compileKeys compiler types scope root seen entries = .ok keys) :
    Key.AreMadeFor root entries keys := by
  refine ⟨?_, (areDeclared_of_compileKeys made).distinct⟩
  induction entries generalizing seen keys with
  | nil =>
      rw [compileKeys] at made
      cases made
      exact .nil
  | cons entry rest hypothesis =>
      obtain ⟨type, inline, others, -, compiled, remaining, rfl⟩ :=
        compileKeys_cons_eq_ok.mp made
      rw [compileEntry_eq] at compiled
      obtain ⟨schema, -, same⟩ := Attempt.bind_eq_ok.mp compiled
      cases same
      exact .cons ⟨declares_iff.mpr rfl, rfl, rfl⟩ (hypothesis remaining)

/-- A map of keys is compiled to a map whose keys are made for its entries. -/
theorem exists_keysAt?_of_entries?
    {spec : Spec}
    {entries : List (Value × Spec)}
    {schema : Schema}
    (own : spec.entries? = some entries)
    (made : compileSpec compiler types scope root spec = .ok schema) :
    ∃ keys, schema.keysAt? [] = some keys ∧ Key.AreMadeFor root entries keys := by
  have mapped : ∃ list, compileMap compiler types scope root entries list = .ok schema := by
    unfold Spec.entries? at own
    split at own
    · cases own
      rw [compileSpec_keys] at made
      exact ⟨_, made⟩
    · cases own
      rw [compileSpec_map] at made
      exact ⟨_, made⟩
    · cases own
  obtain ⟨list, mapped⟩ := mapped
  obtain ⟨keys, chain, keysMade, -, rfl⟩ := compileMap_eq_ok.mp mapped
  exact ⟨keys, rfl, areMadeFor_of_compileKeys keysMade⟩

/-- A map has the keys of its source. -/
theorem provides_of_draws
    {spec : Spec}
    {steps : List Schema.Step}
    {source : KeySource}
    {schema : Schema}
    (draws : Draws types root spec steps source)
    (made : compileSpec compiler types scope root spec = .ok schema) :
    source.Provides (schema.keysAt? steps) := by
  induction draws generalizing scope schema with
  | here root spec entries own => exact exists_keysAt?_of_entries? own made
  | compiled root type steps =>
      rw [compileSpec] at made
      obtain ⟨shown, -, same⟩ := Attempt.bind_eq_ok.mp made
      cases same
      rfl
  | name root name type steps source unnamed found _ hypothesis =>
      rw [compileSpec_text] at made
      obtain ⟨plain, -, compiled, constrained⟩ := exists_type_of_compileName unnamed found made
      rw [Schema.keysAt?_of_constrain constrained]
      exact hypothesis compiled
  | type root name rest type steps source unnamed found _ hypothesis =>
      obtain ⟨text, extra, same, -, made⟩ := compileSpec_type_eq_ok.mp made
      cases same
      obtain ⟨plain, -, compiled, constrained⟩ := exists_type_of_compileName unnamed found made
      rw [Schema.keysAt?_of_constrain constrained]
      exact hypothesis compiled
  | fill root frame filler steps source _ hypothesis =>
      obtain ⟨inner, compiled, reached, -⟩ := exists_inner_of_fill made
      rw [Schema.keysAt?_append reached]
      exact hypothesis compiled

end Keys

/-- Every map of a compiled schema has its keys from a map of keys that its specification leads
to, or from a schema that was compiled before. For every entry of a map there is one key, in the
order of the entries, with the presence and the name that the entry declares, with the path of the
keys around it and its own name, and with children if a map is given for it directly. No name
equals an earlier one, and where a specification leads to a map that declares a name twice, it is
not compiled. -/
theorem compile_keys
    (compiler : Compiler)
    (spec : Spec)
    (options : CompileOptions) :
    (∀ schema, compiler.compile spec options = .ok schema →
      (∀ steps keys, schema.keysAt? steps = some keys →
        ∃ source, Draws compiler.types.types [] spec steps source) ∧
      ∀ steps source, Draws compiler.types.types [] spec steps source →
        source.Provides (schema.keysAt? steps)) ∧
    ∀ steps around entries,
      Draws compiler.types.types [] spec steps (.declared around entries) →
        DeclaresTwice entries → ∀ schema, compiler.compile spec options ≠ .ok schema := by
  refine ⟨fun schema made => ⟨fun steps keys found => ?_, fun steps source draws => ?_⟩,
    fun steps around entries draws twice schema made => ?_⟩
  · obtain ⟨origin, leads⟩ := hasOrigins compiler _ spec [options] _ _ schema steps made
      (Schema.isSome_optionsAt? found)
    exact leads.exists_draws []
  · exact provides_of_draws draws made
  · obtain ⟨keys, -, declared⟩ := provides_of_draws draws made
    exact declared.not_declaresTwice twice

/-- The entries of an owner, whose address may be missing. -/
def ownerEntries : List (Value × Spec) :=
  [(.tuple [.text "optional", .text "address"], .text "string")]

/-- A catalogue with an owner, given in place, and a list of books. -/
def catalogueSpec : Spec :=
  .map
    [(.tuple [.text "required", .text "owner"], .tuple [.text "map", .map ownerEntries]),
      (.text "books", .tuple [.text "list", .map [(.text "title", .text "string")]])]

theorem compile_catalogue :
    ∃ schema, standard.compile catalogueSpec .none = .ok schema := by
  have string (types : List (String × Spec)) (scope : Scope) :
      compileName standard types scope "string" [] =
        .ok (.primitive .string [.typeCheck .string]) := by
    rw [compileName]
    rfl
  simp [catalogueSpec, ownerEntries, compile, compileSpec, compileMap, compileKeys, compileEntry,
    declaredKey, string]
  exact ⟨_, rfl⟩

theorem compile_keys_catalogue :
    ∃ schema keys inner titles, standard.compile catalogueSpec .none = .ok schema ∧
      schema.keysAt? [] = some keys ∧ keys.length = 2 ∧
      schema.keysAt? [.key 0] = some inner ∧
      Key.AreMadeFor [.text "owner"] ownerEntries inner ∧
      schema.keysAt? [.key 1, .member] = some titles ∧
      Key.AreMadeFor [] [(.text "title", .text "string")] titles ∧
      ∀ schema, standard.compile
        (.tuple
          [.text "list",
            .map [(.text "title", .text "string"),
              (.tuple [.text "optional", .text "title"], .text "string")]])
        .none ≠ .ok schema := by
  obtain ⟨schema, made⟩ := compile_catalogue
  have provides := ((compile_keys standard catalogueSpec .none).1 schema made).2
  obtain ⟨keys, found, declared⟩ := provides _ _ (.here _ _ _ rfl)
  obtain ⟨inner, innerFound, innerDeclared⟩ := provides _ _
    (.fill _ (.entry [] (.tuple [.text "required", .text "owner"]) _) _ _ _ (.here _ _ _ rfl))
  obtain ⟨titles, titlesFound, titlesDeclared⟩ := provides _ _
    (.fill _ (.entry [_] (.text "books") []) _ _ _
      (.fill _ (.member []) _ _ _ (.here _ _ _ rfl)))
  refine ⟨schema, keys, inner, titles, made, found, declared.each.length_eq.symm, innerFound,
    innerDeclared, titlesFound, titlesDeclared, ?_⟩
  refine (compile_keys standard _ .none).2 _ _ _
    (.fill _ (.member []) _ _ _ (.here _ _ _ rfl)) ?_
  exact ⟨_, _, _, _, _, _, .refl _, .bare _ (by simp) (by simp), .optional _,
    Value.sameKey_self _⟩

end Compiler
end DataContract
