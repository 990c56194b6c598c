import DataContract.Proofs.Spec.Options
import DataContract.Proofs.Spec.Registered

/-!
# Where schemas come from

Every schema that compiling makes is put together from primitives, lists, maps, unions and casts
whose predicates begin with a type check, from schemas that the specification or the registry of
types holds already, and by constraining. The predicates after the type check were looked up in
the registry of predicates or are given in the specification, and so is a caster, unless it is
the default one, which then converts between the tags of both sides. A property of schemas that
all of these pass on therefore holds of all that a compiler makes.
-/

namespace DataContract

namespace Compiler

/-- A property of schemas that is passed on wherever a compiler puts schemas together from what
is its own: the specifications that it compiles and their parts. -/
structure Builds
    (compiler : Compiler)
    (own : Spec → Prop)
    (supplied : Predicate → Prop)
    (given : Caster → Prop)
    (property : Schema → Prop) : Prop where
  /-- Parts of what is its own are its own. -/
  inherited : Spec.IsInherited own
  /-- Compiled types that are its own have the property. -/
  compiled : ∀ type, own (.compiled type) → property type
  /-- Predicates that are its own are supplied. -/
  predicate : ∀ single, own (.predicate single) → supplied single
  /-- Functions that are its own are given. -/
  caster : ∀ function, own (.caster function) → given function
  /-- Predicates from its registry are supplied. -/
  registered : ∀ name args predicate, compiler.predicates.predicate name args = .ok predicate →
    supplied predicate
  /-- Primitives with supplied predicates have the property. -/
  primitive : ∀ tag isType extra, compiler.predicates.typeCheck tag = .ok isType →
    (∀ predicate ∈ extra, supplied predicate) → property (.primitive tag (isType :: extra))
  /-- Lists of what has the property have it. -/
  list : ∀ isType extra member, compiler.predicates.typeCheck .list = .ok isType →
    (∀ predicate ∈ extra, supplied predicate) → property member →
      property (.list (isType :: extra) member)
  /-- Maps of what has the property have it. -/
  map : ∀ isType extra keys atomize style, compiler.predicates.typeCheck .map = .ok isType →
    (∀ predicate ∈ extra, supplied predicate) → Key.AreDeclared keys atomize style →
      (∀ key ∈ keys, property key.type) → property (.map (isType :: extra) keys atomize style)
  /-- Unions of what has the property have it. -/
  union : ∀ left right options, property left → property right →
    property (.union left right options)
  /-- Casts between what has the property have it, by a given function or a built-in one. -/
  cast : ∀ input output caster options, property input → property output →
    given caster ∨ caster = .default ∧ hasConversion input.tag output.tag = .ok true →
      property (.cast input output caster options)
  /-- Constraining by supplied predicates keeps the property. -/
  constrain : ∀ schema extra constrained, property schema →
    (∀ predicate ∈ extra, supplied predicate) → schema.constrain extra = .ok constrained →
      property constrained

section Built

variable
  {compiler : Compiler}
  {own : Spec → Prop}
  {supplied : Predicate → Prop}
  {given : Caster → Prop}
  {property : Schema → Prop}
  {types : List (String × Spec)}
  {scope : Scope}
  {root : Path}
  {schema : Schema}

/-- The predicates that one item stands for were looked up or are given. -/
theorem Builds.predicatesOf
    (builds : compiler.Builds own supplied given property)
    {item : Spec}
    {predicates : List Predicate}
    (held : own item)
    (made : predicatesOf compiler.predicates item = .ok predicates) :
    ∀ predicate ∈ predicates, supplied predicate := by
  have alone {name : Value} {args : List Value}
      (looked : (do .ok [← compiler.predicates.predicate name args]) = Except.ok predicates) :
      ∀ predicate ∈ predicates, supplied predicate := by
    obtain ⟨single, found, same⟩ := Attempt.bind_eq_ok.mp looked
    cases same
    exact List.forall_mem_singleton.mpr (builds.registered _ _ _ found)
  unfold Compiler.predicatesOf at made
  split at made
  · cases made
    exact List.forall_mem_singleton.mpr (builds.predicate _ held)
  · exact alone made
  · exact alone made
  · intro predicate member
    obtain ⟨entry, -, looked⟩ := Attempt.exists_item_of_mem (Attempt.mapM_eq_ok.mp made) member
    exact builds.registered _ _ _ looked
  · simp at made

/-- Predicates that are read were looked up or are given. -/
theorem Builds.readPredicates
    (builds : compiler.Builds own supplied given property)
    {list : Spec}
    {predicates : List Predicate}
    (held : own list)
    (read : readPredicates compiler.predicates list = .ok predicates) :
    ∀ predicate ∈ predicates, supplied predicate := by
  obtain ⟨items, listed, read⟩ := Attempt.bind_eq_ok.mp read
  obtain ⟨found, each, same⟩ := Attempt.bind_eq_ok.mp read
  cases same
  intro predicate member
  obtain ⟨group, inside, present⟩ := List.mem_flatten.mp member
  obtain ⟨item, part, made⟩ := Attempt.exists_item_of_mem (Attempt.mapM_eq_ok.mp each) inside
  have ofItem := builds.inherited.predicates held listed item part
  exact builds.predicatesOf ofItem made predicate present

/-- The predicates of a form were looked up or are given, if it has any. -/
theorem Builds.optionalPart
    (builds : compiler.Builds own supplied given property)
    {form part : Spec}
    {rest : List Spec}
    {predicates : List Predicate}
    (held : own (.tuple (form :: part :: rest)))
    (read : Compiler.readPredicates compiler.predicates (optionalPart rest 0) = .ok predicates) :
    ∀ predicate ∈ predicates, supplied predicate := by
  cases rest with
  | nil =>
      cases read
      simp
  | cons list rest =>
      exact builds.readPredicates (builds.inherited.ofTuple held list (by simp)) read

/-- The caster of a cast is given, if it is not the default one. -/
theorem Builds.casterOf
    (builds : compiler.Builds own supplied given property)
    {input output : Spec}
    {rest : List Spec}
    {entries : List (Value × Spec)}
    {caster : Caster}
    (held : own (.tuple (.text "cast" :: input :: output :: rest)))
    (read : (optionalMap rest 0).toOptionEntries = .ok entries)
    (called : Compiler.casterOf (takeCaster entries).1 = .ok caster) :
    given caster ∨ caster = .default ∧ usesDefault (takeCaster entries).1 = true := by
  have values : ∀ entry ∈ entries, own entry.2 := by
    cases rest with
    | nil =>
        cases read
        simp
    | cons options rest =>
        have ofOptions := builds.inherited.ofTuple held options (by simp)
        have both := builds.inherited.options (fun _ => True) (by simp) (by simp) ofOptions read
        exact fun entry member => (both entry member).2
  unfold Compiler.casterOf at called
  split at called
  · rename_i option
    cases called
    exact .inr ⟨rfl, by rw [option]; rfl⟩
  · rename_i option
    cases called
    exact .inr ⟨rfl, by rw [option]; rfl⟩
  · rename_i function option
    cases called
    obtain ⟨entry, found, same⟩ := Option.map_eq_some_iff.mp option
    have ofEntry := values entry (List.mem_of_find?_eq_some found)
    rw [same] at ofEntry
    exact .inl (builds.caster _ ofEntry)
  · simp at called

/-- The schemas of compiled keys have what the values of the keys are compiled to. -/
theorem holds_compileKeys
    {entries : List (Value × Spec)}
    {seen : List Value}
    {keys : List Key}
    (each : ∀ entry ∈ entries, ∀ root type,
      compileSpec compiler types scope root entry.2 = .ok type → property type)
    (made : compileKeys compiler types scope root seen entries = .ok keys) :
    ∀ key ∈ keys, property key.type := by
  induction entries generalizing seen keys with
  | nil =>
      rw [compileKeys] at made
      cases made
      simp
  | cons entry rest hypothesis =>
      rw [List.forall_mem_cons] at each
      obtain ⟨type, inline, others, -, compiled, remaining, rfl⟩ :=
        compileKeys_cons_eq_ok.mp made
      rw [List.forall_mem_cons]
      refine ⟨?_, hypothesis each.2 remaining⟩
      rw [compileEntry_eq] at compiled
      obtain ⟨_, plain, same⟩ := Attempt.bind_eq_ok.mp compiled
      cases same
      exact each.1 _ type plain

theorem Builds.compileMap
    (builds : compiler.Builds own supplied given property)
    {entries : List (Value × Spec)}
    {list : Spec}
    (each : ∀ entry ∈ entries, ∀ root type,
      compileSpec compiler types scope root entry.2 = .ok type → property type)
    (read : ∀ extra, Compiler.readPredicates compiler.predicates list = .ok extra →
      ∀ predicate ∈ extra, supplied predicate)
    (made : compileMap compiler types scope root entries list = .ok schema) :
    property schema := by
  obtain ⟨keys, chain, keysMade, chained, rfl⟩ := compileMap_eq_ok.mp made
  obtain ⟨isType, extra, checked, listed, rfl⟩ := chainWith_eq_ok.mp chained
  exact builds.map isType extra keys _ _ checked (read extra listed)
    (areDeclared_of_compileKeys keysMade) (holds_compileKeys each keysMade)

theorem Builds.compileAlternatives
    (builds : compiler.Builds own supplied given property)
    {specs : List Spec}
    (each : ∀ spec ∈ specs, ∀ type,
      compileSpec compiler types scope [] spec = .ok type → property type)
    (made : compileAlternatives compiler types scope specs = .ok schema) :
    property schema := by
  induction specs generalizing schema with
  | nil =>
      rw [Compiler.compileAlternatives] at made
      simp at made
  | cons first rest hypothesis =>
      rw [List.forall_mem_cons] at each
      cases rest with
      | nil =>
          rw [Compiler.compileAlternatives] at made
          exact each.1 schema made
      | cons second rest =>
          rw [Compiler.compileAlternatives] at made
          simp only [Attempt.bind_eq_ok, Except.ok.injEq] at made
          obtain ⟨left, leftMade, right, rightMade, rfl⟩ := made
          exact builds.union left right [] (each.1 left leftMade) (hypothesis each.2 rightMade)

/-- A specification is compiled to a schema that has the property if the names in it are. -/
theorem Builds.holds_of_names
    (builds : compiler.Builds own supplied given property)
    (names : ∀ scope name extra schema, (∀ predicate ∈ extra, supplied predicate) →
      compileName compiler types scope name extra = .ok schema → property schema)
    {spec : Spec}
    (held : own spec)
    (made : compileSpec compiler types scope root spec = .ok schema) :
    property schema := by
  induction spec using Spec.induct generalizing scope root schema with
  | definition name inner options hypothesis =>
      rw [compileSpec_definition] at made
      exact hypothesis (builds.inherited.ofDefinition held) made
  | compiled type =>
      rw [compileSpec] at made
      obtain ⟨shown, -, same⟩ := Attempt.bind_eq_ok.mp made
      cases same
      exact builds.compiled type held
  | text name =>
      rw [compileSpec_text] at made
      exact names scope name [] schema (by simp) made
  | keys entries hypothesis =>
      rw [compileSpec_keys] at made
      refine builds.compileMap (fun entry member root type => ?_) (fun extra read => ?_) made
      · exact hypothesis entry member (builds.inherited.values entries held entry member)
      · cases read
        simp
  | alternatives first second rest hypothesis =>
      rw [compileSpec_alternatives] at made
      refine builds.compileAlternatives (fun spec member type => ?_) made
      exact hypothesis spec member (builds.inherited.ofList held spec member)
  | type name rest =>
      obtain ⟨text, extra, rfl, read, compiled⟩ := compileSpec_type_eq_ok.mp made
      exact names scope text extra schema (builds.optionalPart held read) compiled
  | list member rest hypothesis =>
      obtain ⟨chain, type, chained, compiled, rfl⟩ := compileSpec_list_eq_ok.mp made
      obtain ⟨isType, extra, checked, read, rfl⟩ := chainWith_eq_ok.mp chained
      refine builds.list isType extra type checked (builds.optionalPart held read) ?_
      exact hypothesis (builds.inherited.ofTuple held member (by simp)) compiled
  | map entries rest hypothesis =>
      rw [compileSpec_map] at made
      have ofMap := builds.inherited.ofTuple held (.map entries) (by simp)
      refine builds.compileMap (fun entry member root type => ?_)
        (fun extra read => builds.optionalPart held read) made
      exact hypothesis entry member (builds.inherited.values entries ofMap entry member)
  | union left right rest leftHypothesis rightHypothesis =>
      obtain ⟨first, second, entries, options, leftMade, rightMade, -, -, rfl⟩ :=
        compileSpec_union_eq_ok.mp made
      have parts := builds.inherited.ofTuple held
      refine builds.union first second options ?_ ?_
      · exact leftHypothesis (parts left (by simp)) leftMade
      · exact rightHypothesis (parts right (by simp)) rightMade
  | cast input output rest inputHypothesis outputHypothesis =>
      obtain ⟨entries, first, second, read, inputMade, outputMade, castMade⟩ :=
        compileSpec_cast_eq_ok.mp made
      obtain ⟨converts, caster, options, called, -, rfl⟩ := castOf_eq_ok.mp castMade
      have parts := builds.inherited.ofTuple held
      refine builds.cast first second caster options ?_ ?_ ?_
      · exact inputHypothesis (parts input (by simp)) inputMade
      · exact outputHypothesis (parts output (by simp)) outputMade
      · exact (builds.casterOf held read called).imp_right (And.imp_right converts)
  | misshapen spec refused =>
      obtain ⟨cause, -, refused⟩ := refused
      rw [refused] at made
      simp at made

/-- What a specification is compiled to has every property that its compiler builds. -/
theorem Builds.holds
    (builds : compiler.Builds own supplied given property)
    {spec : Spec}
    (known : ∀ type ∈ types, own type.2)
    (held : own spec)
    (made : compileSpec compiler types scope root spec = .ok schema) :
    property schema := by
  induction size : types.length using Nat.strongRecOn
    generalizing types scope root spec schema with
  | ind count hypothesis =>
      subst size
      refine builds.holds_of_names (fun scope name extra schema ofExtra compiled => ?_) held made
      cases named : Tag.ofName? name with
      | some tag =>
          rw [compileName, named] at compiled
          obtain ⟨chain, chained, same⟩ := Attempt.bind_eq_ok.mp compiled
          cases same
          obtain ⟨isType, checked, same⟩ := Attempt.bind_eq_ok.mp chained
          cases same
          exact builds.primitive tag isType extra checked ofExtra
      | none =>
          cases found : types.lookup name with
          | none =>
              rw [compileName_of_missing named found] at compiled
              split at compiled <;> simp at compiled
          | some type =>
              rw [compileName_of_lookup named found] at compiled
              obtain ⟨plain, inner, constrained⟩ := Attempt.bind_eq_ok.mp compiled
              obtain ⟨before, after, split, -⟩ := List.lookup_eq_some_iff.mp found
              refine builds.constrain plain extra schema ?_ ofExtra constrained
              refine hypothesis _ (length_without_lt types name type found) ?_ ?_ inner rfl
              · exact fun other member => known other (List.mem_of_mem_filter member)
              · exact known (name, type) (by simp [split])

end Built

end Compiler
end DataContract
