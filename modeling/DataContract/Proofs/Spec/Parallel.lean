import DataContract.Proofs.Schema.Constraining
import DataContract.Proofs.Spec.Context
import DataContract.Proofs.Spec.Registered

/-!
# Compilers side by side

Two compilers that find the same under every name go through a specification step by step
together. If what they put together from related parts is related, they come to related schemas
or stop with related faults. What counts as related may leave out what the compilers do
differently, such as the options that they start with. The two specifications may differ as well,
as long as their parts are compiled to related schemas.
-/

namespace DataContract

/-- Whether two keys differ in nothing but their schemas, and these are related. -/
inductive Key.Parallel (related : Schema → Schema → Prop) : Key → Key → Prop
  | mk
      (around : Path)
      (name : Value)
      (presence : Presence)
      (inline : Bool)
      {type other : Schema}
      (same : related type other) :
      Parallel related (.mk around name presence type inline)
        (.mk around name presence other inline)

namespace Compiler

section Predicates

variable {registry other : PredicateRegistry}

/-- The predicates that are read depend on a registry only through the predicates that it makes
from names. -/
theorem readPredicates_congr
    (same : registry.predicate = other.predicate)
    (list : Spec) :
    readPredicates registry list = readPredicates other list := by
  have items : predicatesOf registry = predicatesOf other := by
    funext item
    simp only [predicatesOf, same]
  rw [readPredicates, readPredicates, items]

theorem chainWith_congr
    (same : registry.predicate = other.predicate)
    (tag : Tag)
    (list : Spec) :
    chainWith registry tag list = chainWith other tag list := by
  simp only [chainWith, same, readPredicates_congr same]

end Predicates

/-- Two compilers side by side, with the options that may be in force on both sides, and with
what counts as the same fault and as the same schema. -/
structure Comparison where
  /-- The one compiler. -/
  compiler : Compiler
  /-- The other compiler. -/
  other : Compiler
  /-- Which options may be in force on both sides. -/
  scopes : Scope → Scope → Prop
  /-- Which faults count as the same. -/
  faults : Fault → Fault → Prop
  /-- Which schemas count as the same. -/
  related : Schema → Schema → Prop

namespace Comparison

/-- Whether two specifications are compiled to related schemas or refused with related faults,
with different types to look up, wherever the two stand. -/
structure Together
    (comparison : Comparison)
    (types others : List (String × Spec))
    (spec other : Spec) : Prop where
  /-- Both are maps of keys, or neither is. -/
  keyed : spec.isKeyed = other.isKeyed
  /-- Wherever they stand, what they are compiled to counts as the same. -/
  matched : ∀ scope otherScope root, comparison.scopes scope otherScope →
    Attempt.Matches comparison.faults comparison.related
      (compileSpec comparison.compiler types scope root spec)
      (compileSpec comparison.other others otherScope root other)

/-- Whether all names are compiled to related schemas, with different types to look up. -/
def NamesTogether
    (comparison : Comparison)
    (types others : List (String × Spec)) : Prop :=
  ∀ name extra scope otherScope, comparison.scopes scope otherScope →
    Attempt.Matches comparison.faults comparison.related
      (compileName comparison.compiler types scope name extra)
      (compileName comparison.other others otherScope name extra)

/-- Whether two compilers find the same predicates under every name and know the same names of
types, and what they put together from related parts is related. -/
structure IsParallel (comparison : Comparison) : Prop where
  /-- The same predicates are under every name. -/
  predicate : comparison.compiler.predicates.predicate = comparison.other.predicates.predicate
  /-- The same names of types are known. -/
  registered : ∀ name,
    comparison.compiler.types.isRegistered name = comparison.other.types.isRegistered name
  /-- Options that a definition sets are in force on both sides. -/
  enter : ∀ scope otherScope options, comparison.scopes scope otherScope →
    comparison.scopes (scope.enter options) (otherScope.enter options)
  /-- A fault counts as the same as itself. -/
  ofFaults : ∀ fault, comparison.faults fault fault
  /-- A schema counts as the same as itself. -/
  reflexive : ∀ schema, comparison.related schema schema
  /-- Lists of what counts as the same count as the same. -/
  list : ∀ chain member other, comparison.related member other →
    comparison.related (.list chain member) (.list chain other)
  /-- Maps of what counts as the same count as the same. -/
  map : ∀ chain keys others scope otherScope, comparison.scopes scope otherScope →
    List.Forall₂ (Key.Parallel comparison.related) keys others →
      comparison.related (.map chain keys scope.atomize.truthy scope.style)
        (.map chain others otherScope.atomize.truthy otherScope.style)
  /-- Unions of what counts as the same count as the same. -/
  union : ∀ left right otherLeft otherRight options, comparison.related left otherLeft →
    comparison.related right otherRight →
      comparison.related (.union left right options) (.union otherLeft otherRight options)
  /-- Casts between what counts as the same count as the same. -/
  cast : ∀ input output otherInput otherOutput caster options,
    comparison.related input otherInput → comparison.related output otherOutput →
      comparison.related (.cast input output caster options)
        (.cast otherInput otherOutput caster options)
  /-- What counts as the same has the same tag. -/
  tag : ∀ schema other, comparison.related schema other → schema.tag = other.tag
  /-- Constraining comes to the same. -/
  constrain : ∀ schema other extra, comparison.related schema other →
    Attempt.Matches comparison.faults comparison.related (schema.constrain extra)
      (other.constrain extra)

namespace IsParallel

section Parts

variable
  {comparison : Comparison}
  {types others : List (String × Spec)}
  {scope otherScope : Scope}
  {spec otherSpec : Spec}
  {specs otherSpecs : List Spec}
  {entries otherEntries : List (Value × Spec)}

/-- Keys whose values are compiled to related schemas are compiled to keys that differ in nothing
else. -/
theorem matches_compileKeys
    (parallel : comparison.IsParallel)
    (values : List.Forall₂
      (fun entry other => entry.1 = other.1 ∧ comparison.Together types others entry.2 other.2)
      entries otherEntries)
    (inForce : comparison.scopes scope otherScope)
    (root : Path)
    (seen : List Value) :
    Attempt.Matches comparison.faults (List.Forall₂ (Key.Parallel comparison.related))
      (compileKeys comparison.compiler types scope root seen entries)
      (compileKeys comparison.other others otherScope root seen otherEntries) := by
  induction values generalizing seen with
  | nil =>
      rw [compileKeys, compileKeys]
      exact .ok .nil
  | @cons entry other rest otherRest same _ hypothesis =>
      obtain ⟨name, spec⟩ := entry
      obtain ⟨_, otherSpec⟩ := other
      obtain ⟨rfl, same⟩ := same
      rw [compileKeys, compileKeys]
      dsimp only
      split
      · exact .error (parallel.ofFaults _)
      · rw [compileEntry_eq, compileEntry_eq]
        have value (path : Path) : Attempt.Matches comparison.faults
            (fun made otherMade => comparison.related made.1 otherMade.1 ∧ made.2 = otherMade.2)
            (do
              let type ← compileSpec comparison.compiler types scope
                (if spec.isKeyed then path else []) spec
              .ok (type, spec.isKeyed))
            (do
              let type ← compileSpec comparison.other others otherScope
                (if otherSpec.isKeyed then path else []) otherSpec
              .ok (type, otherSpec.isKeyed)) := by
          rw [← same.keyed]
          exact .bind (same.matched _ _ _ inForce) fun type otherType alike => .ok ⟨alike, rfl⟩
        refine .bind (value _) fun made otherMade alike => ?_
        refine .bind (hypothesis _) fun keys otherKeys remain => .ok ?_
        rw [alike.2]
        exact .cons (.mk _ _ _ _ alike.1) remain

theorem matches_compileMap
    (parallel : comparison.IsParallel)
    (values : List.Forall₂
      (fun entry other => entry.1 = other.1 ∧ comparison.Together types others entry.2 other.2)
      entries otherEntries)
    (inForce : comparison.scopes scope otherScope)
    (root : Path)
    (list : Spec) :
    Attempt.Matches comparison.faults comparison.related
      (compileMap comparison.compiler types scope root entries list)
      (compileMap comparison.other others otherScope root otherEntries list) := by
  rw [compileMap, compileMap, chainWith_congr parallel.predicate]
  refine .bind (parallel.matches_compileKeys values inForce root []) fun keys otherKeys same => ?_
  refine .bind_same parallel.ofFaults _ fun chain => .ok ?_
  exact parallel.map chain keys otherKeys scope otherScope inForce same

theorem matches_compileAlternatives
    (parallel : comparison.IsParallel)
    (each : List.Forall₂ (comparison.Together types others) specs otherSpecs)
    (inForce : comparison.scopes scope otherScope) :
    Attempt.Matches comparison.faults comparison.related
      (compileAlternatives comparison.compiler types scope specs)
      (compileAlternatives comparison.other others otherScope otherSpecs) := by
  induction each with
  | nil =>
      rw [compileAlternatives, compileAlternatives]
      exact .error (parallel.ofFaults _)
  | cons first remain hypothesis =>
      cases remain with
      | nil =>
          rw [compileAlternatives, compileAlternatives]
          exact first.matched _ _ [] inForce
      | cons second rest =>
          rw [compileAlternatives, compileAlternatives]
          refine .bind (first.matched _ _ [] inForce) fun left otherLeft lefts => ?_
          refine .bind hypothesis fun right otherRight rights => .ok ?_
          exact parallel.union left right otherLeft otherRight [] lefts rights

/-- Whether a cast can be made depends on the tags of its sides only. -/
theorem matches_castOf
    (parallel : comparison.IsParallel)
    {input output otherInput otherOutput : Schema}
    (inputs : comparison.related input otherInput)
    (outputs : comparison.related output otherOutput)
    (options : List (Value × Spec)) :
    Attempt.Matches comparison.faults comparison.related (castOf input output options)
      (castOf otherInput otherOutput options) := by
  have made : Attempt.Matches comparison.faults comparison.related
      (do
        let caster ← casterOf (takeCaster options).1
        .ok (.cast input output caster (← Spec.namedOptions (takeCaster options).2)))
      (do
        let caster ← casterOf (takeCaster options).1
        .ok (.cast otherInput otherOutput caster
          (← Spec.namedOptions (takeCaster options).2))) := by
    refine .bind_same parallel.ofFaults _ fun caster => ?_
    refine .bind_same parallel.ofFaults _ fun named => .ok ?_
    exact parallel.cast input output otherInput otherOutput caster named inputs outputs
  simp only [castOf, parallel.tag input otherInput inputs, parallel.tag output otherOutput outputs]
  split
  · refine .bind_same parallel.ofFaults _ fun possible => ?_
    split
    · exact made
    · exact .error (parallel.ofFaults _)
  · exact made

end Parts

end IsParallel

namespace Together

section Forms

variable
  {comparison : Comparison}
  {types others : List (String × Spec)}
  {spec otherSpec : Spec}
  {entries otherEntries : List (Value × Spec)}

theorem definition
    (parallel : comparison.IsParallel)
    (inside : comparison.Together types others spec otherSpec)
    (name otherName : String)
    (options : CompileOptions) :
    comparison.Together types others (.definition name spec options)
      (.definition otherName otherSpec options) where
  keyed := rfl
  matched scope otherScope root inForce := by
    rw [compileSpec_definition, compileSpec_definition]
    exact inside.matched _ _ [] (parallel.enter _ _ options inForce)

theorem keys
    (parallel : comparison.IsParallel)
    (values : List.Forall₂
      (fun entry other => entry.1 = other.1 ∧ comparison.Together types others entry.2 other.2)
      entries otherEntries) :
    comparison.Together types others (.map entries) (.map otherEntries) where
  keyed := rfl
  matched scope otherScope root inForce := by
    rw [compileSpec_keys, compileSpec_keys]
    exact parallel.matches_compileMap values inForce root _

theorem map
    (parallel : comparison.IsParallel)
    (values : List.Forall₂
      (fun entry other => entry.1 = other.1 ∧ comparison.Together types others entry.2 other.2)
      entries otherEntries)
    (rest : List Spec) :
    comparison.Together types others (.tuple (.text "map" :: .map entries :: rest))
      (.tuple (.text "map" :: .map otherEntries :: rest)) where
  keyed := rfl
  matched scope otherScope root inForce := by
    rw [compileSpec_map, compileSpec_map]
    exact parallel.matches_compileMap values inForce root _

/-- Lists of alternatives that are too short are refused, each with its own message. -/
theorem alternatives
    (parallel : comparison.IsParallel)
    {specs otherSpecs : List Spec}
    (each : List.Forall₂ (comparison.Together types others) specs otherSpecs)
    (refused : ∀ fault other, comparison.faults fault other) :
    comparison.Together types others (.list specs) (.list otherSpecs) where
  keyed := rfl
  matched scope otherScope root inForce := by
    rw [compileSpec, compileSpec, each.length_eq]
    split
    · exact .error (refused _ _)
    · exact parallel.matches_compileAlternatives each inForce

theorem list
    (parallel : comparison.IsParallel)
    (members : comparison.Together types others spec otherSpec)
    (rest : List Spec) :
    comparison.Together types others (.tuple (.text "list" :: spec :: rest))
      (.tuple (.text "list" :: otherSpec :: rest)) where
  keyed := rfl
  matched scope otherScope root inForce := by
    rw [compileSpec_list, compileSpec_list, chainWith_congr parallel.predicate]
    refine .bind_same parallel.ofFaults _ fun chain => ?_
    refine .bind (members.matched _ _ [] inForce) fun type otherType same => .ok ?_
    exact parallel.list chain type otherType same

theorem union
    (parallel : comparison.IsParallel)
    {left right otherLeft otherRight : Spec}
    (lefts : comparison.Together types others left otherLeft)
    (rights : comparison.Together types others right otherRight)
    (rest : List Spec) :
    comparison.Together types others (.tuple (.text "union" :: left :: right :: rest))
      (.tuple (.text "union" :: otherLeft :: otherRight :: rest)) where
  keyed := rfl
  matched scope otherScope root inForce := by
    rw [compileSpec_union, compileSpec_union]
    refine .bind (lefts.matched _ _ [] inForce) fun first otherFirst firsts => ?_
    refine .bind (rights.matched _ _ [] inForce) fun second otherSecond seconds => ?_
    refine .bind_same parallel.ofFaults _ fun entries => ?_
    refine .bind_same parallel.ofFaults _ fun options => .ok ?_
    exact parallel.union first second otherFirst otherSecond options firsts seconds

theorem cast
    (parallel : comparison.IsParallel)
    {input output otherInput otherOutput : Spec}
    (inputs : comparison.Together types others input otherInput)
    (outputs : comparison.Together types others output otherOutput)
    (rest : List Spec) :
    comparison.Together types others (.tuple (.text "cast" :: input :: output :: rest))
      (.tuple (.text "cast" :: otherInput :: otherOutput :: rest)) where
  keyed := rfl
  matched scope otherScope root inForce := by
    rw [compileSpec_cast, compileSpec_cast]
    refine .bind_same parallel.ofFaults _ fun entries => ?_
    refine .bind (inputs.matched _ _ [] inForce) fun first otherFirst firsts => ?_
    refine .bind (outputs.matched _ _ [] inForce) fun second otherSecond seconds => ?_
    exact parallel.matches_castOf firsts seconds entries

/-- A specification is compiled to related schemas on both sides if the names in it are. -/
theorem refl
    (parallel : comparison.IsParallel)
    (names : comparison.NamesTogether types others)
    (spec : Spec) :
    comparison.Together types others spec spec := by
  induction spec using Spec.induct with
  | definition name inner options hypothesis =>
      exact definition parallel hypothesis name name options
  | compiled type =>
      refine ⟨rfl, fun scope otherScope root inForce => ?_⟩
      rw [compileSpec, compileSpec]
      exact .bind_same parallel.ofFaults _ fun _ => .ok (parallel.reflexive type)
  | text name =>
      refine ⟨rfl, fun scope otherScope root inForce => ?_⟩
      rw [compileSpec_text, compileSpec_text]
      exact names name [] _ _ inForce
  | keys entries hypothesis =>
      exact keys parallel
        (List.forall₂_same.mpr fun entry member => ⟨rfl, hypothesis entry member⟩)
  | alternatives first second rest hypothesis =>
      refine ⟨rfl, fun scope otherScope root inForce => ?_⟩
      rw [compileSpec_alternatives, compileSpec_alternatives]
      exact parallel.matches_compileAlternatives (List.forall₂_same.mpr hypothesis) inForce
  | type name rest =>
      refine ⟨rfl, fun scope otherScope root inForce => ?_⟩
      rw [compileSpec_type, compileSpec_type, readPredicates_congr parallel.predicate]
      refine .bind_same parallel.ofFaults _ fun extra => ?_
      split
      · exact names _ extra _ _ inForce
      · exact .error (parallel.ofFaults _)
  | list member rest hypothesis => exact list parallel hypothesis rest
  | map entries rest hypothesis =>
      exact map parallel
        (List.forall₂_same.mpr fun entry member => ⟨rfl, hypothesis entry member⟩) rest
  | union left right rest leftHypothesis rightHypothesis =>
      exact union parallel leftHypothesis rightHypothesis rest
  | cast input output rest inputHypothesis outputHypothesis =>
      exact cast parallel inputHypothesis outputHypothesis rest
  | misshapen spec refused =>
      obtain ⟨cause, -, refused⟩ := refused
      refine ⟨rfl, fun scope otherScope root inForce => ?_⟩
      rw [refused, refused]
      exact .error (parallel.ofFaults _)

/-- The same form with different fillers is compiled to related schemas if the fillers are, and
everything else in the form is. Only the messages of refusals may differ. -/
theorem fill
    (parallel : comparison.IsParallel)
    (names : comparison.NamesTogether types others)
    (refused : ∀ fault other, comparison.faults fault other)
    (inside : comparison.Together types others spec otherSpec)
    (frame : SpecFrame) :
    comparison.Together types others (frame.fill spec) (frame.fill otherSpec) := by
  have unchanged (spec : Spec) : comparison.Together types others spec spec :=
    refl parallel names spec
  have values (before after : List (Value × Spec)) (name : Value) :
      List.Forall₂
        (fun entry other => entry.1 = other.1 ∧ comparison.Together types others entry.2 other.2)
        (before ++ (name, spec) :: after) (before ++ (name, otherSpec) :: after) :=
    forall₂_replaced (fun entry => ⟨rfl, unchanged entry.2⟩) before after ⟨rfl, inside⟩
  cases frame with
  | definition name options => exact definition parallel inside name name options
  | alternative before after =>
      exact alternatives parallel (forall₂_replaced unchanged before after inside) refused
  | entry before name after => exact keys parallel (values before after name)
  | key before name after rest => exact map parallel (values before after name) rest
  | member rest => exact list parallel inside rest
  | left second rest => exact union parallel inside (unchanged second) rest
  | right first rest => exact union parallel (unchanged first) inside rest
  | input second rest => exact cast parallel inside (unchanged second) rest
  | output first rest => exact cast parallel (unchanged first) inside rest

end Forms

end Together

section Whole

variable {comparison : Comparison}

/-- Types that are alike under every name are still alike under every name when one of the names
is taken out. -/
theorem lookup_without_rel
    {alike : Spec → Spec → Prop}
    {types others : List (String × Spec)}
    (same : ∀ name, Option.Rel alike (types.lookup name) (others.lookup name))
    (taken name : String) :
    Option.Rel alike ((without types taken).lookup name) ((without others taken).lookup name) := by
  by_cases equal : name = taken
  · rw [equal, lookup_without_self, lookup_without_self]
    exact .none
  · rw [lookup_without_of_ne equal, lookup_without_of_ne equal]
    exact same name

/-- Names whose types are alike are compiled to related schemas, if specifications that are alike
are whenever the names in them are. The type of a name is compiled without the name, so with
fewer types. -/
theorem IsParallel.names
    (parallel : comparison.IsParallel)
    {alike : Spec → Spec → Prop}
    (together : ∀ types others, comparison.NamesTogether types others →
      ∀ spec other, alike spec other → comparison.Together types others spec other)
    {types others : List (String × Spec)}
    (same : ∀ name, Option.Rel alike (types.lookup name) (others.lookup name)) :
    comparison.NamesTogether types others := by
  induction size : types.length using Nat.strongRecOn generalizing types others with
  | ind count hypothesis =>
      subst size
      intro name extra scope otherScope inForce
      cases named : Tag.ofName? name with
      | some tag =>
          rw [compileName, compileName, named]
          simp only [chain, parallel.predicate]
          exact .refl parallel.ofFaults parallel.reflexive _
      | none =>
          have found := same name
          cases first : types.lookup name with
          | some type =>
              rw [first] at found
              cases second : others.lookup name with
              | none =>
                  rw [second] at found
                  cases found
              | some other =>
                  rw [second] at found
                  obtain ⟨alike⟩ := found
                  rw [compileName_of_lookup named first, compileName_of_lookup named second]
                  have inner := hypothesis _ (length_without_lt types name type first)
                    (lookup_without_rel same name) rfl
                  refine .bind ((together _ _ inner type other alike).matched _ _ [] inForce)
                    fun plain otherPlain related => ?_
                  exact parallel.constrain plain otherPlain extra related
          | none =>
              rw [first] at found
              cases second : others.lookup name with
              | some other =>
                  rw [second] at found
                  cases found
              | none =>
                  rw [compileName_of_missing named first, compileName_of_missing named second,
                    parallel.registered]
                  split
                  · exact .error (parallel.ofFaults _)
                  · exact .error (parallel.ofFaults _)

end Whole

end Comparison

section LookUps

variable {compiler other : Compiler}

/-- Two compilers side by side that must come to the same. -/
def sameComparison (compiler other : Compiler) : Comparison where
  compiler
  other
  scopes := Eq
  faults := Eq
  related := Eq

theorem eq_of_parallel
    {keys others : List Key}
    (parallel : List.Forall₂ (Key.Parallel Eq) keys others) :
    keys = others := by
  induction parallel with
  | nil => rfl
  | cons first _ hypothesis =>
      obtain ⟨around, name, presence, inline, rfl⟩ := first
      rw [hypothesis]

theorem isParallel_sameComparison
    (predicates : ∀ name, compiler.predicates.find? name = other.predicates.find? name)
    (types : ∀ name, compiler.types.types.lookup name = other.types.types.lookup name) :
    (sameComparison compiler other).IsParallel where
  predicate := by
    funext name args
    simp only [sameComparison, PredicateRegistry.predicate, PredicateRegistry.get, predicates]
  registered name := by
    simp only [sameComparison, TypeRegistry.isRegistered, types]
  enter _ _ options same := congrArg (Scope.enter · options) same
  ofFaults _ := rfl
  reflexive _ := rfl
  list chain _ _ same := congrArg (Schema.list chain) same
  map chain keys others scope otherScope same parallel := by
    cases same
    exact congrArg (fun keys => Schema.map chain keys scope.atomize.truthy scope.style)
      (eq_of_parallel parallel)
  union _ _ _ _ options lefts rights :=
    congrArg₂ (fun left right => Schema.union left right options) lefts rights
  cast _ _ _ _ caster options inputs outputs :=
    congrArg₂ (fun input output => Schema.cast input output caster options) inputs outputs
  tag _ _ same := congrArg Schema.tag same
  constrain _ _ extra same := by
    cases same
    exact .refl (fun _ => rfl) (fun _ => rfl) _

/-- A compiler depends on its registries only through what it finds under names: the order of
registration and entries that are never found make no difference. -/
theorem compile_eq_of_lookup
    (predicates : ∀ name, compiler.predicates.find? name = other.predicates.find? name)
    (types : ∀ name, compiler.types.types.lookup name = other.types.types.lookup name)
    (settings : compiler.settings = other.settings)
    (spec : Spec)
    (options : CompileOptions) :
    compiler.compile spec options = other.compile spec options := by
  have parallel := isParallel_sameComparison predicates types
  have together (types others : List (String × Spec))
      (names : (sameComparison compiler other).NamesTogether types others)
      (spec otherSpec : Spec) (same : spec = otherSpec) :
      (sameComparison compiler other).Together types others spec otherSpec := by
    subst same
    exact .refl parallel names spec
  have lookups (name : String) :
      Option.Rel Eq (compiler.types.types.lookup name) (other.types.types.lookup name) := by
    rw [types]
    cases other.types.types.lookup name with
    | none => exact .none
    | some type => exact .some rfl
  have names := parallel.names together lookups
  have matched := (together _ _ names spec spec rfl).matched
    (compiler.settings.scope.enter options) (other.settings.scope.enter options) []
    (by rw [settings]; rfl)
  exact matched.eq

end LookUps

end Compiler
end DataContract
