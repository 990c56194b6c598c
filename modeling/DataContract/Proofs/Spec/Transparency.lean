import DataContract.Proofs.Spec.Congruence
import DataContract.Proofs.Spec.Registered
import Mathlib.Logic.Relation

/-!
# Definitions are transparent

A definition without options stands for the specification that it gives, and so does the name
under which it is registered. Writing the specification in the place of the definition or of
the name, anywhere and any number of times, leaves whether the whole is compiled and what the
schema makes of every value. This holds where no entries are renamed: the keys of a map that
was written in place continue the path of the key around it, and renaming follows these paths.
-/

namespace DataContract

/-- Whether two schemas come to the same outcome, or stop with the same fault, for every
value. -/
def Schema.SameOutcomes (schema other : Schema) : Prop :=
  ∀ value, schema.validate value = other.validate value

/-- Whether a specification becomes another by writing the specification of one definition in
its place. The definition has no options, and is there itself or by its name; it is not inside
of options that ask for renaming. -/
inductive Spec.Unfolds (types : List (String × Spec)) : Spec → Spec → Prop
  | name
      (name own : String)
      (spec : Spec)
      (unnamed : Tag.ofName? name = none)
      (found : types.lookup name = some (.definition own spec .none)) :
      Unfolds types (.text name) spec
  | definition
      (name : String)
      (spec : Spec) :
      Unfolds types (.definition name spec .none) spec
  | inside
      (name : String)
      (spec other : Spec)
      (options : CompileOptions)
      (off : ∀ atomize ∈ options.atomize, atomize.truthy = false)
      (step : Unfolds types spec other) :
      Unfolds types (.definition name spec options) (.definition name other options)
  | alternative
      (before after : List Spec)
      (spec other : Spec)
      (step : Unfolds types spec other) :
      Unfolds types (.list (before ++ spec :: after)) (.list (before ++ other :: after))
  | entry
      (before after : List (Value × Spec))
      (key : Value)
      (spec other : Spec)
      (step : Unfolds types spec other) :
      Unfolds types (.map (before ++ (key, spec) :: after)) (.map (before ++ (key, other) :: after))
  | key
      (before after : List (Value × Spec))
      (key : Value)
      (spec other : Spec)
      (rest : List Spec)
      (step : Unfolds types spec other) :
      Unfolds types (.tuple (.text "map" :: .map (before ++ (key, spec) :: after) :: rest))
        (.tuple (.text "map" :: .map (before ++ (key, other) :: after) :: rest))
  | member
      (spec other : Spec)
      (rest : List Spec)
      (step : Unfolds types spec other) :
      Unfolds types (.tuple (.text "list" :: spec :: rest)) (.tuple (.text "list" :: other :: rest))
  | left
      (spec other right : Spec)
      (rest : List Spec)
      (step : Unfolds types spec other) :
      Unfolds types (.tuple (.text "union" :: spec :: right :: rest))
        (.tuple (.text "union" :: other :: right :: rest))
  | right
      (left spec other : Spec)
      (rest : List Spec)
      (step : Unfolds types spec other) :
      Unfolds types (.tuple (.text "union" :: left :: spec :: rest))
        (.tuple (.text "union" :: left :: other :: rest))
  | input
      (spec other output : Spec)
      (rest : List Spec)
      (step : Unfolds types spec other) :
      Unfolds types (.tuple (.text "cast" :: spec :: output :: rest))
        (.tuple (.text "cast" :: other :: output :: rest))
  | output
      (input spec other : Spec)
      (rest : List Spec)
      (step : Unfolds types spec other) :
      Unfolds types (.tuple (.text "cast" :: input :: spec :: rest))
        (.tuple (.text "cast" :: input :: other :: rest))

namespace Compiler

section Replacing

variable
  {compiler : Compiler}
  {types : List (String × Spec)}
  {scope : Scope}

/-- The name of a definition with further predicates is compiled like its specification,
constrained by them. -/
theorem compileName_agree
    (off : scope.atomize.truthy = false)
    {name own : String}
    {spec : Spec}
    (unnamed : Tag.ofName? name = none)
    (found : types.lookup name = some (.definition own spec .none))
    (extra : List Predicate)
    (root : Path) :
    Attempt.Agree Schema.Alike
      (compileName compiler types scope name extra)
      (do (← compileSpec compiler types scope root spec).constrain extra) := by
  rw [compileName_of_lookup unnamed found, compileSpec_definition]
  refine .bind ?_ fun schema other alike => Schema.Alike.constrain alike extra
  have alone : Attempt.Agree Eq
      (compileSpec compiler (without types name) (scope.enter .none) [] spec)
      (compileSpec compiler types (scope.enter .none) [] spec) := by
    simpa only [compileSpec_definition] using agree_without found scope []
  refine alone.trans ?_ (CompileAlike.refl off spec [] root)
  rintro schema _ other rfl alike
  exact alike

/-- The name of a definition is compiled like its specification. -/
theorem CompileAlike.name
    (off : scope.atomize.truthy = false)
    {name own : String}
    {spec : Spec}
    (unnamed : Tag.ofName? name = none)
    (found : types.lookup name = some (.definition own spec .none)) :
    CompileAlike compiler types scope (.text name) spec := by
  intro root otherRoot
  rw [compileSpec_text]
  have agree : Attempt.Agree Schema.Alike (compileName compiler types scope name []) _ :=
    compileName_agree off unnamed found [] otherRoot
  simp only [Schema.constrain_nil] at agree
  cases compiled : compileSpec compiler types scope otherRoot spec with
  | ok schema => rwa [compiled] at agree
  | error fault => rwa [compiled] at agree

theorem CompileAlike.trans
    {spec other third : Spec}
    (first : CompileAlike compiler types scope spec other)
    (second : CompileAlike compiler types scope other third) :
    CompileAlike compiler types scope spec third := by
  intro root otherRoot
  refine (first root []).trans ?_ (second [] otherRoot)
  exact fun _ _ _ => Schema.Alike.trans

/-- A list with one item replaced is a union of the same number of alternatives. -/
theorem CompileAlike.alternative
    (off : scope.atomize.truthy = false)
    (before after : List Spec)
    {spec other : Spec}
    (alike : CompileAlike compiler types scope spec other) :
    CompileAlike compiler types scope (.list (before ++ spec :: after))
      (.list (before ++ other :: after)) := by
  have replaced : List.Forall₂ (CompileAlike compiler types scope) _ _ :=
    forall₂_replaced (.refl off) before after alike
  match before, after, replaced with
  | [], [], _ =>
      intro root otherRoot
      rw [compileSpec, compileSpec]
      exact .error _ _
  | [], second :: rest, replaced => exact .alternatives replaced
  | [first], after, replaced => exact .alternatives replaced
  | first :: second :: rest, after, replaced => exact .alternatives replaced

theorem forall₂_entry_replaced
    (off : scope.atomize.truthy = false)
    (before after : List (Value × Spec))
    (key : Value)
    {spec other : Spec}
    (alike : CompileAlike compiler types scope spec other) :
    List.Forall₂
      (fun entry other => entry.1 = other.1 ∧
        CompileAlike compiler types scope entry.2 other.2)
      (before ++ (key, spec) :: after) (before ++ (key, other) :: after) :=
  forall₂_replaced (fun entry => ⟨rfl, .refl off entry.2⟩) before after ⟨rfl, alike⟩

/-- Writing a definition out leaves what is compiled alike. -/
theorem compileAlike_of_unfolds
    (off : scope.atomize.truthy = false)
    {spec other : Spec}
    (unfolds : spec.Unfolds types other) :
    CompileAlike compiler types scope spec other := by
  induction unfolds generalizing scope with
  | name name own spec unnamed found => exact .name off unnamed found
  | definition name spec =>
      intro root otherRoot
      rw [compileSpec_definition]
      exact CompileAlike.refl off spec [] otherRoot
  | inside name spec other options optionsOff _ hypothesis =>
      refine .definition name name (hypothesis ?_)
      cases atomize : options.atomize with
      | none => simpa [Scope.enter, atomize] using off
      | some value => simpa [Scope.enter, atomize] using optionsOff value atomize
  | alternative before after spec other _ hypothesis =>
      exact .alternative off before after (hypothesis off)
  | entry before after key spec other _ hypothesis =>
      exact .keys off (forall₂_entry_replaced off before after key (hypothesis off))
  | key before after key spec other rest _ hypothesis =>
      exact .map off (forall₂_entry_replaced off before after key (hypothesis off)) rest
  | member spec other rest _ hypothesis => exact .list (hypothesis off) rest
  | left spec other right rest _ hypothesis =>
      exact .union (hypothesis off) (.refl off right) rest
  | right left spec other rest _ hypothesis =>
      exact .union (.refl off left) (hypothesis off) rest
  | input spec other output rest _ hypothesis =>
      exact .cast (hypothesis off) (.refl off output) rest
  | output input spec other rest _ hypothesis =>
      exact .cast (.refl off input) (hypothesis off) rest

/-- Writing definitions out one after another leaves what is compiled alike. -/
theorem compileAlike_of_unfolded
    (off : scope.atomize.truthy = false)
    {spec other : Spec}
    (unfolded : Relation.ReflTransGen (Spec.Unfolds types) spec other) :
    CompileAlike compiler types scope spec other := by
  induction unfolded with
  | refl => exact .refl off spec
  | tail _ step hypothesis => exact hypothesis.trans (compileAlike_of_unfolds off step)

end Replacing

/-- Where no entries are renamed, a specification in which definitions are written out, as
often as one likes, is compiled if and only if it is compiled as it was, and both schemas come
to the same outcomes. A registered name with predicates comes to the outcomes of its
specification, written out as often as one likes and constrained by the predicates. -/
theorem compile_unfolded
    (compiler : Compiler)
    (options : CompileOptions)
    (off : (compiler.settings.scope.enter options).atomize.truthy = false) :
    (∀ spec other, Relation.ReflTransGen (Spec.Unfolds compiler.types.types) spec other →
      Attempt.Agree Schema.SameOutcomes
        (compiler.compile spec options)
        (compiler.compile other options)) ∧
    ∀ name own spec other list, Tag.ofName? name = none →
      compiler.types.types.lookup name = some (.definition own spec .none) →
      Relation.ReflTransGen (Spec.Unfolds compiler.types.types) spec other →
      Attempt.Agree Schema.SameOutcomes
        (compiler.compile (.tuple [.text "type", .text name, list]) options)
        (do
          let extra ← readPredicates compiler.predicates list
          (← compiler.compile other options).constrain extra) := by
  have outcomes (schema other : Schema) (alike : schema.Alike other) :
      schema.SameOutcomes other :=
    fun value => congrFun alike.validate_eq value
  refine ⟨fun spec other unfolded => ?_, fun name own spec other list unnamed found unfolded => ?_⟩
  · exact (compileAlike_of_unfolded off unfolded [] []).mono outcomes
  · rw [compile, compileSpec_type]
    refine .bind_same _ fun extra => ?_
    refine (compileName_agree off unnamed found extra []).trans
      (fun _ _ _ first second => outcomes _ _ (first.trans second)) ?_
    exact .bind (compileAlike_of_unfolded off unfolded [] []) fun schema other alike =>
      Schema.Alike.constrain alike extra

/-- A compiler that knows addresses with a city, and names that are not empty. -/
def directory : Compiler where
  types :=
    ⟨[("name", .definition "name"
        (.tuple [.text "type", .text "string", .list [.text "filled?"]]) .none),
      ("address", .definition "address" (.map [(.text "city", .text "name")]) .none)]⟩
  predicates := .standard
  settings := .standard

/-- A map with an address under a key. -/
def homeSpec : Spec :=
  .map [(.text "home", .text "address")]

/-- `homeSpec` with the address and the name in it written out. -/
def writtenHomeSpec : Spec :=
  .map
    [(.text "home",
      .map [(.text "city", .tuple [.text "type", .text "string", .list [.text "filled?"]])])]

theorem unfolds_home :
    Relation.ReflTransGen (Spec.Unfolds directory.types.types) homeSpec writtenHomeSpec := by
  have address : Spec.Unfolds directory.types.types homeSpec
      (.map [(.text "home", .map [(.text "city", .text "name")])]) :=
    .entry [] [] _ _ _ (.name _ "address" _ (by decide) rfl)
  have name : Spec.Unfolds directory.types.types
      (.map [(.text "home", .map [(.text "city", .text "name")])]) writtenHomeSpec :=
    .entry [] [] _ _ _ (.entry [] [] _ _ _ (.name _ "name" _ (by decide) rfl))
  exact .tail (.single address) name

theorem compile_writtenHome : ∃ schema, directory.compile writtenHomeSpec .none = .ok schema := by
  simp [writtenHomeSpec, Compiler.compile, Compiler.compileSpec, Compiler.compileMap,
    Compiler.compileKeys, Compiler.compileEntry, Compiler.compileName, Compiler.declaredKey]
  exact ⟨_, rfl⟩

theorem compile_unfolded_home :
    directory.settings.scope.atomize.truthy = false ∧
      (∃ schema other, directory.compile homeSpec .none = .ok schema ∧
        directory.compile writtenHomeSpec .none = .ok other ∧ schema.SameOutcomes other) ∧
      Attempt.Agree Schema.SameOutcomes
        (directory.compile (.tuple [.text "type", .text "address", .list [.text "filled?"]]) .none)
        (do
          let extra ← readPredicates directory.predicates (.list [.text "filled?"])
          (← directory.compile (.map [(.text "city", .text "name")]) .none).constrain extra) := by
  obtain ⟨unfolded, constrained⟩ := compile_unfolded directory .none rfl
  refine ⟨rfl, ?_, constrained "address" "address" _ _ _ (by decide) rfl .refl⟩
  have agree := unfolded _ _ unfolds_home
  obtain ⟨other, written⟩ := compile_writtenHome
  rw [written] at agree
  cases home : directory.compile homeSpec .none with
  | ok schema =>
      rw [home] at agree
      cases agree with
      | ok same => exact ⟨schema, other, rfl, written, same⟩
  | error fault =>
      rw [home] at agree
      cases agree

end Compiler
end DataContract
