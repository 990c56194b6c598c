import DataContract.Proofs.Schema.Placement
import DataContract.Proofs.Spec.Position

/-!
# Specifications that are compiled alike

Where the options in force rename no entries, the names of the keys around a specification
only decide where its keys stand. Such a specification is therefore compiled alike in all
places, and specifications whose parts are compiled alike are compiled alike themselves. There
is one lemma for each form; together they say that a part of a specification can be replaced
by any other that is compiled alike.
-/

namespace DataContract
namespace Compiler

/-- Whether with given options two specifications are compiled to alike schemas or both
refused, wherever each of them stands. -/
def CompileAlike
    (compiler : Compiler)
    (types : List (String × Spec))
    (scope : Scope)
    (spec other : Spec) : Prop :=
  ∀ root otherRoot, Attempt.Agree Schema.Alike
    (compileSpec compiler types scope root spec)
    (compileSpec compiler types scope otherRoot other)

section Parts

variable
  {compiler : Compiler}
  {types : List (String × Spec)}
  {scope : Scope}
  {entries others : List (Value × Spec)}

/-- The values of two keys are compiled alike, whether or not one of them is given in place. -/
theorem compileEntry_agree
    {spec other : Spec}
    (alike : CompileAlike compiler types scope spec other)
    (path otherPath : Path) :
    Attempt.Agree (fun made otherMade => made.1.Alike otherMade.1)
      (compileEntry compiler types scope path spec)
      (compileEntry compiler types scope otherPath other) := by
  rw [compileEntry_eq, compileEntry_eq]
  exact .bind (alike _ _) fun type otherType same => .ok same

/-- Keys whose values are compiled alike differ only in where they stand. -/
theorem compileKeys_agree
    (alike : List.Forall₂
      (fun entry other => entry.1 = other.1 ∧
        CompileAlike compiler types scope entry.2 other.2) entries others)
    (root otherRoot : Path)
    (seen : List Value) :
    Attempt.Agree (fun keys otherKeys => unplacedKeys keys = unplacedKeys otherKeys)
      (compileKeys compiler types scope root seen entries)
      (compileKeys compiler types scope otherRoot seen others) := by
  induction alike generalizing seen with
  | nil =>
      rw [compileKeys, compileKeys]
      exact .ok rfl
  | @cons entry other rest others same _ hypothesis =>
      obtain ⟨name, spec⟩ := entry
      obtain ⟨_, otherSpec⟩ := other
      obtain ⟨rfl, same⟩ := same
      rw [compileKeys, compileKeys]
      dsimp only
      split
      · exact .error _ _
      · refine .bind (compileEntry_agree same _ _) fun made otherMade alike => ?_
        refine .bind (hypothesis _) fun keys otherKeys remain => .ok ?_
        have types : made.1.unplaced = otherMade.1.unplaced := alike
        rw [unplacedKeys, unplacedKeys, types, remain]

/-- Maps that rename no entries are alike if the values of their keys are. -/
theorem compileMap_agree
    (off : scope.atomize.truthy = false)
    (alike : List.Forall₂
      (fun entry other => entry.1 = other.1 ∧
        CompileAlike compiler types scope entry.2 other.2) entries others)
    (root otherRoot : Path)
    (list : Spec) :
    Attempt.Agree Schema.Alike
      (compileMap compiler types scope root entries list)
      (compileMap compiler types scope otherRoot others list) := by
  rw [compileMap, compileMap]
  refine .bind (compileKeys_agree alike root otherRoot []) fun keys otherKeys same => ?_
  refine .bind_same _ fun chain => ?_
  refine .ok ?_
  rw [Schema.Alike, off, Schema.unplaced, Schema.unplaced, same]

/-- Whether a cast can be made, and to what, depends on its sides as far as alike schemas
agree. -/
theorem castOf_agree
    {input output otherInput otherOutput : Schema}
    (inputs : input.Alike otherInput)
    (outputs : output.Alike otherOutput)
    (options : List (Value × Spec)) :
    Attempt.Agree Schema.Alike (castOf input output options)
      (castOf otherInput otherOutput options) := by
  have made : Attempt.Agree Schema.Alike
      (do
        let caster ← casterOf (takeCaster options).1
        .ok (.cast input output caster (← Spec.namedOptions (takeCaster options).2)))
      (do
        let caster ← casterOf (takeCaster options).1
        .ok (.cast otherInput otherOutput caster
          (← Spec.namedOptions (takeCaster options).2))) := by
    refine .bind_same _ fun caster => .bind_same _ fun named => .ok ?_
    rw [Schema.Alike, Schema.unplaced, Schema.unplaced, inputs, outputs]
  simp only [castOf, inputs.tag_eq, outputs.tag_eq]
  split
  · refine .bind_same _ fun possible => ?_
    split
    · exact made
    · exact .error _ _
  · exact made

theorem compileAlternatives_agree
    {specs otherSpecs : List Spec}
    (alike : List.Forall₂ (CompileAlike compiler types scope) specs otherSpecs) :
    Attempt.Agree Schema.Alike
      (compileAlternatives compiler types scope specs)
      (compileAlternatives compiler types scope otherSpecs) := by
  induction alike with
  | nil =>
      rw [compileAlternatives]
      exact .error _ _
  | cons first others hypothesis =>
      cases others with
      | nil =>
          rw [compileAlternatives, compileAlternatives]
          exact first [] []
      | cons second rest =>
          rw [compileAlternatives, compileAlternatives]
          refine .bind (first [] []) fun left otherLeft sameLeft => ?_
          refine .bind hypothesis fun right otherRight sameRight => .ok ?_
          rw [Schema.Alike, Schema.unplaced, Schema.unplaced, sameLeft, sameRight]

end Parts

namespace CompileAlike

variable
  {compiler : Compiler}
  {types : List (String × Spec)}
  {scope : Scope}
  {spec other : Spec}

theorem definition
    {options : CompileOptions}
    (name otherName : String)
    (alike : CompileAlike compiler types (scope.enter options) spec other) :
    CompileAlike compiler types scope (.definition name spec options)
      (.definition otherName other options) := by
  intro root otherRoot
  rw [compileSpec_definition, compileSpec_definition]
  exact alike [] []

theorem alternatives
    {first second otherFirst otherSecond : Spec}
    {rest otherRest : List Spec}
    (alike : List.Forall₂ (CompileAlike compiler types scope) (first :: second :: rest)
      (otherFirst :: otherSecond :: otherRest)) :
    CompileAlike compiler types scope (.list (first :: second :: rest))
      (.list (otherFirst :: otherSecond :: otherRest)) := by
  intro root otherRoot
  rw [compileSpec_alternatives, compileSpec_alternatives]
  exact compileAlternatives_agree alike

theorem keys
    {entries others : List (Value × Spec)}
    (off : scope.atomize.truthy = false)
    (alike : List.Forall₂
      (fun entry other => entry.1 = other.1 ∧
        CompileAlike compiler types scope entry.2 other.2) entries others) :
    CompileAlike compiler types scope (.map entries) (.map others) := by
  intro root otherRoot
  rw [compileSpec_keys, compileSpec_keys]
  exact compileMap_agree off alike root otherRoot _

theorem map
    {entries others : List (Value × Spec)}
    (off : scope.atomize.truthy = false)
    (alike : List.Forall₂
      (fun entry other => entry.1 = other.1 ∧
        CompileAlike compiler types scope entry.2 other.2) entries others)
    (rest : List Spec) :
    CompileAlike compiler types scope (.tuple (.text "map" :: .map entries :: rest))
      (.tuple (.text "map" :: .map others :: rest)) := by
  intro root otherRoot
  rw [compileSpec_map, compileSpec_map]
  exact compileMap_agree off alike root otherRoot _

theorem list
    (alike : CompileAlike compiler types scope spec other)
    (rest : List Spec) :
    CompileAlike compiler types scope (.tuple (.text "list" :: spec :: rest))
      (.tuple (.text "list" :: other :: rest)) := by
  intro root otherRoot
  rw [compileSpec_list, compileSpec_list]
  refine .bind_same _ fun chain => ?_
  refine .bind (alike [] []) fun member otherMember same => .ok ?_
  rw [Schema.Alike, Schema.unplaced, Schema.unplaced, same]

theorem union
    {left right otherLeft otherRight : Spec}
    (lefts : CompileAlike compiler types scope left otherLeft)
    (rights : CompileAlike compiler types scope right otherRight)
    (rest : List Spec) :
    CompileAlike compiler types scope (.tuple (.text "union" :: left :: right :: rest))
      (.tuple (.text "union" :: otherLeft :: otherRight :: rest)) := by
  intro root otherRoot
  rw [compileSpec_union, compileSpec_union]
  refine .bind (lefts [] []) fun first otherFirst firsts => ?_
  refine .bind (rights [] []) fun second otherSecond seconds => ?_
  refine .bind_same _ fun entries => ?_
  refine .bind_same _ fun options => ?_
  refine .ok ?_
  rw [Schema.Alike, Schema.unplaced, Schema.unplaced, firsts, seconds]

theorem cast
    {input output otherInput otherOutput : Spec}
    (inputs : CompileAlike compiler types scope input otherInput)
    (outputs : CompileAlike compiler types scope output otherOutput)
    (rest : List Spec) :
    CompileAlike compiler types scope (.tuple (.text "cast" :: input :: output :: rest))
      (.tuple (.text "cast" :: otherInput :: otherOutput :: rest)) := by
  intro root otherRoot
  rw [compileSpec_cast, compileSpec_cast]
  refine .bind_same _ fun entries => ?_
  refine .bind (inputs [] []) fun first otherFirst firsts => ?_
  refine .bind (outputs [] []) fun second otherSecond seconds => ?_
  exact castOf_agree firsts seconds entries

/-- Every specification is compiled alike in all places. -/
theorem refl
    (off : scope.atomize.truthy = false)
    (spec : Spec) :
    CompileAlike compiler types scope spec spec := by
  induction spec using Spec.induct with
  | definition name inner options _ =>
      intro root otherRoot
      rw [compileSpec_definition, compileSpec_definition]
      exact .of_eq (fun _ => rfl) rfl
  | compiled type =>
      intro root otherRoot
      rw [compileSpec, compileSpec]
      exact .of_eq (fun _ => rfl) rfl
  | text name =>
      intro root otherRoot
      rw [compileSpec_text, compileSpec_text]
      exact .of_eq (fun _ => rfl) rfl
  | keys entries hypothesis =>
      exact keys off (List.forall₂_same.mpr fun entry member => ⟨rfl, hypothesis entry member⟩)
  | alternatives first second rest hypothesis =>
      exact alternatives (List.forall₂_same.mpr hypothesis)
  | type name rest =>
      intro root otherRoot
      rw [compileSpec_type, compileSpec_type]
      exact .of_eq (fun _ => rfl) rfl
  | list member rest hypothesis => exact list hypothesis rest
  | map entries rest hypothesis =>
      exact map off
        (List.forall₂_same.mpr fun entry member => ⟨rfl, hypothesis entry member⟩) rest
  | union left right rest leftHypothesis rightHypothesis =>
      exact union leftHypothesis rightHypothesis rest
  | cast input output rest inputHypothesis outputHypothesis =>
      exact cast inputHypothesis outputHypothesis rest
  | misshapen spec refused =>
      obtain ⟨cause, -, refused⟩ := refused
      intro root otherRoot
      rw [refused, refused]
      exact .error _ _

end CompileAlike

end Compiler
end DataContract
