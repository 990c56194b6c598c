import DataContract.Proofs.Casting.Blame
import DataContract.Proofs.Predicate.Blame
import DataContract.Proofs.Schema.Renaming

/-!
# Mistakes that validation tells

While a value is validated, mistakes in the definition of the schema can still turn up. Where the
functions that were supplied from outside tell none themselves, there are two: a type check that
was given no name of a tag, and a cast by the default caster between whole numbers and moments
whose options name no unit of time. This module finds the node of the schema that is to blame.
-/

namespace DataContract

open Attempt

/-- Whether a predicate tells no mistake but that it is a type check of no tag. -/
def Predicate.IsSound (predicate : Predicate) : Prop :=
  ∀ value, BlamesOnly predicate.IsMistaken (predicate.holds value)

/-- Whether a caster tells no mistakes. -/
def Caster.IsSound (caster : Caster) : Prop :=
  ∀ source target value options,
    BlamesOnly (fun _ => False) (caster.run source target value options)

/-- Whether a custom schema tells only mistakes of the predicates that it shows, and keeps its tag:
now, and after it has taken any predicates that are sound. -/
def CustomType.IsSound (type : CustomType) : Prop :=
  ∀ history : List (List Predicate), (∀ extra ∈ history, ∀ predicate ∈ extra, predicate.IsSound) →
    (type.view history).tag = type.now.tag ∧
      (∀ predicate ∈ (type.view history).chain, predicate.IsSound) ∧
      ∀ value, BlamesOnly
        (fun cause => ∃ predicate ∈ (type.view history).chain, predicate.IsMistaken cause)
        ((type.view history).validate value)

/-- A custom schema that is sound is so after it has taken sound predicates. -/
theorem CustomType.IsSound.after
    {type : CustomType}
    {extra : List Predicate}
    (sound : type.IsSound)
    (given : ∀ predicate ∈ extra, predicate.IsSound) :
    (type.after extra).IsSound := by
  intro history each
  obtain ⟨kept, -⟩ := sound [extra] (List.forall_mem_singleton.mpr given)
  obtain ⟨tag, rest⟩ := sound (extra :: history) (List.forall_mem_cons.mpr ⟨given, each⟩)
  exact ⟨tag.trans kept.symm, rest⟩

namespace Schema

/-- Whether the functions of a node tell only mistakes that can be seen in the node: its
predicates are sound, and its caster is sound or is the default one between tags that it converts
between, and it is sound itself if it is a custom schema. -/
def IsSound (node : Schema) : Prop :=
  (∀ predicate ∈ node.chain, predicate.IsSound) ∧
    match node with
    | .cast input output caster _ =>
        caster.IsSound ∨ caster = .default ∧ hasConversion input.tag output.tag = .ok true
    | .custom type => type.IsSound
    | _ => True

/-- Whether a node makes a mistake: it has a type check of no tag, or is a cast by the default
caster between whole numbers and moments with an unknown unit of time. -/
def IsMistaken
    (node : Schema)
    (cause : DefinitionFault) : Prop :=
  (∃ predicate ∈ node.chain, predicate.IsMistaken cause) ∨
    ∃ input output options, node = .cast input output .default options ∧
      countsMoments input.tag output.tag ∧ TimeUnit.IsUnknown options.entries cause

section Parts

variable {blamed : DefinitionFault → Prop}

theorem blamesOnly_pick (container key : Value) : BlamesOnly blamed (container.pick key) := by
  unfold Value.pick
  split
  · split
    · split
      · exact .ok _
      · exact blamesOnly_error rfl
    · exact blamesOnly_error rfl
  · split
    · unfold Value.itemAt
      extract_lets position
      split
      · exact blamesOnly_error rfl
      · split
        · exact .ok _
        · exact blamesOnly_error rfl
    · exact blamesOnly_error rfl

theorem blamesOnly_entry (data key : Value) : BlamesOnly blamed (data.entry? key) := by
  refine .bind (Value.blamesOnly_contains _ _) fun found _ => ?_
  split
  · exact .map (blamesOnly_pick _ _)
  · exact .ok _

theorem blamesOnly_entryFor?
    (data : Value)
    (style : KeyStyle)
    (name : Value) :
    BlamesOnly blamed (data.entryFor? style name) := by
  unfold Value.entryFor?
  refine .bind (blamesOnly_entry _ _) fun own _ => ?_
  split
  · exact .ok _
  · exact blamesOnly_entry _ _

/-- A chain tells the mistakes of its predicates. -/
theorem blamesOnly_checkChain
    {chain : List Predicate}
    (blames : ∀ predicate ∈ chain, ∀ value, BlamesOnly blamed (predicate.holds value))
    (value : Value) :
    BlamesOnly blamed (checkChain chain value) := by
  induction chain generalizing value with
  | nil => exact .ok _
  | cons predicate rest hypothesis =>
      rw [List.forall_mem_cons] at blames
      obtain ⟨first, others⟩ := blames
      refine .bind (.bind (first value) fun holds _ => ?_) fun outcome _ => ?_
      · split <;> exact .ok _
      · split
        · exact hypothesis others _
        · exact .ok _

theorem blamesOnly_validateItems
    {validate : Value → Attempt Outcome}
    (blames : ∀ value, BlamesOnly blamed (validate value))
    (index : Nat)
    (items : List Value) :
    BlamesOnly blamed (validateItems validate index items) := by
  induction items generalizing index with
  | nil => exact .ok _
  | cons item rest hypothesis =>
      refine .bind (blames item) fun outcome _ => ?_
      exact .bind (hypothesis _) fun others _ => .ok _

theorem blamesOnly_atomizeKeys
    {keys : List Key}
    {style : KeyStyle}
    (blames : ∀ key ∈ keys, ∀ value, BlamesOnly blamed (key.type.atomizeInline style value))
    (data : Value) :
    BlamesOnly blamed (atomizeKeys style keys data) := by
  induction keys with
  | nil => exact .ok _
  | cons key rest hypothesis =>
      rw [List.forall_mem_cons] at blames
      obtain ⟨first, others⟩ := blames
      rw [atomizeKeys_cons]
      refine .bind (blamesOnly_entryFor? _ _ _) fun found _ => ?_
      split
      · refine .bind ?_ fun renamed _ => .bind (hypothesis others) fun rest _ => .ok _
        unfold Key.rename
        split
        · exact first _
        · exact .ok _
      · exact hypothesis others

/-- Renaming entries tells no mistakes. -/
theorem blamesOnly_atomizeInline
    (schema : Schema)
    (style : KeyStyle)
    (value : Value) :
    BlamesOnly blamed (schema.atomizeInline style value) := by
  induction schema generalizing value with
  | map chain keys atomize inner hypothesis =>
      cases value with
      | map entries =>
          rw [atomizeInline]
          split
          · exact .ok _
          · exact .map (blamesOnly_atomizeKeys hypothesis _)
      | _ => exact .ok _
  | _ =>
      unfold atomizeInline
      exact .ok _

theorem blamesOnly_validateKeys
    {keys : List Key}
    (blames : ∀ key ∈ keys, ∀ value, BlamesOnly blamed (key.type.validate value))
    (data : Value) :
    BlamesOnly blamed (validateKeys keys data) := by
  induction keys with
  | nil => exact .ok _
  | cons key rest hypothesis =>
      obtain ⟨around, name, presence, type, inline⟩ := key
      rw [List.forall_mem_cons] at blames
      obtain ⟨first, others⟩ := blames
      rw [validateKeys]
      refine .bind (blamesOnly_entry _ _) fun found _ => ?_
      split
      · refine .bind (first _) fun outcome _ => ?_
        exact .bind (hypothesis others) fun parts _ => .ok _
      · refine .bind (hypothesis others) fun parts _ => ?_
        split <;> exact .ok _

end Parts

/-- Validation tells no mistakes but those of the nodes. -/
theorem blamesOnly_validate
    {blamed : DefinitionFault → Prop}
    {schema : Schema}
    (each : ∀ node ∈ schema.nodes, node.IsSound ∧ ∀ cause, node.IsMistaken cause → blamed cause)
    (value : Value) :
    BlamesOnly blamed (schema.validate value) := by
  have chained (schema : Schema)
      (own : schema.IsSound ∧ ∀ cause, schema.IsMistaken cause → blamed cause) (value : Value) :
      BlamesOnly blamed (checkChain schema.chain value) := by
    refine blamesOnly_checkChain (fun predicate member value => ?_) value
    refine (own.1.1 predicate member value).mono fun cause mistaken => ?_
    exact own.2 cause (.inl ⟨predicate, member, mistaken⟩)
  induction schema generalizing value with
  | primitive tag chain => exact chained _ (each _ (mem_nodes_self _)) value
  | list chain member hypothesis =>
      rw [forall_nodes_list] at each
      refine .bind (chained _ each.1 value) fun outcome _ => ?_
      split
      · exact .ok _
      · split
        · exact blamesOnly_error rfl
        · exact .bind (blamesOnly_validateItems (hypothesis each.2) _ _) fun parts _ => .ok _
  | map chain keys atomize style hypothesis =>
      rw [forall_nodes_map] at each
      refine .bind (chained _ each.1 value) fun outcome _ => ?_
      have parts (data : Value) : BlamesOnly blamed (validateKeys keys data) :=
        blamesOnly_validateKeys (fun key member => hypothesis key member (each.2 key member)) data
      split
      · exact .ok _
      · extract_lets finish
        have finished (data : Value) : BlamesOnly blamed (finish data) :=
          .bind (parts data) fun parts _ => .ok _
        split
        · refine .bind (.map ?_) fun data _ => finished data
          exact blamesOnly_atomizeKeys (fun key _ => blamesOnly_atomizeInline _ _) _
        · exact finished _
  | union left right options leftHypothesis rightHypothesis =>
      rw [forall_nodes_union] at each
      refine .bind (leftHypothesis each.2.1 value) fun outcome _ => ?_
      split
      · exact .ok _
      · split
        · exact .ok _
        · refine .bind (rightHypothesis each.2.2 value) fun other _ => ?_
          split <;> exact .ok _
  | cast input output caster options inputHypothesis outputHypothesis =>
      rw [forall_nodes_cast] at each
      obtain ⟨⟨⟨-, sound⟩, expected⟩, inputEach, outputEach⟩ := each
      refine .bind (inputHypothesis inputEach value) fun outcome _ => ?_
      split
      · exact .ok _
      · refine .bind ?_ fun converted _ => outputHypothesis outputEach converted
        rcases sound with own | ⟨rfl, converts⟩
        · exact (own _ _ _ _).mono fun _ absurd => absurd.elim
        · refine (blamesOnly_convert converts _ _).mono fun cause unknown => ?_
          exact expected cause (.inr ⟨input, output, options, rfl, unknown⟩)
  | custom type =>
      obtain ⟨⟨-, sound⟩, expected⟩ := each _ (mem_nodes_self _)
      obtain ⟨-, -, blames⟩ := sound [] (by simp)
      exact (blames value).mono fun cause mistaken => expected cause (.inl mistaken)

end Schema
end DataContract
