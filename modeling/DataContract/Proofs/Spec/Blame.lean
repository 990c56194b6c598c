import DataContract.Proofs.Schema.Blame
import DataContract.Proofs.Schema.Constraining
import DataContract.Proofs.Spec.Provenance

/-!
# Mistakes that compiling leaves in

Compiling with the built-in predicates looks up predicates and casts and refuses what it does
not find, also inside unions and nested casts, and constraining a schema adds no casts and keeps
the tags that were looked up. Two mistakes are nevertheless left for validation to find: the
argument of a type check, and the unit of time of a cast between whole numbers and moments. This
module shows that there are no others, for all schemas whose own functions, if they bring any,
tell none.

What a node of a compiled schema may tell is known for every node from where it came. The
induction over how schemas are put together is that of `Compiler.Builds`.
-/

namespace DataContract

open Attempt

namespace Compiler

/-- Whether a specification is found in what a compilation can read: the specification that is
compiled and the registered types. -/
def Reads
    (compiler : Compiler)
    (spec part : Spec) : Prop :=
  spec.Contains part ∨ ∃ type ∈ compiler.types.types, type.2.Contains part

end Compiler

namespace Schema

/-- Whether a schema was compiled with the built-in predicates, or constrained after that. What
it was compiled from may hold schemas that were made in this way too, and may bring predicates,
casters and custom schemas of its own, if these tell no mistakes. -/
inductive IsBuiltIn : Schema → Prop
  | compile
      (compiler : Compiler)
      (spec : Spec)
      (options : CompileOptions)
      (schema : Schema)
      (builtIn : compiler.predicates = .standard)
      (types : ∀ type, compiler.Reads spec (.compiled type) → IsBuiltIn type)
      (predicates : ∀ single, compiler.Reads spec (.predicate single) → single.IsSound)
      (casters : ∀ function, compiler.Reads spec (.caster function) → function.IsSound)
      (compiled : compiler.compile spec options = .ok schema) :
      IsBuiltIn schema
  | constrain
      (schema constrained : Schema)
      (extra : List Predicate)
      (before : IsBuiltIn schema)
      (predicates : ∀ predicate ∈ extra, predicate.IsSound)
      (made : schema.constrain extra = .ok constrained) :
      IsBuiltIn constrained
  | custom
      (type : CustomType)
      (own : type.IsSound) :
      IsBuiltIn (.custom type)

/-- Constraining with sound predicates keeps nodes sound. The tags of both sides of a cast, by
which its conversion was looked up, stay as they were. -/
theorem isSound_of_constrain
    {schema constrained : Schema}
    {extra : List Predicate}
    (each : ∀ node ∈ schema.nodes, node.IsSound)
    (sound : ∀ predicate ∈ extra, predicate.IsSound)
    (made : schema.constrain extra = .ok constrained) :
    ∀ node ∈ constrained.nodes, node.IsSound := by
  have appended (chain : List Predicate) (before : ∀ predicate ∈ chain, predicate.IsSound) :
      ∀ predicate ∈ chain ++ extra, predicate.IsSound :=
    List.forall_mem_append.mpr ⟨before, sound⟩
  induction schema generalizing constrained with
  | primitive tag chain =>
      cases made
      have own : (primitive tag chain).IsSound := each _ (mem_nodes_self _)
      simp only [nodes, List.forall_mem_singleton]
      exact ⟨appended chain own.1, trivial⟩
  | list chain member _ =>
      cases made
      rw [forall_nodes_list] at each ⊢
      exact ⟨⟨appended chain each.1.1, trivial⟩, each.2⟩
  | map chain keys atomize style _ =>
      cases made
      rw [forall_nodes_map] at each ⊢
      exact ⟨⟨appended chain each.1.1, trivial⟩, each.2⟩
  | union left right options leftHypothesis rightHypothesis =>
      obtain ⟨first, second, leftMade, rightMade, rfl⟩ := constrain_union_eq_ok.mp made
      rw [forall_nodes_union] at each ⊢
      exact ⟨each.1, leftHypothesis each.2.1 leftMade, rightHypothesis each.2.2 rightMade⟩
  | cast input output caster options _ outputHypothesis =>
      obtain ⟨second, outputMade, rfl⟩ := constrain_cast_eq_ok.mp made
      rw [forall_nodes_cast] at each ⊢
      obtain ⟨⟨chain, called⟩, inputEach, outputEach⟩ := each
      have kept :
          caster.IsSound ∨ caster = .default ∧ hasConversion input.tag second.tag = .ok true := by
        rw [tag_of_constrain (fun type member other taken => ?_) outputMade]
        · exact called
        · have own := (outputEach _ (mem_nodes_of_mem_openCustoms member)).2
          rw [CustomType.eq_after_of_constrain taken]
          exact (own [extra] (List.forall_mem_singleton.mpr sound)).1
      exact ⟨⟨chain, kept⟩, inputEach, outputHypothesis outputEach outputMade⟩
  | custom type =>
      rcases constrain_custom_eq_ok.mp made with ⟨-, rfl⟩ | ⟨-, other, taken, rfl⟩
      · exact each
      · have own : (custom type).IsSound := each _ (mem_nodes_self _)
        have later := own.2.after sound
        rw [CustomType.eq_after_of_constrain taken]
        simp only [nodes, List.forall_mem_singleton]
        exact ⟨(later [] (by simp)).2.1, later⟩

end Schema

namespace Compiler

/-- Whether what a part of a specification brings with it is sound. -/
def BringsSound : Spec → Prop
  | .compiled type => ∀ node ∈ type.nodes, node.IsSound
  | .predicate single => single.IsSound
  | .caster function => function.IsSound
  | _ => True

/-- With the built-in predicates, sound nodes are built from all that brings only what is sound. -/
theorem builds_isSound
    {compiler : Compiler}
    (builtIn : compiler.predicates = .standard) :
    compiler.Builds (fun spec => ∀ part, spec.Contains part → BringsSound part)
      Predicate.IsSound Caster.IsSound fun schema => ∀ node ∈ schema.nodes, node.IsSound := by
  have looked (name : Value) (args : List Value) (predicate : Predicate)
      (found : compiler.predicates.predicate name args = .ok predicate) : predicate.IsSound := by
    rw [builtIn] at found
    exact Predicate.blamesOnly_holds found
  have chained (tag : Tag) (isType : Predicate) (extra : List Predicate)
      (checked : compiler.predicates.typeCheck tag = .ok isType)
      (sound : ∀ predicate ∈ extra, predicate.IsSound) :
      ∀ predicate ∈ isType :: extra, predicate.IsSound :=
    List.forall_mem_cons.mpr ⟨looked _ _ _ checked, sound⟩
  exact {
    inherited := Spec.isInherited_contains BringsSound
    compiled type held := held (.compiled type) (.whole _)
    predicate single held := held (.predicate single) (.whole _)
    caster function held := held (.caster function) (.whole _)
    registered := looked
    primitive tag isType extra checked sound := by
      simp only [Schema.nodes, List.forall_mem_singleton]
      exact ⟨chained tag isType extra checked sound, trivial⟩
    list isType extra member checked sound each := by
      rw [Schema.forall_nodes_list]
      exact ⟨⟨chained _ isType extra checked sound, trivial⟩, each⟩
    map isType extra keys atomize style checked sound _ each := by
      rw [Schema.forall_nodes_map]
      exact ⟨⟨chained _ isType extra checked sound, trivial⟩, each⟩
    union left right options leftEach rightEach := by
      rw [Schema.forall_nodes_union]
      exact ⟨⟨by simp [Schema.chain], trivial⟩, leftEach, rightEach⟩
    cast input output caster options inputEach outputEach called := by
      rw [Schema.forall_nodes_cast]
      exact ⟨⟨by simp [Schema.chain], called⟩, inputEach, outputEach⟩
    constrain schema extra constrained each sound made :=
      Schema.isSound_of_constrain each sound made }

end Compiler

namespace Schema

/-- All nodes of a schema that is built in are sound. -/
theorem IsBuiltIn.isSound
    {schema : Schema}
    (built : schema.IsBuiltIn) :
    ∀ node ∈ schema.nodes, node.IsSound := by
  induction built with
  | compile compiler spec options schema builtIn _ predicates casters compiled hypothesis =>
      have read (part : Spec) (found : compiler.Reads spec part) : Compiler.BringsSound part := by
        cases part with
        | compiled type => exact hypothesis type found
        | predicate single => exact predicates single found
        | caster function => exact casters function found
        | _ => trivial
      refine (Compiler.builds_isSound builtIn).holds ?_ ?_ compiled
      · exact fun type member part found => read part (.inr ⟨type, member, found⟩)
      · exact fun part found => read part (.inl found)
  | constrain schema constrained extra _ sound made hypothesis =>
      exact isSound_of_constrain hypothesis sound made
  | custom type own =>
      simp only [nodes, List.forall_mem_singleton]
      exact ⟨(own [] (by simp)).2.1, own⟩

/-- A plain value or a definition of one, compiled with built-in predicates and with such types,
is built in. -/
theorem isBuiltIn_of_isLiteral
    {compiler : Compiler}
    {spec : Spec}
    {options : CompileOptions}
    {schema : Schema}
    (builtIn : compiler.predicates = .standard)
    (types : ∀ type ∈ compiler.types.types, type.2.IsLiteral)
    (literal : spec.IsLiteral)
    (compiled : compiler.compile spec options = .ok schema) :
    schema.IsBuiltIn := by
  have read (part : Spec) (found : compiler.Reads spec part) : part.IsLiteral := by
    obtain inside | ⟨type, member, inside⟩ := found
    · exact Spec.isInherited_isLiteral.ofContains inside literal
    · exact Spec.isInherited_isLiteral.ofContains inside (types type member)
  refine .compile compiler spec options schema builtIn ?_ ?_ ?_ compiled
  · exact fun type found => absurd rfl ((Spec.ne_of_isLiteral (read _ found)).1 type)
  · exact fun single found => absurd rfl ((Spec.ne_of_isLiteral (read _ found)).2.1 single)
  · exact fun function found => absurd rfl ((Spec.ne_of_isLiteral (read _ found)).2.2 function)

theorem isLiteral_standard : ∀ type ∈ TypeRegistry.standard.types, type.2.IsLiteral := by
  simp only [TypeRegistry.standard, List.forall_mem_singleton]
  exact .inr ⟨_, _, _, rfl, .tuple [.text "union", .text "integer", .text "float",
    .map [(.text "name", .text "number")]], rfl⟩

/-- A cast from counts to moments by a unit that is none. -/
def hourlySpec : Spec :=
  .tuple [.text "cast", .text "integer", .text "date_time", .map [(.text "unit", .text "hour")]]

/-- The cast by hours, compiled with the built-in predicates. -/
def hourly : Schema :=
  .cast (.primitive .integer [Predicate.typeCheck .integer])
    (.primitive .dateTime [Predicate.typeCheck .dateTime]) .default [("unit", .text "hour")]

theorem compile_hourly : Compiler.standard.compile hourlySpec .none = .ok hourly := by
  simp [hourlySpec, Compiler.compile, Compiler.compileSpec, Compiler.compileName]
  rfl

/-- Any value that is of a kind that is none. -/
def uuidSpec : Spec :=
  .tuple [.text "type", .text "any", .list [.tuple [.text "type?", .text "uuid"]]]

end Schema
end DataContract
