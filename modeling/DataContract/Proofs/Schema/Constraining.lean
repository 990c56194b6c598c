import DataContract.Proofs.Attempt
import DataContract.Proofs.Schema.Node
import DataContract.Schema.Constraint

/-!
# Constraining schemas

Constraining hands predicates down through unions and casts to the nodes that have a
chain, and puts them at the end of it. Whether it succeeds is up to the custom
schemas it comes to, and what these make of the predicates is up to them. Apart from
them constraining never changes what a schema is a schema of, nor whether it is a
primitive.
-/

namespace DataContract

namespace CustomType

variable
  {type other : CustomType}
  {extra : List Predicate}

/-- A custom schema that takes predicates is what it is after it has taken them. -/
theorem eq_after_of_constrain (taken : type.constrain extra = .ok other) :
    other = type.after extra := by
  rw [constrain] at taken
  split at taken
  · obtain ⟨_, -, rfl⟩ := Attempt.map_eq_ok.mp taken
    rfl
  · simp at taken

/-- A custom schema without a way to take predicates refuses them. -/
theorem constrain_of_closed
    (closed : type.now.take? = none)
    (extra : List Predicate) :
    type.constrain extra = refuse (.fixedConstraints ("<" ++ type.now.tag ++ ">")) := by
  rw [constrain, closed]

end CustomType

namespace Schema

attribute [local simp] constrain

section Inversion

variable
  {left right input output constrained : Schema}
  {options : Options}
  {caster : Caster}
  {extra : List Predicate}

/-- A union is constrained on both sides. -/
theorem constrain_union_eq_ok :
    (union left right options).constrain extra = .ok constrained ↔
      ∃ first second, left.constrain extra = .ok first ∧ right.constrain extra = .ok second ∧
        constrained = union first second options := by
  simp only [constrain, Attempt.bind_eq_ok, Except.ok.injEq]
  constructor
  · rintro ⟨first, leftMade, second, rightMade, rfl⟩
    exact ⟨first, second, leftMade, rightMade, rfl⟩
  · rintro ⟨first, second, leftMade, rightMade, rfl⟩
    exact ⟨first, leftMade, second, rightMade, rfl⟩

/-- A cast is constrained on its output. -/
theorem constrain_cast_eq_ok :
    (cast input output caster options).constrain extra = .ok constrained ↔
      ∃ second, output.constrain extra = .ok second ∧
        constrained = cast input second caster options := by
  simp only [constrain, Attempt.bind_eq_ok, Except.ok.injEq, eq_comm (a := constrained)]

/-- A custom schema is constrained in its own way, unless there is nothing to constrain it
with. -/
theorem constrain_custom_eq_ok
    {type : CustomType} :
    (custom type).constrain extra = .ok constrained ↔
      (extra = [] ∧ constrained = custom type) ∨
        extra ≠ [] ∧ ∃ other, type.constrain extra = .ok other ∧ constrained = custom other := by
  cases extra with
  | nil => simp [@eq_comm Schema constrained]
  | cons predicate rest => simp [Attempt.map_eq_ok, @eq_comm Schema constrained]

end Inversion

/-- The custom schemas that are constrained with a schema, from left to right. -/
def openCustoms : Schema → List CustomType
  | .union left right _ => left.openCustoms ++ right.openCustoms
  | .cast _ output _ _ => output.openCustoms
  | .custom type => [type]
  | _ => []

/-- The custom schemas that are constrained with a schema are nodes of it. -/
theorem mem_nodes_of_mem_openCustoms
    {schema : Schema}
    {type : CustomType}
    (member : type ∈ schema.openCustoms) :
    custom type ∈ schema.nodes := by
  induction schema with
  | primitive tag chain | list chain content _ | map chain keys atomize style _ =>
      simp [openCustoms] at member
  | union left right options leftHypothesis rightHypothesis =>
      rcases List.mem_append.mp member with member | member
      · simp [nodes, leftHypothesis member]
      · simp [nodes, rightHypothesis member]
  | cast input output caster options _ outputHypothesis =>
      simp [nodes, outputHypothesis member]
  | custom type =>
      rw [List.mem_singleton.mp member]
      exact mem_nodes_self _

/-- Without further predicates a schema stays as it is. -/
@[simp] theorem constrain_nil (schema : Schema) : schema.constrain [] = .ok schema := by
  induction schema with
  | primitive tag chain => simp
  | list chain member _ => simp
  | map chain keys atomize style _ => simp
  | union left right options leftHypothesis rightHypothesis =>
      simp [leftHypothesis, rightHypothesis]
  | cast input output caster options _ outputHypothesis => simp [outputHypothesis]
  | custom type => simp

/-- Constraining keeps the tag of a schema, if the custom schemas in it keep theirs. -/
theorem tag_of_constrain
    {schema constrained : Schema}
    {extra : List Predicate}
    (kept : ∀ type ∈ schema.openCustoms, ∀ other, type.constrain extra = .ok other →
      other.now.tag = type.now.tag)
    (made : schema.constrain extra = .ok constrained) :
    constrained.tag = schema.tag := by
  induction schema generalizing constrained with
  | primitive tag chain =>
      cases made
      rfl
  | list chain member _ =>
      cases made
      rfl
  | map chain keys atomize style _ =>
      cases made
      rfl
  | union left right options _ _ =>
      obtain ⟨first, second, -, -, rfl⟩ := constrain_union_eq_ok.mp made
      rfl
  | cast input output caster options _ outputHypothesis =>
      obtain ⟨second, outputMade, rfl⟩ := constrain_cast_eq_ok.mp made
      simpa only [tag] using outputHypothesis kept outputMade
  | custom type =>
      rcases constrain_custom_eq_ok.mp made with ⟨-, rfl⟩ | ⟨-, other, taken, rfl⟩
      · rfl
      · rw [tag, tag, kept type List.mem_cons_self other taken]

/-- Constraining makes no primitive and unmakes none, custom schemas apart. -/
theorem isPrimitive_of_constrain
    {schema constrained : Schema}
    {extra : List Predicate}
    (own : ∀ type, schema ≠ custom type)
    (made : schema.constrain extra = .ok constrained) :
    constrained.isPrimitive = schema.isPrimitive := by
  cases schema with
  | primitive tag chain =>
      cases made
      rfl
  | list chain member =>
      cases made
      rfl
  | map chain keys atomize style =>
      cases made
      rfl
  | union left right options =>
      obtain ⟨first, second, -, -, rfl⟩ := constrain_union_eq_ok.mp made
      rfl
  | cast input output caster options =>
      obtain ⟨second, -, rfl⟩ := constrain_cast_eq_ok.mp made
      rfl
  | custom type => exact absurd rfl (own type)

end Schema
end DataContract
