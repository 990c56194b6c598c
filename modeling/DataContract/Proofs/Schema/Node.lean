import DataContract.Schema.Basic

/-!
# Nodes of schemas

A schema is a tree whose nodes are primitives, lists, maps, unions, casts and
custom schemas. This module gives the induction over that tree, in which a map
may assume what is to be shown for the schema of each of its keys, and the list
of all nodes of a schema.
-/

namespace DataContract

namespace Key

variable
  (around : Path)
  (name : Value)
  (presence : Presence)
  (type : Schema)
  (inline : Bool)

@[simp] theorem name_mk : (mk around name presence type inline).name = name := rfl

@[simp] theorem presence_mk :
    (mk around name presence type inline).presence = presence := rfl

@[simp] theorem type_mk : (mk around name presence type inline).type = type := rfl

@[simp] theorem inline_mk : (mk around name presence type inline).inline = inline := rfl

end Key

namespace Schema

/-- What passes from the parts of a schema to the schema holds of all schemas. -/
@[elab_as_elim, induction_eliminator] theorem induct
    {motive : Schema → Prop}
    (primitive : ∀ tag chain, motive (.primitive tag chain))
    (list : ∀ chain member, motive member → motive (.list chain member))
    (map : ∀ chain keys atomize style, (∀ key ∈ keys, motive key.type) →
      motive (.map chain keys atomize style))
    (union : ∀ left right options, motive left → motive right →
      motive (.union left right options))
    (cast : ∀ input output caster options, motive input → motive output →
      motive (.cast input output caster options))
    (custom : ∀ type, motive (.custom type))
    (schema : Schema) : motive schema :=
  @Schema.rec
    motive
    (fun key => motive key.type)
    (fun keys => ∀ key ∈ keys, motive key.type)
    primitive list map union cast custom
    (fun _ _ _ _ _ hypothesis => hypothesis)
    (fun _ absent => nomatch absent)
    (fun _ _ first others _ member => by
      rcases List.mem_cons.mp member with rfl | member
      · exact first
      · exact others _ member)
    schema

/-- The chain of predicates of a node that has one. -/
def chain : Schema → List Predicate
  | .primitive _ chain => chain
  | .list chain _ => chain
  | .map chain _ _ _ => chain
  | .custom type => type.now.chain
  | .union .. => []
  | .cast .. => []

mutual

/-- All nodes of a schema, every node before its parts. -/
def nodes : Schema → List Schema
  | .primitive tag chain => [.primitive tag chain]
  | .list chain member => .list chain member :: member.nodes
  | .map chain keys atomize style => .map chain keys atomize style :: keyNodes keys
  | .union left right options => .union left right options :: (left.nodes ++ right.nodes)
  | .cast input output caster options =>
      .cast input output caster options :: (input.nodes ++ output.nodes)
  | .custom type => [.custom type]

/-- All nodes of the schemas of keys. -/
def keyNodes : List Key → List Schema
  | [] => []
  | .mk _ _ _ type _ :: rest => type.nodes ++ keyNodes rest

end

attribute [local simp] nodes keyNodes

theorem mem_keyNodes
    {node : Schema}
    {keys : List Key} :
    node ∈ keyNodes keys ↔ ∃ key ∈ keys, node ∈ key.type.nodes := by
  induction keys with
  | nil => simp
  | cons key rest hypothesis =>
      cases key
      simp [hypothesis]

/-- A schema is one of its nodes. -/
theorem mem_nodes_self (schema : Schema) : schema ∈ schema.nodes := by
  cases schema <;> simp

section Parts

variable {property : Schema → Prop}

/-- What holds of all nodes of a list holds of the list and of all nodes of its
member. -/
theorem forall_nodes_list
    {chain : List Predicate}
    {member : Schema} :
    (∀ node ∈ (list chain member).nodes, property node) ↔
      property (.list chain member) ∧ ∀ node ∈ member.nodes, property node := by
  simp

/-- What holds of all nodes of a map holds of the map and of all nodes of the
schemas of its keys. -/
theorem forall_nodes_map
    {chain : List Predicate}
    {keys : List Key}
    {atomize : Bool}
    {style : KeyStyle} :
    (∀ node ∈ (map chain keys atomize style).nodes, property node) ↔
      property (.map chain keys atomize style) ∧
        ∀ key ∈ keys, ∀ node ∈ key.type.nodes, property node := by
  simp only [nodes, List.forall_mem_cons, mem_keyNodes]
  constructor
  · rintro ⟨root, parts⟩
    exact ⟨root, fun key member node inside => parts node ⟨key, member, inside⟩⟩
  · rintro ⟨root, parts⟩
    refine ⟨root, ?_⟩
    rintro node ⟨key, member, inside⟩
    exact parts key member node inside

/-- What holds of all nodes of a union holds of the union and of all nodes of its
alternatives. -/
theorem forall_nodes_union
    {left right : Schema}
    {options : Options} :
    (∀ node ∈ (union left right options).nodes, property node) ↔
      property (.union left right options) ∧
        (∀ node ∈ left.nodes, property node) ∧ ∀ node ∈ right.nodes, property node := by
  simp [or_imp, forall_and]

/-- What holds of all nodes of a cast holds of the cast and of all nodes of its
sides. -/
theorem forall_nodes_cast
    {input output : Schema}
    {caster : Caster}
    {options : Options} :
    (∀ node ∈ (cast input output caster options).nodes, property node) ↔
      property (.cast input output caster options) ∧
        (∀ node ∈ input.nodes, property node) ∧ ∀ node ∈ output.nodes, property node := by
  simp [or_imp, forall_and]

end Parts

end Schema
end DataContract
