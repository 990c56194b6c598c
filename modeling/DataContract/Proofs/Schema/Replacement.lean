import DataContract.Proofs.Schema.Report
import DataContract.Proofs.Schema.TypeCheck

/-!
# What predicates get to see

The constraints of every compiled primitive, list and map are a flat conjunction that begins
with the type check of its tag, and stay one however they are extended. With the built-in type
check no predicate after it is asked about a value that the tag does not admit. The functions
of these predicates may therefore be replaced by any that agree with them on the values that
the tag admits: no value is validated differently.
-/

namespace DataContract

/-- Whether the built-in type check is the one that is registered. -/
def PredicateRegistry.HasTypeCheck (registry : PredicateRegistry) : Prop :=
  registry.find? Failure.typePredicate = some (Predicate.binary Predicate.isType)

theorem PredicateRegistry.hasTypeCheck_standard : standard.HasTypeCheck := rfl

theorem PredicateRegistry.HasTypeCheck.eq_typeCheck
    {registry : PredicateRegistry}
    {tag : Tag}
    {isType : Predicate}
    (registered : registry.HasTypeCheck)
    (checked : registry.typeCheck tag = .ok isType) :
    isType = .typeCheck tag := by
  obtain ⟨function, found, made⟩ := Attempt.bind_eq_ok.mp checked
  have named : registry.get (.text Failure.typePredicate) =
      .ok (Predicate.binary Predicate.isType) := by
    rw [HasTypeCheck] at registered
    simp [get, Value.isKey, registered]
  cases named.symm.trans found
  cases made
  rfl

/-! ## Flat conjunctions -/

namespace Constraint

/-- Whether a constraint is no conjunction inside another. -/
def IsSingle (constraint : Constraint) : Prop :=
  ∀ items, constraint ≠ .all items

/-- Whether a constraint is a flat conjunction whose first item is the built-in check of a
tag. -/
def ChecksFirst
    (tag : Tag)
    (constraint : Constraint) : Prop :=
  ∃ rest, constraint = .all (.predicate (.typeCheck tag) :: rest) ∧
    ∀ item ∈ rest, item.IsSingle

variable
  {tag : Tag}
  {constraint : Constraint}

/-- The conjunction of a chain that begins with a type check begins with it. -/
theorem checksFirst_ofChain
    (tag : Tag)
    (extra : List Predicate) :
    (ofChain (.typeCheck tag :: extra)).ChecksFirst tag := by
  refine ⟨extra.map .predicate, rfl, ?_⟩
  rw [List.forall_mem_map]
  exact fun single _ items impossible => nomatch impossible

/-- Constraints that are no conjunctions are conjoined as they are. -/
theorem flatMap_conjuncts_of_isSingle
    {items : List Constraint}
    (single : ∀ item ∈ items, item.IsSingle) :
    items.flatMap conjuncts = items := by
  have alone : ∀ item ∈ items, item.conjuncts = [item] := by
    intro item member
    cases item with
    | all parts => exact absurd rfl (single _ member parts)
    | predicate _ => rfl
    | either _ _ _ => rfl
    | schema _ => rfl
  rw [List.flatMap_congr alone, List.flatMap_singleton']

/-- A conjunction begins with the type check that its first constraint begins with, and is flat
if the others are no conjunctions. -/
theorem ChecksFirst.conjunction
    {more : List Constraint}
    (checks : constraint.ChecksFirst tag)
    (single : ∀ item ∈ more, item.IsSingle) :
    (Constraint.conjunction (constraint :: more)).ChecksFirst tag := by
  obtain ⟨rest, rfl, flat⟩ := checks
  refine ⟨rest ++ more, ?_, ?_⟩
  · rw [Constraint.conjunction, List.flatMap_cons, flatMap_conjuncts_of_isSingle single]
    rfl
  · rw [List.forall_mem_append]
    exact ⟨flat, single⟩

/-- An extended constraint begins with the type check that it began with. -/
theorem ChecksFirst.extend
    {more : List Constraint}
    (checks : constraint.ChecksFirst tag)
    (single : ∀ item ∈ more, item.IsSingle) :
    (constraint.extend more).ChecksFirst tag := by
  rw [Constraint.extend]
  split
  · exact checks
  · exact checks.conjunction single

end Constraint

namespace Schema

/-- The tag that a node checks itself: unions, casts and custom schemas leave the check to
others. -/
def checkedTag? : Schema → Option Tag
  | .primitive tag _ => some tag
  | .list .. => some .list
  | .map .. => some .map
  | .union .. => none
  | .cast .. => none
  | .custom .. => none

/-- A node whose chain begins with the built-in check of its tag shows a flat conjunction that
begins with it. -/
theorem exists_constraints_of_checksFirst
    {node : Schema}
    {tag : Tag}
    (checks : node.ChecksFirst fun tag isType => isType = .typeCheck tag)
    (checked : node.checkedTag? = some tag) :
    ∃ constraint, node.constraints = .ok constraint ∧ constraint.ChecksFirst tag := by
  cases node with
  | primitive own chain =>
      cases checked
      obtain ⟨_, extra, rfl, rfl⟩ := checks
      exact ⟨_, rfl, Constraint.checksFirst_ofChain _ extra⟩
  | list chain member =>
      cases checked
      obtain ⟨_, extra, rfl, rfl⟩ := checks
      exact ⟨_, rfl, Constraint.checksFirst_ofChain _ extra⟩
  | map chain keys atomize style =>
      cases checked
      obtain ⟨⟨_, extra, rfl, rfl⟩, -⟩ := checks
      exact ⟨_, rfl, Constraint.checksFirst_ofChain _ extra⟩
  | union left right options => cases checked
  | cast input output caster options => cases checked
  | custom type => cases checked

end Schema

/-! ## Replaced functions -/

/-- Whether a predicate is another with a function that agrees with that of the other on the
values that a tag admits, and does anything on all other values. -/
structure Predicate.AgreesOn
    (tag : Tag)
    (predicate other : Predicate) : Prop where
  /-- They have the same name. -/
  name : other.name = predicate.name
  /-- They have the same first arguments. -/
  args : other.args = predicate.args
  /-- They give the same answer to every value that the tag admits. -/
  holds : ∀ value, tag.admits value = true → other.holds value = predicate.holds value

/-- Whether a chain is another with some functions after the first predicate replaced. -/
def ChainReplaced
    (tag : Tag)
    (chain others : List Predicate) : Prop :=
  ∃ first extra otherExtra, chain = first :: extra ∧ others = first :: otherExtra ∧
    List.Forall₂ (Predicate.AgreesOn tag) extra otherExtra

mutual

/-- Whether a schema is another with some functions after the type checks replaced. -/
def Schema.Replaced : Schema → Schema → Prop
  | .primitive tag chain, other =>
      ∃ others, other = .primitive tag others ∧ ChainReplaced tag chain others
  | .list chain member, other =>
      ∃ others otherMember, other = .list others otherMember ∧
        ChainReplaced .list chain others ∧ member.Replaced otherMember
  | .map chain keys atomize style, other =>
      ∃ others otherKeys, other = .map others otherKeys atomize style ∧
        ChainReplaced .map chain others ∧ KeysReplaced keys otherKeys
  | .union left right options, other =>
      ∃ first second, other = .union first second options ∧
        left.Replaced first ∧ right.Replaced second
  | .cast input output caster options, other =>
      ∃ first second, other = .cast first second caster options ∧
        input.Replaced first ∧ output.Replaced second
  | .custom type, other => other = .custom type

/-- Whether keys are others with some functions in their schemas replaced. -/
def KeysReplaced : List Key → List Key → Prop
  | [], others => others = []
  | .mk around name presence type inline :: rest, others =>
      ∃ otherType otherRest, others = .mk around name presence otherType inline :: otherRest ∧
        type.Replaced otherType ∧ KeysReplaced rest otherRest

end

/-- A chain that begins with the built-in check of a tag comes to the same with functions
replaced after it. -/
theorem checkChain_of_chainReplaced
    {tag : Tag}
    {chain others : List Predicate}
    (begins : Schema.BeginsWith (fun tag isType => isType = .typeCheck tag) tag chain)
    (replaced : ChainReplaced tag chain others)
    (value : Value) :
    checkChain others value = checkChain chain value := by
  obtain ⟨_, _, rfl, rfl⟩ := begins
  obtain ⟨first, extra, otherExtra, same, rfl, agree⟩ := replaced
  cases same
  cases admitted : tag.admits value with
  | false =>
      have refused : (Predicate.typeCheck tag).holds value = .ok false := by
        rw [Predicate.holds_typeCheck, admitted]
      rw [checkChain_cons_of_not_holds refused, checkChain_cons_of_not_holds refused]
  | true =>
      have passed : (Predicate.typeCheck tag).holds value = .ok true := by
        rw [Predicate.holds_typeCheck, admitted]
      rw [checkChain_cons_of_holds passed, checkChain_cons_of_holds passed]
      clear passed
      induction agree with
      | nil => rfl
      | cons here _ hypothesis =>
          refine checkChain_cons_congr ?_ hypothesis
          simp only [Predicate.check, here.holds value admitted, here.name, here.args]

namespace Schema

section Replaced

variable {schema other : Schema}

theorem Replaced.tag_eq (replaced : schema.Replaced other) : other.tag = schema.tag := by
  induction schema generalizing other with
  | primitive tag chain =>
      obtain ⟨_, rfl, -⟩ := replaced
      rfl
  | list chain member _ =>
      obtain ⟨_, _, rfl, -⟩ := replaced
      rfl
  | map chain keys atomize style _ =>
      obtain ⟨_, _, rfl, -⟩ := replaced
      rfl
  | union left right options _ _ =>
      obtain ⟨_, _, rfl, -⟩ := replaced
      rfl
  | cast input output caster options _ outputHypothesis =>
      obtain ⟨first, second, rfl, -, outputReplaced⟩ := replaced
      simpa only [tag] using outputHypothesis outputReplaced
  | custom type =>
      obtain rfl := replaced
      rfl

theorem Replaced.isPrimitive_eq (replaced : schema.Replaced other) :
    other.isPrimitive = schema.isPrimitive := by
  cases schema with
  | primitive tag chain =>
      obtain ⟨_, rfl, -⟩ := replaced
      rfl
  | list chain member =>
      obtain ⟨_, _, rfl, -⟩ := replaced
      rfl
  | map chain keys atomize style =>
      obtain ⟨_, _, rfl, -⟩ := replaced
      rfl
  | union left right options =>
      obtain ⟨_, _, rfl, -⟩ := replaced
      rfl
  | cast input output caster options =>
      obtain ⟨_, _, rfl, -⟩ := replaced
      rfl
  | custom type =>
      obtain rfl := replaced
      rfl

/-- Keys rename the same entries whatever their predicates are. -/
theorem atomizeKeys_of_keysReplaced
    {style : KeyStyle}
    {keys others : List Key}
    (same : ∀ key ∈ keys, ∀ other, key.type.Replaced other →
      other.atomizeInline style = key.type.atomizeInline style)
    (replaced : KeysReplaced keys others) :
    atomizeKeys style others = atomizeKeys style keys := by
  funext data
  induction keys generalizing others with
  | nil =>
      obtain rfl := replaced
      rfl
  | cons key rest hypothesis =>
      obtain ⟨around, name, presence, type, inline⟩ := key
      obtain ⟨otherType, otherRest, rfl, typeReplaced, restReplaced⟩ := replaced
      rw [List.forall_mem_cons] at same
      simp only [atomizeKeys, same.1 otherType typeReplaced, hypothesis same.2 restReplaced,
        Key.type_mk]

/-- Values in place are renamed in the same way whatever the predicates are. -/
theorem Replaced.atomizeInline_eq
    (style : KeyStyle)
    (replaced : schema.Replaced other) :
    other.atomizeInline style = schema.atomizeInline style := by
  induction schema generalizing other with
  | primitive tag chain =>
      obtain ⟨_, rfl, -⟩ := replaced
      rfl
  | list chain member _ =>
      obtain ⟨_, _, rfl, -⟩ := replaced
      rfl
  | map chain keys atomize own hypothesis =>
      obtain ⟨_, otherKeys, rfl, -, keysReplaced⟩ := replaced
      have renamed : atomizeKeys style otherKeys = atomizeKeys style keys :=
        atomizeKeys_of_keysReplaced (fun key member _ => hypothesis key member) keysReplaced
      have count : otherKeys.isEmpty = keys.isEmpty := by
        cases keys with
        | nil =>
            obtain rfl := keysReplaced
            rfl
        | cons key rest =>
            cases key with
            | mk around name presence type inline =>
                obtain ⟨_, _, rfl, -⟩ := keysReplaced
                rfl
      funext value
      cases value <;> simp only [atomizeInline, renamed, count]
  | union left right options _ _ =>
      obtain ⟨_, _, rfl, -⟩ := replaced
      rfl
  | cast input output caster options _ _ =>
      obtain ⟨_, _, rfl, -⟩ := replaced
      rfl
  | custom type =>
      obtain rfl := replaced
      rfl

/-- Keys come to the same if the schemas of their values do. -/
theorem validateKeys_of_keysReplaced
    {keys others : List Key}
    (same : ∀ key ∈ keys, ∀ other, key.type.Replaced other →
      other.validate = key.type.validate)
    (replaced : KeysReplaced keys others) :
    validateKeys others = validateKeys keys := by
  funext data
  induction keys generalizing others with
  | nil =>
      obtain rfl := replaced
      rfl
  | cons key rest hypothesis =>
      obtain ⟨around, name, presence, type, inline⟩ := key
      obtain ⟨otherType, otherRest, rfl, typeReplaced, restReplaced⟩ := replaced
      rw [List.forall_mem_cons] at same
      simp only [validateKeys, same.1 otherType typeReplaced, hypothesis same.2 restReplaced,
        Key.type_mk]

/-- Schemas whose nodes begin with built-in type checks validate in the same way with functions
replaced after them. -/
theorem Replaced.validate_eq
    (checks : ∀ node ∈ schema.nodes,
      node.ChecksFirst fun tag isType => isType = .typeCheck tag)
    (replaced : schema.Replaced other) :
    other.validate = schema.validate := by
  induction schema generalizing other with
  | primitive tag chain =>
      obtain ⟨others, rfl, chainReplaced⟩ := replaced
      funext value
      exact checkChain_of_chainReplaced (checks _ (mem_nodes_self _)) chainReplaced value
  | list chain member hypothesis =>
      obtain ⟨others, otherMember, rfl, chainReplaced, memberReplaced⟩ := replaced
      rw [forall_nodes_list] at checks
      funext value
      simp only [validate, checkChain_of_chainReplaced checks.1 chainReplaced,
        hypothesis checks.2 memberReplaced]
  | map chain keys atomize style hypothesis =>
      obtain ⟨others, otherKeys, rfl, chainReplaced, keysReplaced⟩ := replaced
      rw [forall_nodes_map] at checks
      have renamed : atomizeKeys style otherKeys = atomizeKeys style keys :=
        atomizeKeys_of_keysReplaced (fun _ _ _ => atomizeInline_eq style) keysReplaced
      have validated : validateKeys otherKeys = validateKeys keys :=
        validateKeys_of_keysReplaced
          (fun key member _ => hypothesis key member (checks.2 key member)) keysReplaced
      funext value
      simp only [validate, checkChain_of_chainReplaced checks.1.1 chainReplaced, renamed,
        validated]
  | union left right options leftHypothesis rightHypothesis =>
      obtain ⟨first, second, rfl, leftReplaced, rightReplaced⟩ := replaced
      rw [forall_nodes_union] at checks
      funext value
      simp only [validate, leftHypothesis checks.2.1 leftReplaced,
        rightHypothesis checks.2.2 rightReplaced, leftReplaced.isPrimitive_eq]
  | cast input output caster options inputHypothesis outputHypothesis =>
      obtain ⟨first, second, rfl, inputReplaced, outputReplaced⟩ := replaced
      rw [forall_nodes_cast] at checks
      funext value
      simp only [validate, inputHypothesis checks.2.1 inputReplaced,
        outputHypothesis checks.2.2 outputReplaced, inputReplaced.tag_eq,
        outputReplaced.tag_eq]
  | custom type =>
      obtain rfl := replaced
      rfl

end Replaced

/-- A predicate that fails on all values that a tag does not admit, instead of answering. -/
def onlyFor
    (tag : Tag)
    (predicate : Predicate) : Predicate where
  name := predicate.name
  args := predicate.args
  function args :=
    if tag.admits (args.getLastD .null) then predicate.function args else .error .functionFailed

theorem agreesOn_onlyFor
    (tag : Tag)
    (predicate : Predicate) :
    predicate.AgreesOn tag (onlyFor tag predicate) where
  name := rfl
  args := rfl
  holds value admitted := by simp [Predicate.holds, onlyFor, admitted]

/-- A list of positive numbers that is not empty. -/
def scoresSpec : Spec :=
  .tuple
    [.text "list",
    .tuple
      [.text "type", .text "integer", .list [.tuple [.text "gt?", .scalar (.int 0)]]],
    .list [.text "filled?"]]

/-- What is compiled from `scoresSpec`. -/
def scores : Schema :=
  .list [.typeCheck .list, .filledCheck] (.primitive .integer [.typeCheck .integer, .aboveCheck 0])

theorem compile_scores : Compiler.standard.compile scoresSpec .none = .ok scores := by
  simp [scoresSpec, Compiler.compile, Compiler.compileSpec, Compiler.compileName]
  rfl

end Schema
end DataContract
