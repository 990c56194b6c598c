import DataContract.Proofs.Failure.Node
import DataContract.Proofs.Schema.Constraining
import DataContract.Proofs.Schema.Report
import DataContract.Proofs.Spec.Invariant
import DataContract.Proofs.Value.Path

/-!
# Where failures point

A failure tells by a path where in the examined value it was found. For schemas
without casts and custom schemas, which do not rename keys, this module shows that
the path is right: it leads to the value that the failure is about, and in the
schema to the predicate, the required key or the union that the failure names.

The paths are put together on the way up, one step at every list and every map,
through listed failures and both sides of alternatives. The induction therefore
carries what a node says about the value and the schema around it, and one step
outwards (`Failure.IsTruthful.nest`) is what keeps it.
-/

namespace DataContract

namespace Schema

/-- Whether a path leads from a schema to a node of it, by indices through lists and
by names through maps. Both sides of a union are at its own place. -/
inductive Leads : Schema → Path → Schema → Prop
  | here (schema : Schema) : Leads schema [] schema
  | item
      (chain : List Predicate)
      (member : Schema)
      (index : Nat)
      (path : Path)
      (node : Schema)
      (inside : Leads member path node) :
      Leads (.list chain member) (.int index :: path) node
  | entry
      (chain : List Predicate)
      (keys : List Key)
      (atomize : Bool)
      (style : KeyStyle)
      (key : Key)
      (member : key ∈ keys)
      (path : Path)
      (node : Schema)
      (inside : Leads key.type path node) :
      Leads (.map chain keys atomize style) (key.name :: path) node
  | left
      (first second : Schema)
      (options : Options)
      (path : Path)
      (node : Schema)
      (inside : Leads first path node) :
      Leads (.union first second options) path node
  | right
      (first second : Schema)
      (options : Options)
      (path : Path)
      (node : Schema)
      (inside : Leads second path node) :
      Leads (.union first second options) path node

/-- Whether a node examines the value itself: it is no cast, no custom schema and no
map that renames keys. -/
def IsDirect : Schema → Prop
  | .map _ _ atomize _ => atomize = false
  | .cast .. => False
  | .custom .. => False
  | _ => True

/-- Whether a node with parts accepts only values that have such parts. -/
def ChecksKind : Schema → Prop
  | .list chain _ => ∀ value, (∀ predicate ∈ chain, predicate.holds value = .ok true) →
      Tag.list.admits value = true
  | .map chain _ _ _ => ∀ value, (∀ predicate ∈ chain, predicate.holds value = .ok true) →
      Tag.map.admits value = true
  | _ => True

end Schema

/-- Whether a node of a failure is right about a value and the schema that it was
validated against.

The path of a predicate leads to the examined value, which is its last argument, and
to a node with that predicate, which does not hold. The path of a missing key leads,
without the last step, to a map that has no entry for that step, and to a map with
that required key. The path of alternatives leads to a value and to a union, both
sides of which fail for that value as the failure tells. -/
def Failure.IsTruthful
    (schema : Schema)
    (value : Value) : Failure → Prop
  | .predicate path name args input =>
      value.follow path = .ok input ∧
        ∃ node predicate, schema.Leads path node ∧ predicate ∈ node.chain ∧
          predicate.name = name ∧ args = predicate.args ++ [input] ∧
          predicate.holds input = .ok false
  | .missing path =>
      ∃ front key entries node, path = front ++ [key.name] ∧
        value.follow front = .ok (.map entries) ∧ Entries.has entries key.name = false ∧
        schema.Leads front node ∧ key ∈ node.keys ∧ key.presence = .required
  | .either path left right options =>
      ∃ part first second leftInner rightInner, value.follow path = .ok part ∧
        schema.Leads path (.union first second options) ∧
        first.validate part = .ok (.error leftInner) ∧ left = leftInner.nest path ∧
        second.validate part = .ok (.error rightInner) ∧ right = rightInner.nest path
  | .several _ => False
  | .cast _ => False
  | .rule .. => False

namespace Failure

/-- What is right about a part is right, with the path to the part in front, about the
whole. -/
theorem IsTruthful.nest
    {schema inner : Schema}
    {value part : Value}
    {node : Failure}
    {front : Path}
    (truthful : node.IsTruthful inner part)
    (reached : value.follow front = .ok part)
    (leads : ∀ path node, inner.Leads path node → schema.Leads (front ++ path) node) :
    (node.nest front).IsTruthful schema value := by
  have follows := Value.follow_append_of_follow reached
  cases node with
  | predicate path name args input =>
      obtain ⟨found, place, predicate, led, fails⟩ := truthful
      exact ⟨(follows path).trans found, place, predicate, leads _ _ led, fails⟩
  | missing path =>
      obtain ⟨back, key, entries, place, rfl, found, absent, led, required⟩ := truthful
      exact ⟨front ++ back, key, entries, place, (List.append_assoc front back _).symm,
        (follows back).trans found, absent, leads _ _ led, required⟩
  | either path left right options =>
      obtain ⟨examined, first, second, leftInner, rightInner, found, led, firstFailed, rfl,
        secondFailed, rfl⟩ := truthful
      exact ⟨examined, first, second, leftInner, rightInner, (follows path).trans found,
        leads _ _ led, firstFailed, nest_nest front path leftInner,
        secondFailed, nest_nest front path rightInner⟩
  | several failures => exact truthful.elim
  | cast wrapped => exact truthful.elim
  | rule path text => exact truthful.elim

/-- What is right about a side of a union is right about the union. -/
theorem IsTruthful.outer
    {schema inner : Schema}
    {value : Value}
    {node : Failure}
    (truthful : node.IsTruthful inner value)
    (leads : ∀ path node, inner.Leads path node → schema.Leads path node) :
    node.IsTruthful schema value := by
  rw [← nest_nil node]
  exact truthful.nest (Value.follow_nil value) leads

end Failure

namespace Schema

section Steps

variable
  {chain : List Predicate}
  {value : Value}
  {failure node : Failure}

/-- A failed chain reports a predicate of the node at its own place. -/
theorem isTruthful_of_checkChain
    (schema : Schema)
    (failed : checkChain schema.chain value = .ok (.error failure))
    (inside : node ∈ failure.nodes) :
    node.IsTruthful schema value := by
  obtain ⟨before, predicate, after, split, -, fails, rfl⟩ := exists_of_checkChain_failed failed
  obtain rfl : node = predicate.failure value := by
    simpa [Predicate.failure, Failure.nodes] using inside
  refine ⟨rfl, schema, predicate, .here schema, ?_, rfl, rfl, fails⟩
  simp [split]

/-- A list is right about its items if its member is. -/
theorem isTruthful_list
    {member : Schema}
    (checks : (list chain member).ChecksKind)
    (truthful : ∀ value failure, member.validate value = .ok (.error failure) →
      ∀ node ∈ failure.nodes, node.IsTruthful member value)
    (failed : (list chain member).validate value = .ok (.error failure))
    (inside : node ∈ failure.nodes) :
    node.IsTruthful (list chain member) value := by
  rcases validate_list_eq_ok.mp failed with
    ⟨reported, stopped, same⟩ | ⟨passed, items, outcomes, parts, each, whole⟩
  · cases same
    exact isTruthful_of_checkChain (list chain member) stopped inside
  · obtain rfl := Parts.outcome_collect_eq_error whole.symm
    obtain ⟨reported, listed, inside⟩ := Failure.mem_listNodes.mp inside
    obtain ⟨index, item, inner, found, validated, rfl⟩ :=
      exists_item_of_itemReports each (Parts.mem_failures_collect.mp listed)
    obtain ⟨node, within, rfl⟩ := Failure.mem_nodes_nest.mp inside
    have sequence := checks value (checkChain_eq_accepted.mp passed).2
    refine (truthful item inner validated node within).nest ?_ ?_
    · rw [Nat.zero_add]
      exact Value.follow_singleton (Value.pick_index sequence parts found)
    · intro path place led
      rw [Nat.zero_add]
      exact .item chain member index path place led

/-- A map is right about its entries if the schemas of its keys are. -/
theorem isTruthful_map
    {keys : List Key}
    {style : KeyStyle}
    (checks : (map chain keys false style).ChecksKind)
    (truthful : ∀ key ∈ keys, ∀ value failure,
      key.type.validate value = .ok (.error failure) →
        ∀ node ∈ failure.nodes, node.IsTruthful key.type value)
    (failed : (map chain keys false style).validate value = .ok (.error failure))
    (inside : node ∈ failure.nodes) :
    node.IsTruthful (map chain keys false style) value := by
  rcases validate_map_eq_ok.mp failed with
    ⟨reported, stopped, same⟩ | ⟨passed, answered⟩
  · cases same
    exact isTruthful_of_checkChain (map chain keys false style) stopped inside
  · obtain ⟨data, reports, read, each, whole⟩ := keysOutcome_eq_ok.mp answered
    cases read
    obtain rfl := Parts.outcome_collect_eq_error whole.symm
    obtain ⟨reported, listed, inside⟩ := Failure.mem_listNodes.mp inside
    have among : some (.error reported) ∈ reports := by
      simpa using Parts.mem_failures_collect.mp listed
    obtain ⟨key, member, report⟩ := Attempt.exists_item_of_mem each among
    obtain ⟨entries, rfl⟩ :=
      Value.exists_map_of_admits (checks value (checkChain_eq_accepted.mp passed).2)
    rcases Key.report_eq_failed.mp report with
      ⟨absent, required, rfl⟩ | ⟨part, inner, found, validated, rfl⟩
    · obtain rfl : node = .missing [key.name] := by
        simpa [Failure.nodes] using inside
      exact ⟨[], key, entries, _, rfl, rfl, Value.has_eq_false_of_entry? absent, .here _,
        member, required⟩
    · obtain ⟨node, within, rfl⟩ := Failure.mem_nodes_nest.mp inside
      refine (truthful key member part inner validated node within).nest ?_ ?_
      · exact Value.follow_singleton (Value.pick_eq_of_entry? found)
      · intro path place led
        exact .entry chain keys false style key member path place led

/-- A union is right about a value if its sides are. -/
theorem isTruthful_union
    {left right : Schema}
    {options : Options}
    (leftTruthful : ∀ value failure, left.validate value = .ok (.error failure) →
      ∀ node ∈ failure.nodes, node.IsTruthful left value)
    (rightTruthful : ∀ value failure, right.validate value = .ok (.error failure) →
      ∀ node ∈ failure.nodes, node.IsTruthful right value)
    (failed : (union left right options).validate value = .ok (.error failure))
    (inside : node ∈ failure.nodes) :
    node.IsTruthful (union left right options) value := by
  have onLeft := fun path place led => Leads.left left right options path place led
  have onRight := fun path place led => Leads.right left right options path place led
  rcases validate_union_eq_ok.mp failed with
    ⟨accepted, -, same⟩ | ⟨first, firstFailed, ⟨-, same⟩ | ⟨-, second⟩⟩
  · cases same
  · obtain rfl : failure = first := Except.error.inj same
    exact (leftTruthful value failure firstFailed node inside).outer onLeft
  · rcases second with ⟨accepted, -, same⟩ | ⟨other, secondFailed, same⟩
    · cases same
    · cases same
      simp only [Failure.nodes, List.mem_cons, List.mem_append] at inside
      rcases inside with rfl | inside | inside
      · exact ⟨value, left, right, first, other, rfl, .here _, firstFailed,
          (Failure.nest_nil first).symm, secondFailed, (Failure.nest_nil other).symm⟩
      · exact (leftTruthful value first firstFailed node inside).outer onLeft
      · exact (rightTruthful value other secondFailed node inside).outer onRight

end Steps

/-- Every node of a failure is right about the value that failed, if the lists and
maps of the schema accept only values with parts. -/
theorem isTruthful_of_validate
    (schema : Schema)
    (checks : ∀ node ∈ schema.nodes, node.ChecksKind)
    (direct : ∀ node ∈ schema.nodes, node.IsDirect)
    (value : Value)
    (failure : Failure)
    (failed : schema.validate value = .ok (.error failure)) :
    ∀ node ∈ failure.nodes, node.IsTruthful schema value := by
  induction schema generalizing value failure with
  | primitive tag chain =>
      intro node inside
      exact isTruthful_of_checkChain (primitive tag chain) failed inside
  | list chain member hypothesis =>
      intro node inside
      rw [forall_nodes_list] at checks direct
      exact isTruthful_list checks.1 (hypothesis checks.2 direct.2) failed inside
  | map chain keys atomize style hypothesis =>
      intro node inside
      rw [forall_nodes_map] at checks direct
      obtain rfl : atomize = false := direct.1
      refine isTruthful_map checks.1 (fun key member => ?_) failed inside
      exact hypothesis key member (checks.2 key member) (direct.2 key member)
  | union left right options leftHypothesis rightHypothesis =>
      intro node inside
      rw [forall_nodes_union] at checks direct
      exact isTruthful_union (leftHypothesis checks.2.1 direct.2.1)
        (rightHypothesis checks.2.2 direct.2.2) failed inside
  | cast input output caster options _ _ => exact (direct _ (mem_nodes_self _)).elim
  | custom type => exact (direct _ (mem_nodes_self _)).elim

/-- Constrained schemas check no less than before. -/
theorem checksKind_of_constrain
    {schema constrained : Schema}
    {extra : List Predicate}
    (checks : ∀ node ∈ schema.nodes, node.ChecksKind)
    (made : schema.constrain extra = .ok constrained) :
    ∀ node ∈ constrained.nodes, node.ChecksKind := by
  induction schema generalizing constrained with
  | primitive tag chain =>
      cases made
      simp [nodes, ChecksKind]
  | list chain member _ =>
      cases made
      rw [forall_nodes_list] at checks ⊢
      refine ⟨fun value held => checks.1 value fun predicate member => ?_, checks.2⟩
      exact held predicate (List.mem_append_left extra member)
  | map chain keys atomize style _ =>
      cases made
      rw [forall_nodes_map] at checks ⊢
      refine ⟨fun value held => checks.1 value fun predicate member => ?_, checks.2⟩
      exact held predicate (List.mem_append_left extra member)
  | union left right options leftHypothesis rightHypothesis =>
      obtain ⟨first, second, leftMade, rightMade, rfl⟩ := constrain_union_eq_ok.mp made
      rw [forall_nodes_union] at checks ⊢
      exact ⟨trivial, leftHypothesis checks.2.1 leftMade, rightHypothesis checks.2.2 rightMade⟩
  | cast input output caster options _ outputHypothesis =>
      obtain ⟨second, outputMade, rfl⟩ := constrain_cast_eq_ok.mp made
      rw [forall_nodes_cast] at checks ⊢
      exact ⟨trivial, checks.2.1, outputHypothesis checks.2.2 outputMade⟩
  | custom type =>
      rcases constrain_custom_eq_ok.mp made with ⟨-, rfl⟩ | ⟨-, other, -, rfl⟩ <;>
        simp [nodes, ChecksKind]

/-- A compiler with a registry that checks kinds makes only lists and maps that do. -/
theorem keeps_checksKind
    {compiler : Compiler}
    (kinds : compiler.predicates.ChecksKinds) :
    compiler.Keeps fun schema => ∀ node ∈ schema.nodes, node.ChecksKind where
  primitive tag isType extra _ := by simp [nodes, ChecksKind]
  list isType extra member checked memberChecks := by
    rw [forall_nodes_list]
    refine ⟨fun value held => ?_, memberChecks⟩
    exact kinds .list (by simp) isType value checked (held isType List.mem_cons_self)
  map isType extra keys atomize style checked _ keysCheck := by
    rw [forall_nodes_map]
    refine ⟨fun value held => ?_, keysCheck⟩
    exact kinds .map (by simp) isType value checked (held isType List.mem_cons_self)
  union left right options leftChecks rightChecks := by
    rw [forall_nodes_union]
    exact ⟨trivial, leftChecks, rightChecks⟩
  cast input output caster options inputChecks outputChecks := by
    rw [forall_nodes_cast]
    exact ⟨trivial, inputChecks, outputChecks⟩
  constrain _ _ _ checks made := checksKind_of_constrain checks made

/-- The failures of compiled schemas point at what they are about. -/
theorem isTruthful_of_isCompiled
    (schema : Schema)
    (compiled : schema.IsCompiled PredicateRegistry.ChecksKinds)
    (direct : ∀ node ∈ schema.nodes, node.IsDirect)
    (value : Value)
    (failure : Failure)
    (failed : schema.validate value = .ok (.error failure)) :
    ∀ node ∈ failure.nodes, node.IsTruthful schema value := by
  have checks := compiled.holds
    (fun _ kinds => keeps_checksKind kinds)
    (fun _ _ _ held made => checksKind_of_constrain held made)
  exact isTruthful_of_validate schema checks direct value failure failed

/-- An identifier, and rows of positive numbers with gaps. -/
def invoiceSpec : Spec :=
  .map
    [(.text "id", .text "string"),
    (.text "rows",
      .tuple
        [.text "list",
        .list
          [.tuple
            [.text "type", .text "integer", .list [.tuple [.text "gt?", .scalar (.int 0)]]],
          .text "none"]])]

/-- What is compiled from `invoiceSpec`. -/
def invoice : Schema :=
  .map [.typeCheck .map]
    [.mk [] (.text "id") .required (.primitive .string [.typeCheck .string]) false,
    .mk [] (.text "rows") .required
      (.list [.typeCheck .list]
        (.union
          (.primitive .integer [.typeCheck .integer, .aboveCheck 0])
          (.primitive .none [.typeCheck .none]) []))
      false]
    false .camel

/-- Rows with a text and a negative number in them, and no identifier. -/
def brokenInvoice : Value :=
  .map [(.text "rows", .tuple [.int 5, .text "x", .int (-1)])]

theorem compile_invoice : Compiler.standard.compile invoiceSpec .none = .ok invoice := by
  simp [invoiceSpec, Compiler.compile, Compiler.compileSpec, Compiler.compileMap,
    Compiler.compileKeys, Compiler.compileEntry, Compiler.compileName,
    Compiler.compileAlternatives, Compiler.declaredKey]
  rfl

theorem isTruthful_of_isCompiled_invoice :
    (Failure.missing [.text "id"]).IsTruthful invoice brokenInvoice ∧
      (Failure.either [.text "rows", .int 1]
        (.predicate [.text "rows", .int 1] "type?" [.text "integer", .text "x"] (.text "x"))
        (.predicate [.text "rows", .int 1] "type?" [.text "none", .text "x"] (.text "x"))
        []).IsTruthful invoice brokenInvoice ∧
      (Failure.predicate [.text "rows", .int 2] "gt?" [.int 0, .int (-1)]
        (.int (-1))).IsTruthful invoice brokenInvoice := by
  have compiled : invoice.IsCompiled PredicateRegistry.ChecksKinds := by
    refine .compile .standard invoiceSpec .none invoice ?_ ?_ ?_ compile_invoice
    · exact PredicateRegistry.checksKinds_standard
    · simp [Compiler.standard, TypeRegistry.standard, TypeRegistry.numberDefinition,
        Spec.embedded, Spec.listEmbedded, Spec.entriesEmbedded]
    · simp [invoiceSpec, Spec.embedded, Spec.listEmbedded, Spec.entriesEmbedded]
  have direct : ∀ node ∈ invoice.nodes, node.IsDirect := by
    simp [invoice, nodes, keyNodes, IsDirect]
  have truthful := isTruthful_of_isCompiled invoice compiled direct brokenInvoice
    (.several
      [.missing [.text "id"],
      .several
        [.either [.text "rows", .int 1]
          (.predicate [.text "rows", .int 1] "type?" [.text "integer", .text "x"] (.text "x"))
          (.predicate [.text "rows", .int 1] "type?" [.text "none", .text "x"] (.text "x"))
          [],
        .predicate [.text "rows", .int 2] "gt?" [.int 0, .int (-1)] (.int (-1))]])
    rfl
  simp only [Failure.nodes, Failure.listNodes, List.cons_append, List.nil_append,
    List.append_nil, List.forall_mem_cons] at truthful
  exact ⟨truthful.1, truthful.2.1, truthful.2.2.2.2.1⟩

/-- A list of values that are not empty, where everything passes the type check. -/
def lenientList : Schema :=
  .list [.blindCheck true .list]
    (.primitive .any
      [.blindCheck true .any, .filledCheck])

/-- If maps pass as lists, their keys are examined as items, and the indices at which
they are reported lead nowhere. -/
theorem lenient_points_astray :
    (Compiler.blind true).compile
        (.tuple [.text "list", .tuple [.text "type", .text "any", .list [.text "filled?"]]])
        .none = .ok lenientList ∧
      (∀ node ∈ lenientList.nodes, node.IsDirect) ∧
      lenientList.validate (.map [(.text "", .int 1)]) =
        .ok (.error (.several [.predicate [.int 0] "filled?" [.text ""] (.text "")])) ∧
      (Value.map [(.text "", .int 1)]).follow [.int 0] ≠ .ok (.text "") := by
  refine ⟨?_, ?_, rfl, ?_⟩
  · simp [Compiler.compile, Compiler.compileSpec, Compiler.compileName]
    rfl
  · simp [lenientList, nodes, IsDirect]
  · intro reached
    cases reached

end Schema
end DataContract
