import DataContract.Proofs.Failure.Leaf
import DataContract.Proofs.Fault
import DataContract.Proofs.Schema.ErrorPath
import DataContract.Proofs.Schema.Reporting
import DataContract.Proofs.Schema.TypeCheck
import DataContract.Proofs.Value.Lookup

/-!
# Violations

A value can be held against a schema of primitives, lists and maps by walking through both at
once. At every place the first predicate of the node's own chain that does not hold is a
violation, and nothing below it counts; where the chain holds, each required key without an entry
is one, and the violations of all members and entries follow, in the order of the indices and of
the declaration.

Validation reports exactly these violations at the leaves of its failure, none twice and none left
out, and accepts a value if there are none. It answers unless one of the predicates that the walk
comes to raises a fault.
-/

namespace DataContract

/-- The failure of the first predicate of a chain that does not hold of a value. -/
def firstFailure? (chain : List Predicate) (value : Value) : Option Failure :=
  (chain.find? fun predicate => (predicate.holds value) matches .ok false).map
    (·.failure value)

/-- The entries of a map; no other value has any. -/
def Value.mapEntries : Value → Entries
  | .map entries => entries
  | _ => []

/-- What the tag of lists admits has items. -/
theorem Value.exists_items_of_admits
    {value : Value}
    (admitted : Tag.list.admits value = true) :
    ∃ items, value.items? = some items := by
  cases value with
  | list items => exact ⟨items, rfl⟩
  | tuple items => exact ⟨items, rfl⟩
  | _ => simp [Tag.admits] at admitted

/-- The violations of several items, which stand at indices from `start` on. -/
def itemViolations
    (violations : Value → List Failure)
    (start : Nat)
    (items : List Value) : List Failure :=
  (items.zipIdx start).flatMap fun part =>
    (violations part.1).map (Failure.nest [.int part.2])

mutual

/-- The violations of a schema of primitives, lists and maps that are found by walking through
the schema and a value. -/
def Schema.violations : Schema → Value → List Failure
  | .primitive _ chain, value => (firstFailure? chain value).toList
  | .list chain member, value =>
      match firstFailure? chain value with
      | some failure => [failure]
      | none => itemViolations member.violations 0 (value.items?.getD [])
  | .map chain keys _ _, value =>
      match firstFailure? chain value with
      | some failure => [failure]
      | none => keyViolations keys value.mapEntries
  | _, _ => []

/-- The violations of keys by entries: of each key the absence of a required entry, or the
violations of its schema by the entry. -/
def keyViolations : List Key → Entries → List Failure
  | [], _ => []
  | .mk _ name presence type _ :: rest, entries =>
      (match entries.get? name with
        | some value => (type.violations value).map (Failure.nest [name])
        | none =>
            match presence with
            | .required => [.missing [name]]
            | .optional => []) ++ keyViolations rest entries

end

namespace Schema

/-- Whether a predicate that the walk through a schema and a value comes to raises a fault. -/
inductive Raises (fault : Fault) : Schema → Value → Prop
  | predicate
      (schema : Schema)
      (value : Value)
      (before : List Predicate)
      (single : Predicate)
      (after : List Predicate)
      (split : schema.chain = before ++ single :: after)
      (earlier : ∀ predicate ∈ before, predicate.holds value = .ok true)
      (stops : single.holds value = .error fault) :
      Raises fault schema value
  | item
      (chain : List Predicate)
      (member : Schema)
      (value : Value)
      (items : List Value)
      (item : Value)
      (passed : ∀ predicate ∈ chain, predicate.holds value = .ok true)
      (parts : value.items? = some items)
      (inside : item ∈ items)
      (raises : Raises fault member item) :
      Raises fault (.list chain member) value
  | entry
      (chain : List Predicate)
      (keys : List Key)
      (atomize : Bool)
      (style : KeyStyle)
      (value : Value)
      (key : Key)
      (part : Value)
      (passed : ∀ predicate ∈ chain, predicate.holds value = .ok true)
      (declared : key ∈ keys)
      (found : value.mapEntries.get? key.name = some part)
      (raises : Raises fault key.type part) :
      Raises fault (.map chain keys atomize style) value

/-- Whether a node can be walked through: a primitive, a list, or a map that does not rename its
keys, whose names can be keys of maps. -/
def IsWalked : Schema → Prop
  | .primitive .. => True
  | .list .. => True
  | .map _ keys atomize _ => atomize = false ∧ ∀ key ∈ keys, key.name.isKey = true
  | _ => False

end Schema

/-- The leaves of what a part reports; an accepted part has none. -/
def reportLeaves {α : Type} : Except Failure α → List Failure
  | .ok _ => []
  | .error failure => failure.leaves

section Leaves

theorem reportLeaves_nest
    (front : Path)
    (outcome : Outcome) :
    reportLeaves (outcome.nest front) = (reportLeaves outcome).map (Failure.nest front) := by
  cases outcome with
  | ok output => rfl
  | error failure => exact Failure.leaves_nest front failure

theorem reportLeaves_map
    {α β : Type}
    (change : α → β)
    (report : Except Failure α) :
    reportLeaves (report.map change) = reportLeaves report := by
  cases report <;> rfl

/-- What is collected has the leaves of the reports, one after another. -/
theorem reportLeaves_outcome_collect
    {α : Type}
    (reports : List (Except Failure α))
    (whole : List α → Value) :
    reportLeaves ((Parts.collect reports).outcome whole) = reports.flatMap reportLeaves := by
  have listed : (Parts.collect reports).failures.flatMap Failure.leaves =
      reports.flatMap reportLeaves := by
    induction reports with
    | nil => rfl
    | cons report rest hypothesis =>
        cases report with
        | ok part => simpa [Parts.cons, reportLeaves] using hypothesis
        | error failure => simp [Parts.cons, reportLeaves, hypothesis]
  rw [← listed, Parts.outcome]
  split
  · rename_i none
    rw [List.isEmpty_iff.mp none]
    rfl
  · rw [reportLeaves, Failure.leaves, Failure.leavesOfAll_eq_flatMap]

/-- Having a leaf is passed on. -/
theorem Failure.isPassedOn_leaves_ne_nil : IsPassedOn fun failure => failure.leaves ≠ [] where
  item index inner present := by rwa [leaves_nest, ne_eq, List.map_eq_nil_iff]
  several failures some each := by
    obtain ⟨inner, member⟩ := List.exists_mem_of_ne_nil _ some
    rw [leaves, leavesOfAll_eq_flatMap, ne_eq, List.flatMap_eq_nil_iff]
    exact fun none => each inner member (none inner member)
  cast inner present := by rwa [leaves]

end Leaves

section Chains

variable
  {chain : List Predicate}
  {value : Value}

/-- A chain that fails reports the failure of its first predicate that does not hold. -/
theorem firstFailure?_of_failed
    {failure : Failure}
    (failed : checkChain chain value = .ok (.error failure)) :
    firstFailure? chain value = some failure := by
  obtain ⟨before, predicate, after, rfl, earlier, fails, rfl⟩ :=
    exists_of_checkChain_failed failed
  have skipped : before.find? (fun predicate => (predicate.holds value) matches .ok false) =
      none := by
    rw [List.find?_eq_none]
    intro single member
    simp [earlier single member]
  simp [firstFailure?, List.find?_append, skipped, fails]

/-- In a chain that holds there is no predicate that does not hold. -/
theorem firstFailure?_of_passed
    (passed : checkChain chain value = .ok (.ok value)) :
    firstFailure? chain value = none := by
  have holds := (checkChain_eq_accepted.mp passed).2
  rw [firstFailure?, Option.map_eq_none_iff, List.find?_eq_none]
  intro predicate member
  simp [holds predicate member]

/-- A chain that fails has its one failure at a leaf. -/
theorem leaves_of_checkChain
    {failure : Failure}
    (failed : checkChain chain value = .ok (.error failure)) :
    failure.leaves = [failure] := by
  obtain ⟨_, _, _, -, -, -, rfl⟩ := exists_of_checkChain_failed failed
  rfl

/-- A chain that stops does so at a predicate that raises a fault after all others before it
held. -/
theorem exists_of_checkChain_fault
    {fault : Fault}
    (stopped : checkChain chain value = .error fault) :
    ∃ before predicate after, chain = before ++ predicate :: after ∧
      (∀ earlier ∈ before, earlier.holds value = .ok true) ∧
      predicate.holds value = .error fault := by
  induction chain with
  | nil => cases stopped
  | cons first rest hypothesis =>
      cases held : first.holds value with
      | error other =>
          rw [checkChain_cons_of_fault held] at stopped
          cases stopped
          exact ⟨[], first, rest, rfl, by simp, held⟩
      | ok truth =>
          cases truth with
          | false =>
              rw [checkChain_cons_of_not_holds held] at stopped
              cases stopped
          | true =>
              rw [checkChain_cons_of_holds held] at stopped
              obtain ⟨before, predicate, after, rfl, earlier, stops⟩ := hypothesis stopped
              exact ⟨first :: before, predicate, after, rfl,
                List.forall_mem_cons.mpr ⟨held, earlier⟩, stops⟩

end Chains

namespace Schema

section Steps

variable
  {chain : List Predicate}
  {value : Value}

/-- The items of a list have the violations that are reported for them. -/
theorem leaves_itemReports
    {member : Schema}
    {start : Nat}
    {items : List Value}
    {outcomes : List Outcome}
    (each : List.Forall₂ (fun item outcome => member.validate item = .ok outcome) items outcomes)
    (exact : ∀ value outcome, member.validate value = .ok outcome →
      reportLeaves outcome = member.violations value) :
    (itemReports start outcomes).flatMap reportLeaves =
      itemViolations member.violations start items := by
  induction each generalizing start with
  | nil => rfl
  | @cons item outcome items outcomes validated _ hypothesis =>
      rw [itemReports, List.flatMap_cons, hypothesis, reportLeaves_nest,
        exact item outcome validated, itemViolations, itemViolations, List.zipIdx_cons,
        List.flatMap_cons]

/-- The keys of a map have the violations that they report. -/
theorem leaves_reports
    {keys : List Key}
    {entries : Entries}
    {reports : List (Option (Except Failure (Value × Value)))}
    (reported : List.Forall₂ (fun key report => key.report (.map entries) = .ok report)
      keys reports)
    (usable : ∀ key ∈ keys, key.name.isKey = true)
    (exact : ∀ key ∈ keys, ∀ value outcome, key.type.validate value = .ok outcome →
      reportLeaves outcome = key.type.violations value) :
    (reports.filterMap id).flatMap reportLeaves = keyViolations keys entries := by
  induction reported with
  | nil => rfl
  | @cons key report keys reports told _ hypothesis =>
      rw [List.forall_mem_cons] at usable exact
      have later := hypothesis usable.2 exact.2
      rw [Key.report, Value.entry?_map usable.1, Attempt.ok_bind] at told
      obtain ⟨around, name, presence, type, inline⟩ := key
      simp only [keyViolations, ← later]
      simp only [Key.name_mk, Key.presence_mk, Key.type_mk] at told exact
      cases found : Entries.get? entries name with
      | none =>
          rw [found] at told
          cases presence with
          | required =>
              cases told
              rfl
          | optional =>
              cases told
              rfl
      | some part =>
          rw [found] at told
          obtain ⟨outcome, validated, same⟩ := Attempt.bind_eq_ok.mp told
          cases same
          simp only [List.filterMap_cons, id_eq, List.flatMap_cons, reportLeaves_map,
            reportLeaves_nest, exact.1 part outcome validated]

end Steps

section Walk

variable {schema : Schema}

/-- The leaves of what validation answers are the violations that the walk finds. -/
theorem leaves_of_validate
    (checks : ∀ node ∈ schema.nodes, node.ChecksKind)
    (walked : ∀ node ∈ schema.nodes, node.IsWalked)
    (value : Value)
    (outcome : Outcome)
    (validated : schema.validate value = .ok outcome) :
    reportLeaves outcome = schema.violations value := by
  induction schema generalizing value outcome with
  | primitive tag chain =>
      rw [violations]
      cases outcome with
      | ok output =>
          obtain rfl := eq_of_checkChain validated
          rw [firstFailure?_of_passed validated]
          rfl
      | error failure =>
          rw [firstFailure?_of_failed validated]
          exact leaves_of_checkChain validated
  | list chain member hypothesis =>
      rw [forall_nodes_list] at checks walked
      rw [violations]
      rcases validate_list_eq_ok.mp validated with
        ⟨failure, failed, rfl⟩ | ⟨passed, items, outcomes, parts, each, rfl⟩
      · rw [firstFailure?_of_failed failed]
        exact leaves_of_checkChain failed
      · rw [firstFailure?_of_passed passed, parts, reportLeaves_outcome_collect]
        exact leaves_itemReports each (hypothesis checks.2 walked.2)
  | map chain keys atomize style hypothesis =>
      rw [forall_nodes_map] at checks walked
      obtain ⟨⟨rfl, usable⟩, keysWalked⟩ := walked
      rw [violations]
      rcases validate_map_eq_ok.mp validated with ⟨failure, failed, rfl⟩ | ⟨passed, answered⟩
      · rw [firstFailure?_of_failed failed]
        exact leaves_of_checkChain failed
      · obtain ⟨entries, rfl⟩ :=
          Value.exists_map_of_admits (checks.1 value (checkChain_eq_accepted.mp passed).2)
        obtain ⟨data, reports, read, each, rfl⟩ := keysOutcome_eq_ok.mp answered
        cases read
        rw [firstFailure?_of_passed passed, reportLeaves_outcome_collect]
        exact leaves_reports each usable fun key member =>
          hypothesis key member (checks.2 key member) (keysWalked key member)
  | union left right options _ _ => exact (walked _ (mem_nodes_self _)).elim
  | cast input output caster options _ _ => exact (walked _ (mem_nodes_self _)).elim
  | custom type => exact (walked _ (mem_nodes_self _)).elim

/-- A failure of validation has a leaf. -/
theorem leaves_ne_nil_of_validate
    (walked : ∀ node ∈ schema.nodes, node.IsWalked)
    {value : Value}
    {failure : Failure}
    (failed : schema.validate value = .ok (.error failure)) :
    failure.leaves ≠ [] := by
  refine holds_of_validate_failed Failure.isPassedOn_leaves_ne_nil (fun node member => ?_) failed
  constructor
  · simp [Predicate.failure, Failure.leaves]
  · simp [Failure.leaves]
  · intro key _ inner present
    rwa [Failure.leaves_nest, ne_eq, List.map_eq_nil_iff]
  · rintro left right options rfl
    exact (walked _ member).elim
  · rintro type rfl
    exact (walked _ member).elim

/-- A key stops with a fault that its entry raises. -/
theorem report_stopsOnlyWith
    {key : Key}
    {entries : Entries}
    {kind : Fault → Prop}
    (usable : key.name.isKey = true)
    (stops : ∀ part, entries.get? key.name = some part →
      Attempt.StopsOnlyWith kind (key.type.validate part)) :
    Attempt.StopsOnlyWith kind (key.report (.map entries)) := by
  rw [Key.report, Value.entry?_map usable, Attempt.ok_bind]
  cases found : entries.get? key.name with
  | none => cases key.presence <;> exact .ok _
  | some part => exact .bind (stops part found) fun outcome _ => .ok _

/-- Validation stops only with a fault that is raised by a predicate to which the walk comes. -/
theorem raises_of_validate
    (checks : ∀ node ∈ schema.nodes, node.ChecksKind)
    (walked : ∀ node ∈ schema.nodes, node.IsWalked)
    (value : Value) :
    Attempt.StopsOnlyWith (fun fault => schema.Raises fault value) (schema.validate value) := by
  have ofChain (schema : Schema) (value : Value) :
      Attempt.StopsOnlyWith (fun fault => schema.Raises fault value)
        (checkChain schema.chain value) := by
    intro fault stopped
    obtain ⟨before, single, after, split, earlier, stops⟩ := exists_of_checkChain_fault stopped
    exact .predicate schema value before single after split earlier stops
  induction schema generalizing value with
  | primitive tag chain => exact ofChain (primitive tag chain) value
  | list chain member hypothesis =>
      rw [forall_nodes_list] at checks walked
      rw [validate]
      refine .bind (ofChain (list chain member) value) fun answer checked => ?_
      cases answer with
      | error failure => exact .ok _
      | ok accepted =>
          obtain rfl := eq_of_checkChain checked
          have passed := (checkChain_eq_accepted.mp checked).2
          obtain ⟨items, parts⟩ := Value.exists_items_of_admits (checks.1 _ passed)
          simp only [parts, validateItems_eq]
          refine .bind (.bind (.mapM fun item inside => ?_) fun _ _ => .ok _) fun _ _ => .ok _
          exact (hypothesis checks.2 walked.2 item).mono fun fault raises =>
            .item chain member _ items item passed parts inside raises
  | map chain keys atomize style hypothesis =>
      rw [forall_nodes_map] at checks walked
      obtain ⟨⟨rfl, usable⟩, keysWalked⟩ := walked
      rw [validate]
      refine .bind (ofChain (map chain keys false style) value) fun answer checked => ?_
      cases answer with
      | error failure => exact .ok _
      | ok accepted =>
          obtain rfl := eq_of_checkChain checked
          have passed := (checkChain_eq_accepted.mp checked).2
          obtain ⟨entries, rfl⟩ := Value.exists_map_of_admits (checks.1 _ passed)
          simp only [Bool.false_eq_true, if_false, Attempt.ok_bind, validateKeys_eq]
          refine .bind (.bind (.mapM fun key member => ?_) fun _ _ => .ok _) fun _ _ => .ok _
          refine report_stopsOnlyWith (usable key member) fun part found => ?_
          exact (hypothesis key member (checks.2 key member) (keysWalked key member) part).mono
            fun fault raises => .entry chain keys false style _ key part passed member found raises
  | union left right options _ _ => exact (walked _ (mem_nodes_self _)).elim
  | cast input output caster options _ _ => exact (walked _ (mem_nodes_self _)).elim
  | custom type => exact (walked _ (mem_nodes_self _)).elim

/-- No predicate raises a fault if each of them answers for every value. -/
theorem not_raises_of_answers
    (answers : ∀ node ∈ schema.nodes, ∀ predicate ∈ node.chain, ∀ value,
      ∃ truth, predicate.holds value = .ok truth)
    (value : Value)
    (fault : Fault) :
    ¬ schema.Raises fault value := by
  intro raises
  induction raises with
  | predicate schema value before single after split _ stops =>
      obtain ⟨truth, answered⟩ :=
        answers schema (mem_nodes_self schema) single (by simp [split]) value
      rw [answered] at stops
      cases stops
  | item chain member value items item _ _ _ _ hypothesis =>
      rw [forall_nodes_list] at answers
      exact hypothesis answers.2
  | entry chain keys atomize style value key part _ declared _ _ hypothesis =>
      rw [forall_nodes_map] at answers
      exact hypothesis (answers.2 key declared)

end Walk

/-- Where no predicate raises a fault, validation answers, and the leaves of its failure are the
violations of the schema by the value, in the order of the walk; it accepts the value exactly if
there are none. -/
theorem leaves_eq_violations
    (schema : Schema)
    (compiled : schema.IsCompiled PredicateRegistry.ChecksKinds)
    (walked : ∀ node ∈ schema.nodes, node.IsWalked)
    (value : Value)
    (quiet : ∀ fault, ¬ schema.Raises fault value) :
    ∃ outcome, schema.validate value = .ok outcome ∧
      reportLeaves outcome = schema.violations value ∧
      ((∃ output, outcome = .ok output) ↔ schema.violations value = []) := by
  have checks := compiled.holds
    (fun _ kinds => keeps_checksKind kinds)
    (fun _ _ _ held made => checksKind_of_constrain held made)
  cases validated : schema.validate value with
  | error fault =>
      exact absurd (raises_of_validate checks walked value fault validated) (quiet fault)
  | ok outcome =>
      have found := leaves_of_validate checks walked value outcome validated
      refine ⟨outcome, rfl, found, ?_⟩
      rw [← found]
      cases outcome with
      | ok output => simp [reportLeaves]
      | error failure => simpa [reportLeaves] using leaves_ne_nil_of_validate walked validated

/-- A text, an optional note, and a list of even numbers, of which there must be some. -/
def tallySpec : Spec :=
  .map
    [(.text "owner", .text "string"),
    (.tuple [.text "optional", .text "note"],
      .tuple [.text "type", .text "string", .text "filled?"]),
    (.text "amounts",
      .tuple
        [.text "list", .tuple [.text "type", .text "integer", .text "even?"], .text "filled?"])]

/-- What is compiled from `tallySpec`. -/
def tally : Schema :=
  .map [.typeCheck .map]
    [.mk [] (.text "owner") .required (.primitive .string [.typeCheck .string]) false,
    .mk [] (.text "note") .optional
      (.primitive .string [.typeCheck .string, .filledCheck]) false,
    .mk [] (.text "amounts") .required
      (.list [.typeCheck .list, .filledCheck]
        (.primitive .integer [.typeCheck .integer, .evenCheck])) false]
    false .camel

theorem compile_tally : Compiler.standard.compile tallySpec .none = .ok tally := by
  simp [tallySpec, Compiler.compile, Compiler.compileSpec, Compiler.compileMap,
    Compiler.compileKeys, Compiler.compileEntry, Compiler.compileName, Compiler.declaredKey]
  rfl

/-- A tally without an owner, with an empty note, an odd amount and an amount that is no
number. -/
def brokenTally : Value :=
  .map [(.text "amounts", .tuple [.int 3, .text "x", .int 4]), (.text "note", .text "")]

theorem leaves_eq_violations_tally :
    tally.violations brokenTally =
        [.missing [.text "owner"],
        .predicate [.text "note"] "filled?" [.text ""] (.text ""),
        .predicate [.text "amounts", .int 0] "even?" [.int 3] (.int 3),
        .predicate [.text "amounts", .int 1] "type?" [.text "integer", .text "x"]
          (.text "x")] ∧
      ∃ outcome, tally.validate brokenTally = .ok outcome ∧
        reportLeaves outcome = tally.violations brokenTally ∧
        ((∃ output, outcome = .ok output) ↔ tally.violations brokenTally = []) := by
  have compiled : tally.IsCompiled PredicateRegistry.ChecksKinds :=
    isCompiled_of_standard PredicateRegistry.checksKinds_standard rfl compile_tally
  have walked : ∀ node ∈ tally.nodes, node.IsWalked := by
    simp [tally, nodes, keyNodes, IsWalked, Value.isKey]
  have answers : ∀ node ∈ tally.nodes, ∀ predicate ∈ node.chain, ∀ value,
      ∃ truth, predicate.holds value = .ok truth := by
    simp [tally, nodes, keyNodes, chain]
  exact ⟨rfl, leaves_eq_violations tally compiled walked brokenTally
    (not_raises_of_answers answers brokenTally)⟩

/-- A map with one key, where everything passes the type check. -/
def lenientRow : Schema :=
  .map [.blindCheck true .map]
    [.mk [] (.text "a") .required (.primitive .any [.blindCheck true .any]) false]
    false .camel

/-- If anything passes as a map, a number without the required entry is no violation that is
reported: validation stops, though no predicate raises a fault. -/
theorem lenient_row_stops :
    (Compiler.blind true).compile (.map [(.text "a", .text "any")]) .none = .ok lenientRow ∧
      (∀ node ∈ lenientRow.nodes, node.IsWalked) ∧
      (∀ fault, ¬ lenientRow.Raises fault (.int 5)) ∧
      lenientRow.violations (.int 5) = [.missing [.text "a"]] ∧
      lenientRow.validate (.int 5) = .error .wrongKind := by
  refine ⟨?_, ?_, ?_, rfl, rfl⟩
  · simp [Compiler.compile, Compiler.compileSpec, Compiler.compileMap, Compiler.compileKeys,
      Compiler.compileEntry, Compiler.compileName, Compiler.declaredKey]
    rfl
  · simp [lenientRow, nodes, keyNodes, IsWalked, Value.isKey]
  · refine not_raises_of_answers ?_ (.int 5)
    simp [lenientRow, nodes, keyNodes, chain]

end Schema
end DataContract
