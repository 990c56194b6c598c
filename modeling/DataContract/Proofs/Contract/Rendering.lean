import DataContract.Proofs.Contract.Agreement
import DataContract.Proofs.Report.Wording
import DataContract.Proofs.Rule
import DataContract.Proofs.Schema.Recognition
import DataContract.Proofs.Schema.Reporting
import DataContract.Proofs.Spec.Writing

/-!
# Failures that a contract can report

Predicates answer for arguments of any kind, and their failures carry the arguments along. A
report has to show them: it goes through the options of a membership test, looks up the name of
a union, and sorts its records by their paths. Where the predicates, the unions and the keys of
a schema lend themselves to this, whatever the schema rejects is reported, and a contract
answers with a report wherever it answers with a failure.
-/

namespace DataContract

/-- Whether records can have a segment in their paths and be sorted by it. -/
def Value.IsPlaceable (segment : Value) : Prop :=
  segment.isSegment = true ∧ segment.isSortable = true

theorem Value.isPlaceable_index (index : Nat) : (Value.int index).IsPlaceable :=
  ⟨rfl, rfl⟩

/-- Whether what a rule reports stands at paths that records can be sorted by. -/
def Rule.IsSortable (rule : Rule) : Prop :=
  ∀ value found path text, rule.apply value = .ok found → .rule path text ∈ found →
    ∀ segment ∈ path, segment.isSortable = true

namespace Schema

/-- Whether what a node reports itself can be told: its predicates by their names and arguments,
its keys by their names in paths, and a union by its name, if it has one. A custom schema must
report only what can be told. -/
def HasWords
    (wording : Wording)
    (node : Schema) : Prop :=
  (∀ predicate ∈ node.chain, wording.CanTell (.text predicate.name) predicate.args) ∧
    (∀ key ∈ node.keys, key.name.IsPlaceable) ∧
    match node with
    | .union _ _ options => ∀ name, unionName? options = some name → wording.CanTell name []
    | .custom type => ∀ value failure, type.now.validate value = .ok (.error failure) →
        failure.IsWorded wording Value.IsPlaceable
    | _ => True

section Told

variable {wording : Wording}

/-- Being told is passed on by lists and casts. -/
theorem isPassedOn_isWorded :
    Failure.IsPassedOn fun failure => failure.IsWorded wording Value.IsPlaceable where
  item index inner worded :=
    worded.nest (List.forall_mem_singleton.mpr (Value.isPlaceable_index index))
  several failures _ each := by
    rw [Failure.IsWorded, Failure.areWorded_iff]
    exact each
  cast inner worded := by
    rw [Failure.IsWorded]
    exact worded

/-- A node that can be told reports what can be told. -/
theorem reports_of_hasWords
    {node : Schema}
    (words : node.HasWords wording) :
    node.Reports fun failure => failure.IsWorded wording Value.IsPlaceable := by
  obtain ⟨predicates, keys, own⟩ := words
  constructor
  · intro predicate member value
    rw [Predicate.failure, Failure.IsWorded, List.dropLast_concat]
    exact ⟨by simp, predicates predicate member⟩
  · intro key member
    rw [Failure.IsWorded]
    exact List.forall_mem_singleton.mpr (keys key member)
  · exact fun key member inner worded =>
      worded.nest (List.forall_mem_singleton.mpr (keys key member))
  · rintro left right options rfl first second ofFirst ofSecond
    exact Failure.isWorded_either (by simp) own ofFirst ofSecond
  · rintro type rfl
    exact own

/-- What can be told is rendered, sorted or not. -/
theorem exists_render_of_isWorded
    {failure : Failure}
    (worded : failure.IsWorded wording Value.IsPlaceable)
    (sort : Bool) :
    ∃ found, render (.ofWording wording) [] sort failure = .ok found := by
  have nothing : ∀ segment ∈ ([] : Path), segment.IsPlaceable := by simp
  obtain ⟨emitted, made, placed⟩ :=
    exists_records_of_isWorded (fun _ placeable => placeable.1) nothing worded
  exact ⟨_, render_eq_ok.mpr ⟨emitted, made,
    fun _ record member segment inside => (placed record member segment inside).2, rfl⟩⟩

/-- Only what can be told is rendered, and all of it if it need not be sorted. -/
theorem exists_unsorted_iff
    (wording : Wording)
    (failure : Failure) :
    (∃ found, render (.ofWording wording) [] false failure = .ok found) ↔
      failure.IsWorded wording fun segment => segment.isSegment = true := by
  constructor
  · rintro ⟨found, rendered⟩
    obtain ⟨emitted, made, -⟩ := render_eq_ok.mp rendered
    exact isWorded_of_records made
  · intro worded
    have nothing : ∀ segment ∈ ([] : Path), segment.isSegment = true := by simp
    obtain ⟨emitted, made, -⟩ :=
      exists_records_of_isWorded (fun _ usable => usable) nothing worded
    refine ⟨emitted, render_eq_ok.mpr ⟨emitted, made, ?_, rfl⟩⟩
    rintro ⟨⟩

/-- What a contract rejects can be told if its schema has words and its rules report at paths
that can be sorted. -/
theorem isWorded_of_check
    {schema : Schema}
    {rules : List Rule}
    {value : Value}
    {failure : Failure}
    (words : ∀ node ∈ schema.nodes, node.HasWords wording)
    (sortable : ∀ rule ∈ rules, rule.IsSortable)
    (failed : check schema rules value = .ok (.error failure)) :
    failure.IsWorded wording Value.IsPlaceable := by
  rw [check] at failed
  obtain ⟨outcome, validated, failed⟩ := Attempt.bind_eq_ok.mp failed
  cases outcome with
  | error reported =>
      cases failed
      exact holds_of_validate_failed isPassedOn_isWorded
        (fun node member => reports_of_hasWords (words node member)) validated
  | ok valid =>
      obtain ⟨failures, applied, failed⟩ := Attempt.bind_eq_ok.mp failed
      split at failed
      · cases failed
      · cases failed
        rw [Failure.IsWorded, Failure.areWorded_iff]
        intro failure member
        obtain ⟨rule, present, own, told, inside⟩ :=
          exists_apply_of_mem_applyRules applied failure member
        obtain ⟨path, text, rfl, usable⟩ := rule.exists_rule_of_apply told failure inside
        rw [Failure.IsWorded]
        exact fun segment within => ⟨usable segment within,
          sortable rule present valid own path text told inside segment within⟩

end Told

/-- A failure is rendered, unsorted, if and only if everything that it reports can be told. A
schema with words has all its failures rendered; and if it is recognized and rules report at
paths that can be sorted, a contract reports on every value that it comes to an answer for. -/
theorem exists_render_of_validate
    (schema : Schema)
    (words : ∀ node ∈ schema.nodes, node.HasWords .english) :
    (∀ failure, (∃ found, render .default [] false failure = .ok found) ↔
      failure.IsWorded .english fun segment => segment.isSegment = true) ∧
    (∀ value failure, schema.validate value = .ok (.error failure) →
      ∀ sort, ∃ found, render .default [] sort failure = .ok found) ∧
    ∀ rules sort, schema.IsRecognized → (∀ rule ∈ rules, rule.IsSortable) →
      ∀ value outcome, Contract.validate ⟨schema, rules, .default, sort⟩ value = .ok outcome →
        ∃ reported, Contract.conform ⟨schema, rules, .default, sort⟩ value = .ok reported := by
  refine ⟨exists_unsorted_iff .english, fun value failure failed sort => ?_, ?_⟩
  · refine exists_render_of_isWorded ?_ sort
    exact holds_of_validate_failed isPassedOn_isWorded
      (fun node member => reports_of_hasWords (words node member)) failed
  · intro rules sort recognized sortable value outcome answered
    have shown : Contract.conform ⟨schema, rules, .default, sort⟩ value =
        conform schema rules .default sort value :=
      constraints_bind_of_isRecognized recognized _
    rw [shown]
    change check schema rules value = .ok outcome at answered
    cases outcome with
    | ok valid => exact ⟨_, conform_eq_ok.mpr (.inl ⟨valid, answered, rfl⟩)⟩
    | error failure =>
        obtain ⟨found, rendered⟩ :=
          exists_render_of_isWorded (isWorded_of_check words sortable answered) sort
        exact ⟨_, conform_eq_ok.mpr (.inr ⟨failure, found, answered, rendered, rfl⟩)⟩

/-- The size of a shirt. -/
def shirtSpec : Spec :=
  .map
    [(.text "size",
      .tuple
        [.text "type", .text "integer",
        .list [.tuple [.text "in?", .list [.scalar (.int 38), .scalar (.int 40)]]]])]

/-- The predicate of being among given options. -/
def among (options : Value) : Predicate :=
  ⟨"in?", [options], Predicate.binary fun options value => Predicate.isPart true options value⟩

/-- What is compiled from `shirtSpec`. -/
def shirt : Schema :=
  .map [.typeCheck .map]
    [.mk [] (.text "size") .required
      (.primitive .integer [.typeCheck .integer, among (.list [.int 38, .int 40])]) false]
    false .camel

theorem compile_shirt : Compiler.standard.compile shirtSpec .none = .ok shirt := by
  simp [shirtSpec, Compiler.compile, Compiler.compileSpec, Compiler.compileMap,
    Compiler.compileKeys, Compiler.compileEntry, Compiler.compileName, Compiler.declaredKey]
  rfl

/-- The type checks of all tags can be told in English. -/
theorem canTell_typeCheck (tag : Tag) :
    Wording.english.CanTell (.text (Predicate.typeCheck tag).name)
      (Predicate.typeCheck tag).args :=
  ⟨rfl, _, rfl, by simp [Predicate.typeCheck, Value.hasPlain, Value.isWritable]⟩

theorem exists_render_of_validate_shirt :
    Compiler.standard.compile shirtSpec .none = .ok shirt ∧
      ∃ reported, Contract.conform ⟨shirt, [], .default, true⟩
        (.map [(.text "size", .int 39)]) = .ok reported := by
  have options : Wording.english.CanTell (.text "in?") [.list [.int 38, .int 40]] := by
    refine ⟨rfl, [.int 38, .int 40], rfl, ?_⟩
    rw [List.forall_mem_cons, List.forall_mem_singleton]
    exact ⟨Value.isWritable_of_small (by decide), Value.isWritable_of_small (by decide)⟩
  have words : ∀ node ∈ shirt.nodes, node.HasWords .english := by
    have placeable : (Value.text "size").IsPlaceable := ⟨rfl, rfl⟩
    simp [shirt, nodes, keyNodes, HasWords, chain, keys, among, canTell_typeCheck, options,
      placeable]
  refine ⟨compile_shirt, ?_⟩
  obtain ⟨-, -, conforms⟩ := exists_render_of_validate shirt words
  exact conforms [] true trivial (by simp) _ _ rfl

/-- Numbers among five. -/
def amongFive : Schema :=
  .primitive .any [.typeCheck .any, among (.int 5)]

/-- A membership test whose options cannot be gone through does not hold of any value, and its
failure cannot be rendered. -/
theorem amongFive_cannot_be_rendered :
    Compiler.standard.compile
        (.tuple
          [.text "type", .text "any",
          .list [.tuple [.text "in?", .scalar (.int 5)]]]) .none = .ok amongFive ∧
      amongFive.validate (.int 1) =
        .ok (.error (.predicate [] "in?" [.int 5, .int 1] (.int 1))) ∧
      render .default [] true (.predicate [] "in?" [.int 5, .int 1] (.int 1)) =
        .error .wrongKind ∧
      Contract.validate ⟨amongFive, [], .default, true⟩ (.int 1) =
        .ok (.error (.predicate [] "in?" [.int 5, .int 1] (.int 1))) ∧
      Contract.conform ⟨amongFive, [], .default, true⟩ (.int 1) = .error .wrongKind := by
  refine ⟨?_, rfl, rfl, rfl, rfl⟩
  simp [Compiler.compile, Compiler.compileSpec, Compiler.compileName]
  rfl

end Schema
end DataContract
