import DataContract.Proofs.Report.Wording
import DataContract.Proofs.Schema.Mismatch

/-!
# Reports of unions

A predicate that fails at the root is reported in one record, and so is a union, whose text is
put together from the records of its sides. If the union has a name, its record is that of the
one side that failed a predicate after its type check, or else the text of the name.
-/

namespace DataContract

/-- A single record at the root, in the words of a backend. -/
def MessageBackend.report
    (backend : MessageBackend)
    (name : Value)
    (args : List Value)
    (input : Value)
    (details : Entries) : Attempt (List Record) :=
  (backend.text name args input).map fun text => [.mk .type [] text details false [] []]

/-- The report of a predicate that does not hold of a value. -/
def MessageBackend.reportPredicate
    (backend : MessageBackend)
    (predicate : Predicate)
    (value : Value) : Attempt (List Record) :=
  backend.report (.text predicate.name) (predicate.args ++ [value]) value
    (predicateDetails predicate.name (predicate.args ++ [value]))

/-- The report of a union under its name. -/
def MessageBackend.reportName
    (backend : MessageBackend)
    (name : Value) : Attempt (List Record) :=
  backend.report name [.null] .null [(.text "union", name)]

/-- The report of a union without a name, with the records of its sides. -/
def MessageBackend.reportSides
    (backend : MessageBackend)
    (left right : Failure) : Attempt (List Record) := do
  let left ← records backend [] left
  let right ← records backend [] right
  let text := joinSides (left.map Record.text) (right.map Record.text)
  .ok [.mk .union [] text [(.text "union", .bool true)] false left right]

/-- In English every text has a report as the name of a union. -/
theorem exists_reportName_default (name : String) :
    ∃ record, MessageBackend.default.reportName (.text name) = .ok [record] := by
  obtain ⟨text, told⟩ :=
    (Wording.english.exists_message_iff (.text name) [.null]).mpr
      (Wording.english.canTell_text_nil name)
  have worded : MessageBackend.default.text (.text name) [.null] .null = .ok text := told
  rw [MessageBackend.reportName, MessageBackend.report, worded]
  exact ⟨_, rfl⟩

section Root

variable
  {backend : MessageBackend}
  {sort : Bool}

/-- Records are rendered as they are if there is only one, at the root. -/
theorem render_eq_records
    {failure : Failure}
    (single : ∀ found, records backend [] failure = .ok found →
      ∃ record, found = [record] ∧ record.path = []) :
    render backend [] sort failure = records backend [] failure := by
  rw [render]
  cases reported : records backend [] failure with
  | error fault => rfl
  | ok found =>
      obtain ⟨record, rfl, root⟩ := single found reported
      cases sort with
      | false => rfl
      | true =>
          rw [Attempt.ok_bind]
          simp [root, sortRecords]

/-- A text that can be made is rendered as one record at the root. -/
theorem render_of_report
    {failure : Failure}
    {name input : Value}
    {args : List Value}
    {details : Entries}
    (reported : records backend [] failure = backend.report name args input details) :
    render backend [] sort failure = backend.report name args input details := by
  rw [render_eq_records, reported]
  intro found made
  rw [reported, MessageBackend.report, Attempt.map_eq_ok] at made
  obtain ⟨text, -, rfl⟩ := made
  exact ⟨_, rfl, rfl⟩

/-- A predicate that does not hold of a value is rendered in one record. -/
theorem render_predicate_failure
    (predicate : Predicate)
    (value : Value) :
    render backend [] sort (predicate.failure value) = backend.reportPredicate predicate value := by
  apply render_of_report
  rw [Predicate.failure, records, predicateRecord, MessageBackend.report]
  cases backend.text (.text predicate.name) (predicate.args ++ [value]) value <;> rfl

section Named

variable
  {left right : Failure}
  {options : Options}
  {name : Value}

/-- A union with a name is rendered as the one side that failed a predicate after its type
check. -/
theorem render_either_of_precise
    (named : unionName? options = some name)
    {side : Failure}
    (precise : preciseSide? left right = some side) :
    render backend [] sort (.either [] left right options) = render backend [] sort side := by
  obtain ⟨-, path, called, args, input, rfl⟩ := exists_predicate_of_preciseSide? precise
  have same :
      records backend [] (.either [] left right options) =
        records backend [] (.predicate path called args input) := by
    simp only [records, named, precise, leafRecord]
  rw [render, render, same]

/-- A union with a name is rendered under its name if no side is more precise. -/
theorem render_either_of_vague
    (named : unionName? options = some name)
    (vague : preciseSide? left right = none) :
    render backend [] sort (.either [] left right options) = backend.reportName name := by
  apply render_of_report
  rw [records, named]
  dsimp only
  rw [vague, MessageBackend.report]
  cases backend.text name [.null] .null <;> rfl

end Named

/-- A union without a name is rendered in one record with the records of both sides. -/
theorem render_either_of_unnamed
    {left right : Failure}
    {options : Options}
    (unnamed : unionName? options = none) :
    render backend [] sort (.either [] left right options) = backend.reportSides left right := by
  have reported :
      records backend [] (.either [] left right options) = backend.reportSides left right := by
    rw [records, unnamed]
    rfl
  rw [render_eq_records, reported]
  intro found made
  rw [reported, MessageBackend.reportSides] at made
  obtain ⟨first, -, made⟩ := Attempt.bind_eq_ok.mp made
  obtain ⟨second, -, same⟩ := Attempt.bind_eq_ok.mp made
  cases same
  exact ⟨_, rfl, rfl⟩

end Root

/-- Validating a value that mismatches a union fails on both sides. The report has only the name
of the union, if it has one, or else the records of the sides. -/
theorem Schema.exists_render_of_mismatches
    {left right : Schema}
    {options : Options}
    {value : Value}
    (mismatches : (union left right options).Mismatches value) :
    ∃ first second,
      left.validate value = .ok (.error first) ∧ right.validate value = .ok (.error second) ∧
      (union left right options).validate value =
        .ok (.error (.either [] first second options)) ∧
      ∀ backend sort, render backend [] sort (.either [] first second options) =
        match unionName? options with
        | some name => backend.reportName name
        | none => backend.reportSides first second := by
  obtain ⟨first, leftFails, leftEarly⟩ := exists_validate_of_mismatches mismatches.1
  obtain ⟨second, rightFails, rightEarly⟩ := exists_validate_of_mismatches mismatches.2
  have vague : preciseSide? first second = none := by
    rw [preciseSide?, leftEarly, rightEarly]
  refine ⟨first, second, leftFails, rightFails,
    validate_union_of_refused leftFails leftEarly rightFails options, ?_⟩
  intro backend sort
  cases named : unionName? options with
  | none => exact render_either_of_unnamed named
  | some name => exact render_either_of_vague named vague

end DataContract
