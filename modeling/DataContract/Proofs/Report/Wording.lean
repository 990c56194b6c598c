import DataContract.Proofs.Failure.Node
import DataContract.Proofs.Report.Listing
import DataContract.Proofs.Report.Order
import DataContract.Proofs.Report.Rearranged

/-!
# What can be told

A message can be told if it can be looked up and everything that it shows has a text. The
arguments of a predicate are shown as they are, but those of a membership test one option at a
time, which takes options that can be gone through.
-/

namespace DataContract

/-- Values are written as their plain texts, if they have them. -/
theorem Value.write_eq_ok
    {value : Value}
    {text : String} :
    value.write = .ok text ↔ value.hasPlain = true ∧ text = value.plain := by
  rw [write]
  split
  · rename_i written
    simp [written, eq_comm]
  · rename_i unwritten
    simp [unwritten]

/-- The text under a name, which there is only for a text. -/
def textUnder?
    (texts : List (String × String))
    (name : Value) : Option String :=
  match name with
  | .text name => texts.lookup name
  | _ => none

/-- A text is looked up under a name that can be a key. -/
theorem findText_eq
    (texts : List (String × String))
    (name : Value) :
    findText texts name =
      if name.isKey then .ok (textUnder? texts name) else .error .wrongKind := by
  unfold findText textUnder?
  cases name.isKey with
  | false => rfl
  | true =>
      rw [if_neg (by simp), if_pos rfl]
      cases name with
      | scalar content => cases content <;> rfl
      | _ => rfl

namespace Wording

variable (wording : Wording)

/-- What a message is looked up by: the tag of a type check, or else the name. -/
def subject
    (name : Value)
    (own : List Value) : Value :=
  if name == .text Failure.typePredicate then own.headD .null else name

/-- The values that a template shows of an argument: all options of a membership test, if they
can be gone through, or the argument itself. -/
def shownOf?
    (name expected : Value) : Option (List Value) :=
  if name == .text "in?" || name == .text "not_in?" then expected.items? else some [expected]

/-- The values that a message shows. -/
def shown?
    (name : Value)
    (own : List Value) : Option (List Value) :=
  if name == .text Failure.typePredicate then some [own.headD .null]
  else
    match textUnder? wording.templates name with
    | none => some [name]
    | some template =>
        match own with
        | [] => some []
        | expected :: _ =>
            match templatePieces template with
            | [_] => some []
            | _ => shownOf? name expected

/-- Whether the message of a predicate with arguments of its own can be told. -/
def CanTell
    (name : Value)
    (own : List Value) : Prop :=
  (subject name own).isKey = true ∧
    ∃ values, wording.shown? name own = some values ∧ ∀ value ∈ values, value.hasPlain = true

/-- An argument has a text if all that is shown of it has. -/
theorem exists_expectedText_iff
    {name expected : Value} :
    (∃ text, expectedText name expected = .ok text) ↔
      ∃ values, shownOf? name expected = some values ∧
        ∀ value ∈ values, value.hasPlain = true := by
  rw [expectedText, shownOf?]
  split
  · cases expected.items? with
    | none => simp
    | some options =>
        simp only [Attempt.bind_eq_ok, Attempt.mapM_eq_ok, Option.some.injEq, exists_eq_left']
        constructor
        · rintro ⟨text, texts, written, -⟩ option member
          obtain ⟨plain, -, told⟩ := Attempt.exists_answer_of_mem written member
          exact (Value.write_eq_ok.mp told).1
        · intro told
          refine ⟨_, options.map Value.plain, ?_, rfl⟩
          rw [List.forall₂_map_right_iff, List.forall₂_same]
          exact fun option member => Value.write_eq_ok.mpr ⟨told option member, rfl⟩
  · simp [Value.write_eq_ok]

/-- A message can be told if it can be looked up and what it shows has a text. -/
theorem exists_message_iff
    (name : Value)
    (args : List Value) :
    (∃ text, wording.message name args = .ok text) ↔ wording.CanTell name args.dropLast := by
  rw [message, CanTell, subject, shown?]
  dsimp only
  split
  · rw [findText_eq]
    cases usable : (args.dropLast.headD .null).isKey with
    | false => simp [Attempt.bind_eq_ok]
    | true => simp [Attempt.bind_eq_ok, Value.write_eq_ok]
  · rw [findText_eq]
    cases usable : name.isKey with
    | false => simp
    | true =>
        simp only [if_true, Attempt.ok_bind, true_and]
        cases textUnder? wording.templates name with
        | none => simp [Attempt.bind_eq_ok, Value.write_eq_ok]
        | some template =>
            cases args.dropLast with
            | nil => simp
            | cons expected rest =>
                dsimp only
                cases templatePieces template with
                | nil => simp [Attempt.bind_eq_ok, ← exists_expectedText_iff]
                | cons first others =>
                    cases others with
                    | nil => simp
                    | cons second more => simp [Attempt.bind_eq_ok, ← exists_expectedText_iff]

/-- A message without arguments can be told under every text. -/
theorem canTell_text_nil (name : String) : wording.CanTell (.text name) [] := by
  constructor
  · rw [subject]
    split <;> rfl
  · rw [shown?]
    split
    · exact ⟨_, rfl, by simp [Value.hasPlain, Value.isWritable]⟩
    · cases textUnder? wording.templates (.text name) with
      | none => exact ⟨_, rfl, by simp [Value.hasPlain, Value.isWritable]⟩
      | some template => exact ⟨_, rfl, by simp⟩

end Wording

/-! ## Failures that can be rendered -/

theorem MessageBackend.text_ofWording
    (wording : Wording)
    (name : Value)
    (args : List Value)
    (input : Value) :
    (ofWording wording).text name args input = wording.message name args := rfl

/-- A record can be made if its path consists of segments. -/
theorem Record.make_eq_ok
    {kind : RecordKind}
    {path : Path}
    {text : String}
    {details : Entries}
    {left right : List Record}
    {record : Record} :
    make kind path text details left right = .ok record ↔
      (∀ segment ∈ path, segment.isSegment = true) ∧
        record = .mk kind path text details false left right := by
  rw [make]
  split
  · rename_i usable
    rw [List.all_eq_true] at usable
    constructor
    · intro made
      exact ⟨usable, (Except.ok.inj made).symm⟩
    · rintro ⟨-, rfl⟩
      rfl
  · rename_i unusable
    rw [List.all_eq_true] at unusable
    simp [unusable]

namespace Failure

variable
  (wording : Wording)
  (fits : Value → Prop)

/-- Whether a failure that is a predicate can be told, at a path of fitting segments. -/
def IsLeafWorded : Failure → Prop
  | .predicate path name args _ =>
      (∀ segment ∈ path, fits segment) ∧ wording.CanTell (.text name) args.dropLast
  | _ => True

mutual

/-- Whether everything that is reported of a failure can be told, at paths of fitting segments:
of a union with a name this is one message. -/
def IsWorded : Failure → Prop
  | .predicate path name args _ =>
      (∀ segment ∈ path, fits segment) ∧ wording.CanTell (.text name) args.dropLast
  | .missing path => ∀ segment ∈ path, fits segment
  | .either path left right options =>
      match unionName? options with
      | none => (∀ segment ∈ path, fits segment) ∧ left.IsWorded ∧ right.IsWorded
      | some name =>
          match preciseSide? left right with
          | some side => side.IsLeafWorded wording fits
          | none => (∀ segment ∈ path, fits segment) ∧ wording.CanTell name []
  | .several failures => AreWorded failures
  | .cast inner => inner.IsWorded
  | .rule path _ => ∀ segment ∈ path, fits segment

/-- Whether everything that is reported of several failures can be told. -/
def AreWorded : List Failure → Prop
  | [] => True
  | failure :: rest => failure.IsWorded ∧ AreWorded rest

end

variable
  {wording : Wording}
  {fits : Value → Prop}

theorem areWorded_iff
    {failures : List Failure} :
    AreWorded wording fits failures ↔ ∀ failure ∈ failures, failure.IsWorded wording fits := by
  induction failures with
  | nil => simp [AreWorded]
  | cons failure rest hypothesis => rw [AreWorded, hypothesis, List.forall_mem_cons]

/-- What is told of a predicate in a union with a name is what is told of it elsewhere. -/
theorem IsWorded.leaf
    {failure : Failure}
    (worded : failure.IsWorded wording fits) :
    failure.IsLeafWorded wording fits := by
  cases failure with
  | predicate path name args input =>
      rw [IsWorded] at worded
      exact worded
  | _ => trivial

/-- A union can be told if both sides can and its name, if it has one, can be looked up. -/
theorem isWorded_either
    {path : Path}
    {left right : Failure}
    {options : Options}
    (fitting : ∀ segment ∈ path, fits segment)
    (named : ∀ name, unionName? options = some name → wording.CanTell name [])
    (ofLeft : left.IsWorded wording fits)
    (ofRight : right.IsWorded wording fits) :
    (Failure.either path left right options).IsWorded wording fits := by
  rw [IsWorded]
  split
  · exact ⟨fitting, ofLeft, ofRight⟩
  · rename_i name found
    split
    · rename_i side precise
      unfold preciseSide? at precise
      split at precise
      · cases precise
        exact ofLeft.leaf
      · cases precise
        exact ofRight.leaf
      · cases precise
    · exact ⟨fitting, named name found⟩

@[simp] theorem isPastTypeCheck_nest
    (front : Path)
    (failure : Failure) :
    (failure.nest front).isPastTypeCheck = failure.isPastTypeCheck := by
  cases failure <;> rfl

/-- The more precise side is the same from further out. -/
theorem preciseSide?_nest
    (front : Path)
    (left right : Failure) :
    preciseSide? (left.nest front) (right.nest front) =
      (preciseSide? left right).map (nest front) := by
  simp only [preciseSide?, isPastTypeCheck_nest]
  split <;> rfl

/-- What can be told can be told from further out. -/
theorem IsWorded.nest
    {front : Path}
    {failure : Failure}
    (fitting : ∀ segment ∈ front, fits segment)
    (worded : failure.IsWorded wording fits) :
    (failure.nest front).IsWorded wording fits := by
  have whole
      {path : Path}
      (rest : ∀ segment ∈ path, fits segment) :
      ∀ segment ∈ front ++ path, fits segment :=
    List.forall_mem_append.mpr ⟨fitting, rest⟩
  induction failure with
  | predicate path name args input =>
      rw [IsWorded] at worded
      rw [Failure.nest, IsWorded]
      exact ⟨whole worded.1, worded.2⟩
  | missing path =>
      rw [IsWorded] at worded
      rw [Failure.nest, IsWorded]
      exact whole worded
  | either path left right options leftHypothesis rightHypothesis =>
      rw [IsWorded] at worded
      rw [Failure.nest, IsWorded, preciseSide?_nest]
      split at worded
      · exact ⟨whole worded.1, leftHypothesis worded.2.1, rightHypothesis worded.2.2⟩
      · split at worded
        · rename_i side precise
          rw [precise]
          cases side with
          | predicate path name args input => exact ⟨whole worded.1, worded.2⟩
          | _ => trivial
        · rename_i vague
          rw [vague]
          exact ⟨whole worded.1, worded.2⟩
  | several failures hypothesis =>
      rw [IsWorded, areWorded_iff] at worded
      rw [Failure.nest, IsWorded, areWorded_iff, nestAll_eq_map, List.forall_mem_map]
      exact fun failure member => hypothesis failure member (worded failure member)
  | cast inner hypothesis =>
      rw [IsWorded] at worded
      rw [Failure.nest, IsWorded]
      exact hypothesis worded
  | rule path text =>
      rw [IsWorded] at worded
      rw [Failure.nest, IsWorded]
      exact whole worded

end Failure

section Records

variable
  {wording : Wording}
  {fits : Value → Prop}
  {front : Path}

/-- The record of a predicate can be made if its message can be told and its path consists of
segments. -/
theorem exists_predicateRecord_iff
    {path : Path}
    {name : String}
    {args : List Value}
    {input : Value} :
    (∃ record, predicateRecord (.ofWording wording) front path name args input = .ok record) ↔
      (∀ segment ∈ front ++ path, segment.isSegment = true) ∧
        wording.CanTell (.text name) args.dropLast := by
  simp only [predicateRecord, MessageBackend.ofWording, Attempt.bind_eq_ok, Record.make_eq_ok,
    ← Wording.exists_message_iff]
  constructor
  · rintro ⟨record, text, told, usable, -⟩
    exact ⟨usable, text, told⟩
  · rintro ⟨usable, text, told⟩
    exact ⟨_, text, told, usable, rfl⟩

theorem path_of_predicateRecord
    {backend : MessageBackend}
    {path : Path}
    {name : String}
    {args : List Value}
    {input : Value}
    {record : Record}
    (made : predicateRecord backend front path name args input = .ok record) :
    record.path = front ++ path := by
  obtain ⟨text, -, made⟩ := Attempt.bind_eq_ok.mp made
  rw [(Record.make_eq_ok.mp made).2]
  rfl

/-- A record can be made at a path of segments that fit, and stands there. -/
theorem exists_make
    (usable : ∀ segment, fits segment → segment.isSegment = true)
    {path : Path}
    (fitting : ∀ segment ∈ path, fits segment)
    (kind : RecordKind)
    (text : String)
    (details : Entries)
    (left right : List Record) :
    ∃ record, Record.make kind path text details left right = .ok record ∧
      ∀ found ∈ [record], ∀ segment ∈ found.path, fits segment := by
  have segments := fun segment member => usable segment (fitting segment member)
  exact ⟨_, Record.make_eq_ok.mpr ⟨segments, rfl⟩, List.forall_mem_singleton.mpr fitting⟩

/-- A predicate that can be told is told in a record at a path of segments that fit. -/
theorem exists_leafRecord
    (usable : ∀ segment, fits segment → segment.isSegment = true)
    (fitting : ∀ segment ∈ front, fits segment)
    {failure : Failure}
    (worded : failure.IsLeafWorded wording fits) :
    ∃ found, leafRecord (.ofWording wording) front failure = .ok found ∧
      ∀ record ∈ found, ∀ segment ∈ record.path, fits segment := by
  cases failure with
  | predicate path name args input =>
      have whole := List.forall_mem_append.mpr ⟨fitting, worded.1⟩
      obtain ⟨record, made⟩ := exists_predicateRecord_iff.mpr
        ⟨fun segment member => usable segment (whole segment member), worded.2⟩
      refine ⟨[record], by rw [leafRecord, made, Attempt.ok_bind], ?_⟩
      rwa [List.forall_mem_singleton, path_of_predicateRecord made]
  | _ => exact ⟨[], rfl, by simp⟩

/-- Only a predicate that can be told is told in a record. -/
theorem isLeafWorded_of_leafRecord
    {failure : Failure}
    {found : List Record}
    (made : leafRecord (.ofWording wording) front failure = .ok found) :
    failure.IsLeafWorded wording fun segment => segment.isSegment = true := by
  cases failure with
  | predicate path name args input =>
      obtain ⟨record, told, -⟩ := Attempt.bind_eq_ok.mp made
      obtain ⟨usable, words⟩ := exists_predicateRecord_iff.mp ⟨record, told⟩
      exact ⟨(List.forall_mem_append.mp usable).2, words⟩
  | _ => trivial

/-- What is done for each of several failures is done for all of them if it can be done for
each. -/
theorem exists_recordsOfAll
    {backend : MessageBackend}
    {property : Record → Prop}
    {failures : List Failure}
    (each : ∀ failure ∈ failures, ∃ found, records backend front failure = .ok found ∧
      ∀ record ∈ found, property record) :
    ∃ found, recordsOfAll backend front failures = .ok found ∧
      ∀ record ∈ found, property record := by
  induction failures with
  | nil => exact ⟨[], recordsOfAll_nil, by simp⟩
  | cons failure rest hypothesis =>
      rw [List.forall_mem_cons] at each
      obtain ⟨first, made, held⟩ := each.1
      obtain ⟨others, remaining, rest⟩ := hypothesis each.2
      exact ⟨first ++ others, recordsOfAll_cons_eq_ok.mpr ⟨first, others, made, remaining, rfl⟩,
        List.forall_mem_append.mpr ⟨held, rest⟩⟩

/-- What can be told is told in records, whose paths consist of fitting segments. -/
theorem exists_records_of_isWorded
    (usable : ∀ segment, fits segment → segment.isSegment = true)
    (fitting : ∀ segment ∈ front, fits segment)
    {failure : Failure}
    (worded : failure.IsWorded wording fits) :
    ∃ found, records (.ofWording wording) front failure = .ok found ∧
      ∀ record ∈ found, ∀ segment ∈ record.path, fits segment := by
  have whole
      {path : Path}
      (rest : ∀ segment ∈ path, fits segment) :
      ∀ segment ∈ front ++ path, fits segment :=
    List.forall_mem_append.mpr ⟨fitting, rest⟩
  induction failure with
  | predicate path name args input =>
      rw [Failure.IsWorded] at worded
      have leaf : (Failure.predicate path name args input).IsLeafWorded wording fits := worded
      simpa only [records, leafRecord] using exists_leafRecord usable fitting leaf
  | missing path =>
      rw [Failure.IsWorded] at worded
      have alone : path.getLast?.toList.dropLast = [] := by
        cases path.getLast? <;> rfl
      obtain ⟨text, told⟩ := (wording.exists_message_iff (.text "has_key?")
        path.getLast?.toList).mpr (alone ▸ wording.canTell_text_nil "has_key?")
      obtain ⟨record, made, placed⟩ := exists_make usable (whole worded) .key text
        (predicateDetails "has_key?" path) [] []
      exact ⟨[record], by simp only [records, MessageBackend.text_ofWording, told, made,
        Attempt.ok_bind], placed⟩
  | either path left right options leftHypothesis rightHypothesis =>
      rw [Failure.IsWorded] at worded
      cases named : unionName? options with
      | none =>
          simp only [named] at worded
          obtain ⟨first, leftMade, -⟩ := leftHypothesis worded.2.1
          obtain ⟨second, rightMade, -⟩ := rightHypothesis worded.2.2
          obtain ⟨record, made, placed⟩ := exists_make usable (whole worded.1) .union
            (joinSides (first.map Record.text) (second.map Record.text))
            [(.text "union", .bool true)] first second
          exact ⟨[record], by simp only [records, named, leftMade, rightMade, made,
            Attempt.ok_bind], placed⟩
      | some name =>
          simp only [named] at worded
          cases precise : preciseSide? left right with
          | some side =>
              simp only [precise] at worded
              simp only [records, named, precise]
              exact exists_leafRecord usable fitting worded
          | none =>
              simp only [precise] at worded
              obtain ⟨text, told⟩ := (wording.exists_message_iff name [.null]).mpr worded.2
              obtain ⟨record, made, placed⟩ := exists_make usable (whole worded.1) .type text
                [(.text "union", name)] [] []
              exact ⟨[record], by simp only [records, named, precise,
                MessageBackend.text_ofWording, told, made, Attempt.ok_bind], placed⟩
  | several failures hypothesis =>
      rw [Failure.IsWorded, Failure.areWorded_iff] at worded
      rw [records]
      exact exists_recordsOfAll fun failure member =>
        hypothesis failure member (worded failure member)
  | cast inner hypothesis =>
      rw [Failure.IsWorded] at worded
      obtain ⟨found, made, placed⟩ := hypothesis worded
      refine ⟨found.map Record.markCast, by rw [records, made]; rfl, ?_⟩
      rw [List.forall_mem_map]
      simpa only [Record.path_markCast] using placed
  | rule path text =>
      rw [Failure.IsWorded] at worded
      obtain ⟨record, made, placed⟩ := exists_make usable (whole worded) .rule text [] [] []
      exact ⟨[record], by simp only [records, made, Attempt.ok_bind], placed⟩

/-- What is done for several failures is done for each of them. -/
theorem exists_records_of_mem
    {backend : MessageBackend}
    {failures : List Failure}
    {failure : Failure}
    {found : List Record}
    (made : recordsOfAll backend front failures = .ok found)
    (member : failure ∈ failures) :
    ∃ first, records backend front failure = .ok first := by
  induction failures generalizing found with
  | nil => cases member
  | cons first rest hypothesis =>
      obtain ⟨own, others, told, remaining, -⟩ := recordsOfAll_cons_eq_ok.mp made
      rcases List.mem_cons.mp member with rfl | later
      · exact ⟨own, told⟩
      · exact hypothesis remaining later

/-- Only what can be told is told in records. -/
theorem isWorded_of_records
    {failure : Failure}
    {found : List Record}
    (made : records (.ofWording wording) front failure = .ok found) :
    failure.IsWorded wording fun segment => segment.isSegment = true := by
  have own
      {path : Path}
      (whole : ∀ segment ∈ front ++ path, segment.isSegment = true) :
      ∀ segment ∈ path, segment.isSegment = true :=
    (List.forall_mem_append.mp whole).2
  induction failure generalizing found with
  | predicate path name args input =>
      rw [records] at made
      obtain ⟨record, told, -⟩ := Attempt.bind_eq_ok.mp made
      obtain ⟨usable, words⟩ := exists_predicateRecord_iff.mp ⟨record, told⟩
      rw [Failure.IsWorded]
      exact ⟨own usable, words⟩
  | missing path =>
      rw [records] at made
      obtain ⟨text, -, made⟩ := Attempt.bind_eq_ok.mp made
      obtain ⟨record, built, -⟩ := Attempt.bind_eq_ok.mp made
      rw [Failure.IsWorded]
      exact own (Record.make_eq_ok.mp built).1
  | either path left right options leftHypothesis rightHypothesis =>
      rw [Failure.IsWorded]
      cases named : unionName? options with
      | none =>
          obtain ⟨first, second, leftMade, rightMade, usable, -⟩ :=
            (records_either_eq_ok named).mp made
          rw [List.all_eq_true] at usable
          exact ⟨own usable, leftHypothesis leftMade, rightHypothesis rightMade⟩
      | some name =>
          simp only [records, named] at made
          cases precise : preciseSide? left right with
          | some side =>
              simp only [precise] at made ⊢
              exact isLeafWorded_of_leafRecord made
          | none =>
              simp only [precise] at made ⊢
              obtain ⟨text, told, made⟩ := Attempt.bind_eq_ok.mp made
              obtain ⟨record, built, -⟩ := Attempt.bind_eq_ok.mp made
              exact ⟨own (Record.make_eq_ok.mp built).1,
                (wording.exists_message_iff name [.null]).mp ⟨text, told⟩⟩
  | several failures hypothesis =>
      rw [records] at made
      rw [Failure.IsWorded, Failure.areWorded_iff]
      intro failure member
      obtain ⟨first, told⟩ := exists_records_of_mem made member
      exact hypothesis failure member told
  | cast inner hypothesis =>
      rw [records] at made
      obtain ⟨unmarked, inside, -⟩ := Attempt.map_eq_ok.mp made
      rw [Failure.IsWorded]
      exact hypothesis inside
  | rule path text =>
      rw [records] at made
      obtain ⟨record, built, -⟩ := Attempt.bind_eq_ok.mp made
      rw [Failure.IsWorded]
      exact own (Record.make_eq_ok.mp built).1

end Records

end DataContract
