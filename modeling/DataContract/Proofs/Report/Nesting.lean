import DataContract.Proofs.Report.Wording

/-!
# Records from further out

A path can be put in front of a failure before it is rendered, or in front of its records
while it is rendered. Both give the same records in the same order. Only the details of a
missing key tell them apart: they show the path that the failure stores, which is the whole
path in the first case and what comes after the front in the second.
-/

namespace DataContract

/-! ## Records that tell the same -/

/-- Whether the details of two records at one path are those of one failure, which is seen from
further out for the second. Those of a missing key show the path that is stored. -/
def DetailsAgree
    (front : Path)
    (kind : RecordKind)
    (path : Path)
    (details other : Entries) : Prop :=
  match kind with
  | .key =>
      ∃ stored, path = front ++ stored ∧ details = predicateDetails "has_key?" stored ∧
        other = predicateDetails "has_key?" path
  | _ => other = details

mutual

/-- Whether two records are those of one failure, rendered below a path for the first and seen
from further out for the second: they are equal in everything but the details of missing keys,
and so are their sides. -/
def Record.TellsSame
    (front : Path) : Record → Record → Prop
  | .mk kind path text details cast left right,
      .mk otherKind otherPath otherText otherDetails otherCast otherLeft otherRight =>
      otherKind = kind ∧ otherPath = path ∧ otherText = text ∧ otherCast = cast ∧
        DetailsAgree front kind path details otherDetails ∧
        (Record.mk otherKind otherPath otherText otherDetails otherCast otherLeft
            otherRight).display =
          (Record.mk kind path text details cast left right).display ∧
        TellSame front left otherLeft ∧ TellSame front right otherRight

/-- Whether the records of two lists are pairwise those of one failure. -/
def TellSame
    (front : Path) : List Record → List Record → Prop
  | [], [] => True
  | record :: rest, other :: others => record.TellsSame front other ∧ TellSame front rest others
  | _, _ => False

end

section Agreement

variable {front : Path}

/-- Details that do not belong to a missing key are the same from further out. -/
theorem detailsAgree_self
    {kind : RecordKind}
    (other : kind ≠ .key)
    (path : Path)
    (details : Entries) :
    DetailsAgree front kind path details details := by
  cases kind with
  | key => contradiction
  | type => rfl
  | union => rfl
  | rule => rfl

theorem tellSame_iff
    {records others : List Record} :
    TellSame front records others ↔ List.Forall₂ (Record.TellsSame front) records others := by
  induction records generalizing others with
  | nil => cases others <;> simp [TellSame]
  | cons record rest hypothesis => cases others <;> simp [TellSame, hypothesis]

theorem Record.TellsSame.path_eq
    {record other : Record}
    (same : record.TellsSame front other) :
    other.path = record.path := by
  cases record
  cases other
  rw [TellsSame] at same
  exact same.2.1

theorem Record.TellsSame.text_eq
    {record other : Record}
    (same : record.TellsSame front other) :
    other.text = record.text := by
  cases record
  cases other
  rw [TellsSame] at same
  exact same.2.2.1

theorem Record.TellsSame.display_eq
    {record other : Record}
    (same : record.TellsSame front other) :
    other.display = record.display := by
  cases record
  cases other
  rw [TellsSame] at same
  exact same.2.2.2.2.2.1

/-- Records that tell the same read the same, one by one. -/
theorem displayRecords_of_tellSame
    {records others : List Record}
    (same : List.Forall₂ (Record.TellsSame front) records others) :
    displayRecords others = displayRecords records := by
  induction same with
  | nil => rfl
  | cons first _ hypothesis => rw [displayRecords, displayRecords, first.display_eq, hypothesis]

theorem map_text_of_tellSame
    {records others : List Record}
    (same : List.Forall₂ (Record.TellsSame front) records others) :
    others.map Record.text = records.map Record.text := by
  induction same with
  | nil => rfl
  | cons first _ hypothesis => rw [List.map_cons, List.map_cons, first.text_eq, hypothesis]

/-- Records with the same words at the same path tell the same if their details agree and
their sides tell the same: the display shows nothing else. -/
theorem Record.tellsSame_mk
    {kind : RecordKind}
    {path : Path}
    {text : String}
    {details otherDetails : Entries}
    {cast : Bool}
    {left right otherLeft otherRight : List Record}
    (agree : DetailsAgree front kind path details otherDetails)
    (sameLeft : List.Forall₂ (TellsSame front) left otherLeft)
    (sameRight : List.Forall₂ (TellsSame front) right otherRight) :
    (Record.mk kind path text details cast left right).TellsSame front
      (.mk kind path text otherDetails cast otherLeft otherRight) := by
  rw [TellsSame, tellSame_iff, tellSame_iff]
  have reads :
      (Record.mk kind path text otherDetails cast otherLeft otherRight).display =
        (Record.mk kind path text details cast left right).display := by
    simp only [display, displayRecords_of_tellSame sameLeft,
      displayRecords_of_tellSame sameRight]
  exact ⟨rfl, rfl, rfl, rfl, agree, reads, sameLeft, sameRight⟩

/-- Records that tell the same still do when they are marked as those of a cast. -/
theorem Record.TellsSame.markCast
    {record other : Record}
    (same : record.TellsSame front other) :
    record.markCast.TellsSame front other.markCast := by
  cases record with
  | mk kind path text details cast left right =>
      cases other with
      | mk otherKind otherPath otherText otherDetails otherCast otherLeft otherRight =>
          rw [TellsSame, tellSame_iff, tellSame_iff] at same
          obtain ⟨rfl, rfl, rfl, rfl, agree, -, sameLeft, sameRight⟩ := same
          exact tellsSame_mk agree sameLeft sameRight

/-- Lists of records that tell the same are sorted in the same way, since sorting looks at
their paths only. -/
theorem forall₂_sortRecords
    {records others : List Record}
    (same : List.Forall₂ (Record.TellsSame front) records others) :
    List.Forall₂ (Record.TellsSame front) (sortRecords records) (sortRecords others) := by
  have lengths : records.length = others.length := same.length_eq
  have paired (pair : Record × Record) (member : pair ∈ records.zip others) :
      pair.1.TellsSame front pair.2 :=
    List.forall₂_zip same member
  let earlier (first second : Record) : Bool :=
    SegmentKey.comparePaths first.sortKey second.sortKey != .gt
  let pairs := (records.zip others).mergeSort fun first second => earlier first.1 second.1
  have firsts : pairs.map Prod.fst = sortRecords records := by
    have kept (first : Record × Record) (_ : first ∈ records.zip others)
        (second : Record × Record) (_ : second ∈ records.zip others) :
        earlier first.1 second.1 = earlier first.1 second.1 := rfl
    rw [List.map_mergeSort kept, List.map_fst_zip (Nat.le_of_eq lengths)]
    rfl
  have seconds : pairs.map Prod.snd = sortRecords others := by
    have keys (pair : Record × Record) (member : pair ∈ records.zip others) :
        pair.2.sortKey = pair.1.sortKey := by
      rw [Record.sortKey, Record.sortKey, (paired pair member).path_eq]
    have moved (first : Record × Record) (found : first ∈ records.zip others)
        (second : Record × Record) (present : second ∈ records.zip others) :
        earlier first.1 second.1 = earlier first.2 second.2 := by
      simp only [earlier, keys first found, keys second present]
    rw [List.map_mergeSort moved, List.map_snd_zip (Nat.le_of_eq lengths.symm)]
    rfl
  rw [← firsts, ← seconds, List.forall₂_map_left_iff, List.forall₂_map_right_iff,
    List.forall₂_same]
  intro pair member
  exact paired pair (List.mem_mergeSort.mp member)

end Agreement

/-! ## Rendering below a path -/

/-- Whether every missing key of a failure is at some path: the name of the key is its last
segment. -/
def Failure.NamesMissing (failure : Failure) : Prop :=
  ∀ path, .missing path ∈ failure.nodes → path ≠ []

section Rendering

variable
  {backend : MessageBackend}
  {front : Path}

/-- Two attempts at a record in the same words match if the details agree and the sides tell
the same. -/
theorem matches_make
    {kind : RecordKind}
    {path : Path}
    {text : String}
    {details otherDetails : Entries}
    {left right otherLeft otherRight : List Record}
    (agree : DetailsAgree front kind path details otherDetails)
    (sameLeft : List.Forall₂ (Record.TellsSame front) left otherLeft)
    (sameRight : List.Forall₂ (Record.TellsSame front) right otherRight) :
    Attempt.Matches Eq (List.Forall₂ (Record.TellsSame front))
      (do .ok [← Record.make kind path text details left right])
      (do .ok [← Record.make kind path text otherDetails otherLeft otherRight]) := by
  rw [Record.make, Record.make]
  cases path.all Value.isSegment with
  | false => exact .error rfl
  | true => exact .ok (.cons (Record.tellsSame_mk agree sameLeft sameRight) .nil)

/-- The record of a predicate matches that of the predicate seen from further out. -/
theorem matches_predicateRecord
    (path : Path)
    (name : String)
    (args : List Value)
    (input : Value) :
    Attempt.Matches Eq (List.Forall₂ (Record.TellsSame front))
      (do .ok [← predicateRecord backend front path name args input])
      (do .ok [← predicateRecord backend [] (front ++ path) name args input]) := by
  rw [predicateRecord, predicateRecord, List.nil_append]
  cases backend.text (.text name) args input with
  | error fault => exact .error rfl
  | ok text => exact matches_make (detailsAgree_self (by decide) _ _) .nil .nil

/-- The records of a failure below a path match those of the failure seen from further out.
The path goes down the tree in the first case and is put in front of every node in the second;
a union with a name, of which one side or a message remains, takes it along in both. -/
theorem matches_records_nest
    {failure : Failure}
    (named : failure.NamesMissing) :
    Attempt.Matches Eq (List.Forall₂ (Record.TellsSame front))
      (records backend front failure) (records backend [] (failure.nest front)) := by
  induction failure with
  | predicate path name args input =>
      rw [Failure.nest, records, records]
      exact matches_predicateRecord path name args input
  | missing path =>
      have nonempty : path ≠ [] := named path (by simp [Failure.nodes])
      have last : (front ++ path).getLast? = path.getLast? :=
        List.getLast?_append_of_ne_nil front nonempty
      rw [Failure.nest, records, records, List.nil_append, last]
      apply Attempt.Matches.bind_same fun _ => rfl
      intro text
      exact matches_make ⟨path, rfl, rfl, rfl⟩ .nil .nil
  | either path left right options leftHypothesis rightHypothesis =>
      rw [Failure.nest, records, records, List.nil_append, Failure.preciseSide?_nest]
      cases unionName? options with
      | none =>
          have ofLeft : left.NamesMissing := fun place inside =>
            named place (by simp [Failure.nodes, inside])
          have ofRight : right.NamesMissing := fun place inside =>
            named place (by simp [Failure.nodes, inside])
          apply (leftHypothesis ofLeft).bind
          intro first second sameLeft
          apply (rightHypothesis ofRight).bind
          intro third fourth sameRight
          rw [map_text_of_tellSame sameLeft, map_text_of_tellSame sameRight]
          exact matches_make (detailsAgree_self (by decide) _ _) sameLeft sameRight
      | some name =>
          cases precise : preciseSide? left right with
          | none =>
              apply Attempt.Matches.bind_same fun _ => rfl
              intro text
              exact matches_make (detailsAgree_self (by decide) _ _) .nil .nil
          | some side =>
              obtain ⟨-, place, called, args, input, rfl⟩ :=
                exists_predicate_of_preciseSide? precise
              exact matches_predicateRecord place called args input
  | several failures hypothesis =>
      have each : ∀ inner ∈ failures, inner.NamesMissing := fun inner member place inside =>
        named place (by
          rw [Failure.nodes, Failure.mem_listNodes]
          exact ⟨inner, member, inside⟩)
      rw [Failure.nest, Failure.nestAll_eq_map, records, records]
      clear named
      induction failures with
      | nil => exact .ok .nil
      | cons first rest remaining =>
          rw [List.forall_mem_cons] at hypothesis each
          rw [List.map_cons, recordsOfAll_cons, recordsOfAll_cons]
          apply (hypothesis.1 each.1).bind
          intro found other same
          apply (remaining hypothesis.2 each.2).bind
          intro others moreOthers sameOthers
          exact .ok (List.rel_append same sameOthers)
  | cast inner hypothesis =>
      have ofInner : inner.NamesMissing := fun place inside =>
        named place (by simpa [Failure.nodes] using inside)
      rw [Failure.nest, records, records]
      apply (hypothesis ofInner).map
      intro found others same
      rw [List.forall₂_map_left_iff, List.forall₂_map_right_iff]
      exact same.imp fun _ _ alike => alike.markCast
  | rule path text =>
      rw [Failure.nest, records, records, List.nil_append]
      exact matches_make (detailsAgree_self (by decide) _ _) .nil .nil

/-- Records that tell the same have the same paths. -/
theorem all_path_of_tellSame
    {found others : List Record}
    (same : List.Forall₂ (Record.TellsSame front) found others)
    (test : Path → Bool) :
    (others.all fun record => test record.path) = found.all fun record => test record.path := by
  induction same with
  | nil => rfl
  | cons first _ hypothesis => rw [List.all_cons, List.all_cons, first.path_eq, hypothesis]

end Rendering

/-- A failure is rendered below a path as it is rendered after the path has been put in front of
it: the same records come in the same order, or the same fault stops both. -/
theorem render_nest
    (backend : MessageBackend)
    (front : Path)
    (sort : Bool)
    (failure : Failure)
    (named : failure.NamesMissing) :
    Attempt.Matches Eq (List.Forall₂ (Record.TellsSame front))
      (render backend front sort failure) (render backend [] sort (failure.nest front)) := by
  rw [render, render]
  apply (matches_records_nest named).bind
  intro found others same
  cases sort with
  | false => exact .ok same
  | true =>
      rw [all_path_of_tellSame same fun path => path.all Value.isSortable]
      cases found.all fun record => record.path.all Value.isSortable with
      | false => exact .error rfl
      | true => exact .ok (forall₂_sortRecords same)

/-- What is wrong with an item of a cart: a name is missing, its code is neither a map with a
key nor a text, and a number that was to be cast is odd. -/
def itemFailure : Failure :=
  .several
    [.missing [.text "name"],
      .either [.text "code"]
        (.several [.missing [.text "code", .text "id"]])
        (.predicate [.text "code"] "type?" [.text "string", .map []] (.map [])) [],
      .cast
        (.either [.text "amount"]
          (.predicate [.text "amount"] "even?" [.int (-5)] (.int (-5)))
          (.predicate [.text "amount"] "type?" [.text "float", .int (-5)] (.int (-5)))
          [("name", .text "number")])]

theorem render_nest_item :
    itemFailure.NamesMissing ∧
      ∃ found others,
        render .default [.text "items", .int 3] true itemFailure = .ok found ∧
        render .default [] true (itemFailure.nest [.text "items", .int 3]) = .ok others ∧
        found.length = 3 ∧
        List.Forall₂ (Record.TellsSame [.text "items", .int 3]) found others := by
  have named : itemFailure.NamesMissing := by
    simp [Failure.NamesMissing, itemFailure, Failure.nodes, Failure.listNodes]
  obtain ⟨emitted, made⟩ : ∃ emitted,
      records .default [.text "items", .int 3] itemFailure = .ok emitted := ⟨_, rfl⟩
  have count : emitted.length = 3 := length_records made
  have sortable : ∀ record ∈ emitted, ∀ segment ∈ record.path, segment.isSortable = true := by
    cases made
    simp [Record.path, Record.markCast, Value.isSortable, Value.whole?, Value.hasPlain,
      Value.isWritable]
  have rendered : render .default [.text "items", .int 3] true itemFailure =
      .ok (sortRecords emitted) :=
    render_eq_ok.mpr ⟨emitted, made, fun _ => sortable, rfl⟩
  have same := render_nest .default [.text "items", .int 3] true itemFailure named
  rw [rendered] at same
  generalize render .default [] true (itemFailure.nest [.text "items", .int 3]) = again at same
  cases same with
  | ok alike =>
      have length : (sortRecords emitted).length = 3 := by
        rw [(sortRecords_perm emitted).length_eq, count]
      exact ⟨named, _, _, rendered, rfl, length, alike⟩

end DataContract
