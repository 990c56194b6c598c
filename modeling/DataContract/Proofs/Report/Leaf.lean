import DataContract.Proofs.Failure.Site
import DataContract.Proofs.Report.Wording

/-!
# One record for every leaf

The records of a failure are put together on the way up: lists of failures lay out what is in
them one after another, casts mark the records that they are given, and alternatives put the
records of both sides into one. Seen from the top, every node of the failure has one record, in
the order of the tree, and it is marked if the node lies in a cast with no alternatives in
between. With the records of sides in the place of each union there is one record per leaf.

This is so for failures in which no union has a name, since such a union shows its name instead
of its sides.
-/

namespace DataContract

namespace Record

mutual

/-- A record with all records inside it, a union before its left and then its right side. -/
def nodes : Record → List Record
  | .mk kind path text details cast left right =>
      .mk kind path text details cast left right :: (nodesOfAll left ++ nodesOfAll right)

/-- Records with all records inside them. -/
def nodesOfAll : List Record → List Record
  | [] => []
  | record :: rest => record.nodes ++ nodesOfAll rest

end

mutual

/-- The records that are left of a record if every union gives way to its left records and then
its right records. -/
def leaves : Record → List Record
  | .mk kind path text details cast left right =>
      match kind with
      | .union => leavesOfAll left ++ leavesOfAll right
      | _ => [.mk kind path text details cast left right]

/-- The records that are left of several if all unions give way to their sides. -/
def leavesOfAll : List Record → List Record
  | [] => []
  | record :: rest => record.leaves ++ leavesOfAll rest

end

attribute [local simp] nodesOfAll leavesOfAll

@[simp] theorem nodesOfAll_append (records others : List Record) :
    nodesOfAll (records ++ others) = nodesOfAll records ++ nodesOfAll others := by
  induction records with
  | nil => rfl
  | cons record rest hypothesis => simp [hypothesis]

@[simp] theorem leavesOfAll_append (records others : List Record) :
    leavesOfAll (records ++ others) = leavesOfAll records ++ leavesOfAll others := by
  induction records with
  | nil => rfl
  | cons record rest hypothesis => simp [hypothesis]

/-- Records with something around them, which marks them if it is a cast. -/
def within
    (around : List Enclosure)
    (records : List Record) : List Record :=
  if around.head? = some .cast then records.map markCast else records

@[simp] theorem within_append
    (around : List Enclosure)
    (records others : List Record) :
    within around (records ++ others) = within around records ++ within around others := by
  unfold within
  split
  · exact List.map_append
  · rfl

/-- A mark is made once and for all. -/
@[simp] theorem markCast_markCast (record : Record) :
    record.markCast.markCast = record.markCast := by
  cases record
  rfl

/-- Whatever is around a cast, it is the cast that marks what is in it. -/
theorem within_map_markCast
    (around : List Enclosure)
    (records : List Record) :
    within around (records.map markCast) = within (.cast :: around) records := by
  unfold within
  split <;> simp

end Record

namespace Failure

/-- The kind of the record of a node; lists and casts have none of their own. -/
def recordKind? : Failure → Option RecordKind
  | .predicate .. => some .type
  | .missing _ => some .key
  | .either .. => some .union
  | .rule .. => some .rule
  | .several _ => none
  | .cast _ => none

/-- The path of a node, which lists and casts have in their parts only. -/
def path : Failure → Path
  | .predicate path _ _ _ => path
  | .missing path => path
  | .either path _ _ _ => path
  | .rule path _ => path
  | .several _ => []
  | .cast _ => []

/-- Whether a failure is that of a union with a name. -/
def isNamed : Failure → Bool
  | .either _ _ _ options => (unionName? options).isSome
  | _ => false

/-- Whether no union in a failure has a name. -/
def IsUnnamed (failure : Failure) : Prop :=
  ∀ node ∈ failure.nodes, node.isNamed = false

theorem isUnnamed_either
    {path : Path}
    {left right : Failure}
    {options : Options} :
    (Failure.either path left right options).IsUnnamed ↔
      unionName? options = none ∧ left.IsUnnamed ∧ right.IsUnnamed := by
  simp [IsUnnamed, nodes, isNamed, or_imp, forall_and]

theorem isUnnamed_several
    {failures : List Failure} :
    (Failure.several failures).IsUnnamed ↔ ∀ failure ∈ failures, failure.IsUnnamed := by
  simp only [IsUnnamed, nodes, mem_listNodes]
  constructor
  · exact fun unnamed failure listed node inside => unnamed node ⟨failure, listed, inside⟩
  · rintro unnamed node ⟨failure, listed, inside⟩
    exact unnamed failure listed node inside

theorem isUnnamed_cast
    {inner : Failure} :
    (Failure.cast inner).IsUnnamed ↔ inner.IsUnnamed :=
  Iff.rfl

end Failure

/-- Whether a record tells of a node where it lies, below a path: it has the kind of the node and
its path, and it is marked if the node lies in a cast. -/
structure Record.Tells
    (front : Path)
    (site : Failure.Site)
    (record : Record) : Prop where
  /-- It has the kind of the node. -/
  kind : site.node.recordKind? = some record.kind
  /-- It has the path of the node, below the one in front. -/
  path : record.path = front ++ site.node.path
  /-- It is marked exactly if the node lies in a cast. -/
  marked : record.cast = true ↔ site.IsInCast

section Rendering

variable
  {backend : MessageBackend}
  {front : Path}

/-- A record that is made for a node tells of it. -/
theorem Record.tells_within
    {node : Failure}
    {kind : RecordKind}
    (own : node.recordKind? = some kind)
    (around : List Enclosure)
    (text : String)
    (details : Entries)
    (left right : List Record) :
    ∃ marked, within around [.mk kind (front ++ node.path) text details false left right] =
        [.mk kind (front ++ node.path) text details marked left right] ∧
      (Record.mk kind (front ++ node.path) text details marked left right).Tells front
        ⟨around, node⟩ := by
  unfold within
  split
  · rename_i inCast
    refine ⟨true, rfl, own, rfl, ?_⟩
    simp [Record.cast, Failure.Site.isInCast_iff, inCast]
  · rename_i apart
    refine ⟨false, rfl, own, rfl, ?_⟩
    simp [Record.cast, Failure.Site.isInCast_iff, apart]

/-- A record that is made for a leaf is the only one of the leaf. -/
theorem forall₂_tells_leaf
    {leaf : Failure}
    {kind : RecordKind}
    (own : leaf.recordKind? = some kind)
    (single : leaf.isLeaf = true)
    (around : List Enclosure)
    {text : String}
    {details : Entries}
    {record : Record}
    (made : Record.make kind (front ++ leaf.path) text details [] [] = .ok record) :
    List.Forall₂ (Record.Tells front) [⟨around, leaf⟩]
        (Record.nodesOfAll (Record.within around [record])) ∧
      List.Forall₂ (Record.Tells front) ([⟨around, leaf⟩].filter (·.node.isLeaf))
        (Record.leavesOfAll (Record.within around [record])) := by
  obtain ⟨-, rfl⟩ := Record.make_eq_ok.mp made
  obtain ⟨marked, same, tells⟩ := Record.tells_within own around text details [] []
  have apart : kind ≠ .union := by
    rintro rfl
    cases leaf with
    | either path left right options => cases single
    | _ => cases own
  have alone : Record.leaves (.mk kind (front ++ leaf.path) text details marked [] []) =
      [.mk kind (front ++ leaf.path) text details marked [] []] := by
    cases kind with
    | union => contradiction
    | type | key | rule => rfl
  rw [same]
  rw [List.filter_cons_of_pos (by exact single)]
  simp only [Record.nodesOfAll, Record.nodes, Record.leavesOfAll, alone, List.append_nil,
    List.filter_nil]
  exact ⟨.cons tells .nil, .cons tells .nil⟩

/-- The records of a failure with something around it tell of its nodes, and those that are left
if unions give way to their sides tell of its leaves. -/
theorem forall₂_tells_records
    {failure : Failure}
    (unnamed : failure.IsUnnamed)
    (around : List Enclosure)
    {found : List Record}
    (made : records backend front failure = .ok found) :
    List.Forall₂ (Record.Tells front) (failure.sites around)
        (Record.nodesOfAll (Record.within around found)) ∧
      List.Forall₂ (Record.Tells front) (failure.leafSites around)
        (Record.leavesOfAll (Record.within around found)) := by
  induction failure generalizing around found with
  | predicate path name args input =>
      obtain ⟨record, told, same⟩ := Attempt.bind_eq_ok.mp made
      cases same
      obtain ⟨text, -, built⟩ := Attempt.bind_eq_ok.mp told
      exact forall₂_tells_leaf rfl rfl around built
  | missing path =>
      obtain ⟨text, -, told⟩ := Attempt.bind_eq_ok.mp made
      obtain ⟨record, built, same⟩ := Attempt.bind_eq_ok.mp told
      cases same
      exact forall₂_tells_leaf rfl rfl around built
  | either path left right options leftHypothesis rightHypothesis =>
      obtain ⟨plain, ofLeft, ofRight⟩ := Failure.isUnnamed_either.mp unnamed
      obtain ⟨first, second, leftMade, rightMade, -, rfl⟩ := (records_either_eq_ok plain).mp made
      obtain ⟨leftNodes, leftLeaves⟩ := leftHypothesis ofLeft (.union :: around) leftMade
      obtain ⟨rightNodes, rightLeaves⟩ := rightHypothesis ofRight (.union :: around) rightMade
      have own : (Failure.either path left right options).recordKind? = some .union := rfl
      obtain ⟨marked, same, tells⟩ := Record.tells_within own around _ _ _ _
      rw [Failure.path] at same tells
      rw [same, Failure.leafSites_either, Failure.sites]
      simp only [Record.nodesOfAll, Record.nodes, Record.leavesOfAll, Record.leaves,
        List.append_nil]
      exact ⟨.cons tells (List.rel_append leftNodes rightNodes),
        List.rel_append leftLeaves rightLeaves⟩
  | several failures hypothesis =>
      rw [Failure.isUnnamed_several] at unnamed
      rw [records] at made
      rw [Failure.leafSites, Failure.sites]
      induction failures generalizing found with
      | nil =>
          rw [recordsOfAll_nil] at made
          cases made
          unfold Record.within
          split <;> exact ⟨.nil, .nil⟩
      | cons failure rest remaining =>
          obtain ⟨first, others, firstMade, othersMade, rfl⟩ := recordsOfAll_cons_eq_ok.mp made
          rw [List.forall_mem_cons] at hypothesis unnamed
          obtain ⟨ownNodes, ownLeaves⟩ := hypothesis.1 unnamed.1 around firstMade
          obtain ⟨restNodes, restLeaves⟩ := remaining hypothesis.2 unnamed.2 othersMade
          rw [Record.within_append, Record.nodesOfAll_append, Record.leavesOfAll_append,
            Failure.sitesOfAll, List.filter_append]
          exact ⟨List.rel_append ownNodes restNodes, List.rel_append ownLeaves restLeaves⟩
  | cast inner hypothesis =>
      rw [records] at made
      obtain ⟨unmarked, inside, rfl⟩ := Attempt.map_eq_ok.mp made
      rw [Record.within_map_markCast]
      exact hypothesis (Failure.isUnnamed_cast.mp unnamed) (.cast :: around) inside
  | rule path text =>
      obtain ⟨record, built, same⟩ := Attempt.bind_eq_ok.mp made
      cases same
      exact forall₂_tells_leaf rfl rfl around built

/-- Failures without named unions have records, in a backend that always has a text, if their
paths consist of segments. -/
theorem exists_records_iff
    (texts : ∀ name args input, ∃ text, backend.text name args input = .ok text)
    {failure : Failure}
    (unnamed : failure.IsUnnamed) :
    (∃ found, records backend front failure = .ok found) ↔
      ∀ node ∈ failure.nodes, ∀ segment ∈ front ++ node.path, segment.isSegment = true := by
  induction failure with
  | predicate path name args input =>
      obtain ⟨text, told⟩ := texts (.text name) args input
      simp [records, predicateRecord, told, Attempt.bind_eq_ok, Record.make_eq_ok, Failure.nodes,
        Failure.path]
  | missing path =>
      obtain ⟨text, told⟩ := texts (.text "has_key?") path.getLast?.toList .null
      simp [records, told, Attempt.bind_eq_ok, Record.make_eq_ok, Failure.nodes, Failure.path]
  | either path left right options leftHypothesis rightHypothesis =>
      obtain ⟨plain, ofLeft, ofRight⟩ := Failure.isUnnamed_either.mp unnamed
      have sides : (∀ node ∈ left.nodes ++ right.nodes, ∀ segment ∈ front ++ node.path,
            segment.isSegment = true) ↔
          (∃ found, records backend front left = .ok found) ∧
            ∃ found, records backend front right = .ok found := by
        rw [leftHypothesis ofLeft, rightHypothesis ofRight]
        exact List.forall_mem_append
      rw [Failure.nodes, List.forall_mem_cons, sides]
      simp only [records_either_eq_ok plain, List.all_eq_true, Failure.path]
      constructor
      · rintro ⟨_, first, second, leftMade, rightMade, usable, -⟩
        exact ⟨usable, ⟨first, leftMade⟩, ⟨second, rightMade⟩⟩
      · rintro ⟨usable, ⟨first, leftMade⟩, ⟨second, rightMade⟩⟩
        exact ⟨_, first, second, leftMade, rightMade, usable, rfl⟩
  | several failures hypothesis =>
      rw [Failure.isUnnamed_several] at unnamed
      simp only [records, Failure.nodes, Failure.mem_listNodes]
      constructor
      · rintro ⟨found, made⟩ node ⟨failure, listed, inside⟩
        exact (hypothesis failure listed (unnamed failure listed)).mp
          (exists_records_of_mem made listed) node inside
      · intro usable
        have each : ∀ failure ∈ failures, ∃ own, records backend front failure = .ok own ∧
            ∀ record ∈ own, (fun _ : Record => True) record := by
          intro failure listed
          obtain ⟨own, told⟩ := (hypothesis failure listed (unnamed failure listed)).mpr
            fun node inside => usable node ⟨failure, listed, inside⟩
          exact ⟨own, told, fun _ _ => trivial⟩
        obtain ⟨found, made, -⟩ := exists_recordsOfAll each
        exact ⟨found, made⟩
  | cast inner hypothesis =>
      rw [Failure.nodes, ← hypothesis (Failure.isUnnamed_cast.mp unnamed)]
      simp [records, Attempt.map_eq_ok]
  | rule path text =>
      simp [records, Attempt.bind_eq_ok, Record.make_eq_ok, Failure.nodes, Failure.path]

end Rendering

/-- Rendering loses and invents nothing. A failure without named unions has records as far as
its paths consist of segments. With the records of its sides in the place of every union there
is one record per leaf, in the order of the tree, with the kind of the leaf and with its path
below the front; and every record, those of unions included, is marked if its leaf or its union
lies in a cast with no union in between. -/
theorem render_tells_leaves
    (backend : MessageBackend)
    (texts : ∀ name args input, ∃ text, backend.text name args input = .ok text)
    (front : Path)
    (failure : Failure)
    (unnamed : failure.IsUnnamed) :
    (failure.leafSites []).map Failure.Site.node = failure.leaves ∧
    (failure.sites []).map Failure.Site.node = failure.nodes ∧
    ((∃ found, render backend front false failure = .ok found) ↔
      ∀ node ∈ failure.nodes, ∀ segment ∈ front ++ node.path, segment.isSegment = true) ∧
    ∀ found, render backend front false failure = .ok found →
      List.Forall₂ (Record.Tells front) (failure.leafSites []) (Record.leavesOfAll found) ∧
        List.Forall₂ (Record.Tells front) (failure.sites []) (Record.nodesOfAll found) := by
  have plain : render backend front false failure = records backend front failure := by
    rw [render]
    cases records backend front failure <;> rfl
  rw [plain]
  refine ⟨failure.map_node_leafSites [], failure.map_node_sites [],
    exists_records_iff texts unnamed, fun found made => ?_⟩
  obtain ⟨nodes, leaves⟩ := forall₂_tells_records unnamed [] made
  exact ⟨leaves, nodes⟩

/-- The backend that has the name of a predicate for its text. -/
def MessageBackend.naming : MessageBackend where
  text name _ _ := .ok name.plain

/-- What is wrong with a parcel: its weight was to be cast, and is neither a number nor a text
with a number in it; a name is missing, and a rule is broken on the other side. -/
def parcelFailure : Failure :=
  .several
    [.cast
      (.several
        [.either [.text "weight"]
          (.predicate [.text "weight"] "type?" [.text "integer", .null] .null)
          (.cast (.predicate [.text "weight"] "type?" [.text "string", .null] .null)) []]),
      .either []
        (.missing [.text "name"])
        (.several [.rule [.text "lines", .int 0] "too heavy", .rule [] "too many"])
        [("name", .null)]]

theorem render_tells_leaves_parcel :
    parcelFailure.IsUnnamed ∧ parcelFailure.leaves.length = 5 ∧
      ∃ found, render .naming [.text "parcels", .int 2] false parcelFailure = .ok found ∧
        List.Forall₂ (Record.Tells [.text "parcels", .int 2]) (parcelFailure.leafSites [])
          (Record.leavesOfAll found) ∧
        List.Forall₂ (Record.Tells [.text "parcels", .int 2]) (parcelFailure.sites [])
          (Record.nodesOfAll found) := by
  have unnamed : parcelFailure.IsUnnamed := by
    simp [Failure.IsUnnamed, parcelFailure, Failure.nodes, Failure.listNodes, Failure.isNamed,
      unionName?]
  obtain ⟨-, -, made, tells⟩ := render_tells_leaves .naming (fun name _ _ => ⟨name.plain, rfl⟩)
    [.text "parcels", .int 2] parcelFailure unnamed
  obtain ⟨found, rendered⟩ := made.mpr (by
    simp [parcelFailure, Failure.nodes, Failure.listNodes, Failure.path, Value.isSegment])
  exact ⟨unnamed, rfl, found, rendered, tells found rendered⟩

end DataContract
