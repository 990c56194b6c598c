import DataContract.Proofs.Report.Distinct
import DataContract.Proofs.Report.Listing

/-!
# Rearranged failures

Failures that are listed together were found independently of each other, and the order
in which they are listed means nothing. Sorting is meant to keep it out of the records.
It does so for the list of records as a whole, but the records of the two sides of a
union are not sorted: they come in the order of the tree.

This module says when two failures that differ only in the order of listed failures have
the same sorted records: exactly if their listings are the same up to order, where the
order inside the sides of a union without a name does count.
-/

namespace DataContract

namespace Failure

/-- Whether the second list has the failures of the first in any order, and inside them
the same again wherever failures are listed. -/
inductive Rearranged : List Failure → List Failure → Prop
  | nil : Rearranged [] []
  | same
      (failure : Failure)
      (rest before after : List Failure)
      (others : Rearranged rest (before ++ after)) :
      Rearranged (failure :: rest) (before ++ failure :: after)
  | several
      (failures listed rest before after : List Failure)
      (inside : Rearranged failures listed)
      (others : Rearranged rest (before ++ after)) :
      Rearranged (.several failures :: rest) (before ++ .several listed :: after)
  | either
      (path : Path)
      (left right newLeft newRight : Failure)
      (options : Options)
      (rest before after : List Failure)
      (onLeft : Rearranged [left] [newLeft])
      (onRight : Rearranged [right] [newRight])
      (others : Rearranged rest (before ++ after)) :
      Rearranged (.either path left right options :: rest)
        (before ++ .either path newLeft newRight options :: after)
  | cast
      (inner newInner : Failure)
      (rest before after : List Failure)
      (inside : Rearranged [inner] [newInner])
      (others : Rearranged rest (before ++ after)) :
      Rearranged (.cast inner :: rest) (before ++ .cast newInner :: after)

/-- Failures in another order are rearranged. -/
theorem Rearranged.of_perm
    {failures others : List Failure}
    (permuted : failures.Perm others) :
    Rearranged failures others := by
  induction failures generalizing others with
  | nil => rw [List.nil_perm.mp permuted]; exact .nil
  | cons failure rest hypothesis =>
      obtain ⟨before, after, rfl⟩ := List.append_of_mem (permuted.mem_iff.mp List.mem_cons_self)
      refine .same failure rest before after (hypothesis ?_)
      exact (List.perm_cons failure).mp (permuted.trans List.perm_middle)

/-- What has one member in the middle has no others. -/
theorem singleton_eq_middle
    {failure other : Failure}
    {before after : List Failure} :
    [other] = before ++ failure :: after ↔ before = [] ∧ after = [] ∧ other = failure := by
  cases before <;> simp [and_comm]

/-- A failed predicate past the type check is rearranged to itself only, and nothing
else is rearranged to one. -/
theorem Rearranged.isPastTypeCheck_eq
    {failure other : Failure}
    (rearranged : Rearranged [failure] [other]) :
    other.isPastTypeCheck = failure.isPastTypeCheck ∧
      (failure.isPastTypeCheck = true → other = failure) := by
  generalize single : [other] = others at rearranged
  cases rearranged with
  | same _ _ before after _ =>
      obtain ⟨-, -, rfl⟩ := singleton_eq_middle.mp single
      exact ⟨rfl, fun _ => rfl⟩
  | several | either | cast =>
      obtain ⟨-, -, rfl⟩ := singleton_eq_middle.mp single
      exact ⟨rfl, fun past => nomatch past⟩

/-- Rearranging the sides of a named union leaves the side that is precise about it as
it is. -/
theorem preciseSide?_of_rearranged
    {left right newLeft newRight : Failure}
    (onLeft : Rearranged [left] [newLeft])
    (onRight : Rearranged [right] [newRight]) :
    preciseSide? newLeft newRight = preciseSide? left right := by
  obtain ⟨leftPast, leftSame⟩ := onLeft.isPastTypeCheck_eq
  obtain ⟨rightPast, rightSame⟩ := onRight.isPastTypeCheck_eq
  unfold preciseSide?
  rw [leftPast, rightPast]
  cases first : left.isPastTypeCheck <;> cases second : right.isPastTypeCheck <;>
    simp_all

/-- What holds of single failures that are rearranged inside, and is kept when one more
failure is put anywhere, holds of all rearranged failures. -/
@[elab_as_elim] theorem Rearranged.induct
    {motive : ∀ failures others, Rearranged failures others → Prop}
    (nil : motive [] [] .nil)
    (insert : ∀ failure other rest before after
      (first : Rearranged [failure] [other]) (remaining : Rearranged rest (before ++ after))
      (whole : Rearranged (failure :: rest) (before ++ other :: after)),
      motive [failure] [other] first → motive rest (before ++ after) remaining →
        motive (failure :: rest) (before ++ other :: after) whole)
    (same : ∀ failure (whole : Rearranged [failure] [failure]),
      motive [failure] [failure] whole)
    (several : ∀ failures listed (inside : Rearranged failures listed)
      (whole : Rearranged [.several failures] [.several listed]),
      motive failures listed inside → motive [.several failures] [.several listed] whole)
    (either : ∀ path left right newLeft newRight options
      (onLeft : Rearranged [left] [newLeft]) (onRight : Rearranged [right] [newRight])
      (whole : Rearranged [.either path left right options]
        [.either path newLeft newRight options]),
      motive [left] [newLeft] onLeft → motive [right] [newRight] onRight →
        motive [.either path left right options] [.either path newLeft newRight options]
          whole)
    (cast : ∀ inner newInner (inside : Rearranged [inner] [newInner])
      (whole : Rearranged [.cast inner] [.cast newInner]),
      motive [inner] [newInner] inside → motive [.cast inner] [.cast newInner] whole)
    {failures others : List Failure}
    (rearranged : Rearranged failures others) :
    motive failures others rearranged := by
  induction rearranged with
  | nil => exact nil
  | same failure rest before after others hypothesis =>
      have first : Rearranged [failure] [failure] := .of_perm (List.Perm.refl _)
      exact insert _ _ rest before after first others _ (same failure first) hypothesis
  | several failures listed rest before after inside others hypothesis restHypothesis =>
      have first : Rearranged [Failure.several failures] [Failure.several listed] :=
        .several failures listed [] [] [] inside .nil
      exact insert _ _ rest before after first others _ (several _ _ _ first hypothesis)
        restHypothesis
  | either path left right newLeft newRight options rest before after onLeft onRight others
      leftHypothesis rightHypothesis restHypothesis =>
      have first : Rearranged [Failure.either path left right options]
          [Failure.either path newLeft newRight options] :=
        .either path left right newLeft newRight options [] [] [] onLeft onRight .nil
      exact insert _ _ rest before after first others _
        (either path _ _ _ _ options onLeft onRight first leftHypothesis rightHypothesis)
        restHypothesis
  | cast inner newInner rest before after inside others hypothesis restHypothesis =>
      have first : Rearranged [Failure.cast inner] [Failure.cast newInner] :=
        .cast inner newInner [] [] [] inside .nil
      exact insert _ _ rest before after first others _ (cast _ _ _ first hypothesis)
        restHypothesis

end Failure

section Records

variable
  {backend : MessageBackend}
  {front : Path}

/-- The record of two sides. -/
theorem records_either_eq_ok
    {path : Path}
    {left right : Failure}
    {options : Options}
    (unnamed : unionName? options = none)
    {found : List Record} :
    records backend front (.either path left right options) = .ok found ↔
      ∃ first second, records backend front left = .ok first ∧
        records backend front right = .ok second ∧
        (front ++ path).all Value.isSegment = true ∧
        found =
          [.mk .union (front ++ path)
            (joinSides (first.map Record.text) (second.map Record.text))
            [(.text "union", .bool true)] false first second] := by
  simp only [records, unnamed, Record.make, Attempt.bind_eq_ok, Except.ok.injEq]
  constructor
  · rintro ⟨first, leftMade, second, rightMade, record, made, rfl⟩
    split at made
    · rename_i usable
      cases made
      exact ⟨first, second, leftMade, rightMade, usable, rfl⟩
    · cases made
  · rintro ⟨first, second, leftMade, rightMade, usable, rfl⟩
    exact ⟨first, leftMade, second, rightMade, _, if_pos usable, rfl⟩

/-- A named union has the same record with any other sides that are equally precise. -/
theorem records_either_of_named
    {path : Path}
    {left right newLeft newRight : Failure}
    {options : Options}
    {name : Value}
    (named : unionName? options = some name)
    (precise : preciseSide? newLeft newRight = preciseSide? left right) :
    records backend front (.either path newLeft newRight options) =
      records backend front (.either path left right options) := by
  simp only [records, named, precise]

/-- Rearranged failures have records with the same places in some order. -/
theorem exists_records_of_rearranged
    {failures others : List Failure}
    (rearranged : Failure.Rearranged failures others)
    {found : List Record}
    (reported : recordsOfAll backend front failures = .ok found) :
    ∃ moved, recordsOfAll backend front others = .ok moved ∧
      (found.map Record.place).Perm (moved.map Record.place) := by
  induction rearranged using Failure.Rearranged.induct generalizing found with
  | nil => exact ⟨found, reported, List.Perm.refl _⟩
  | same failure => exact ⟨found, reported, List.Perm.refl _⟩
  | insert failure other rest before after _ _ _ hypothesis restHypothesis =>
      obtain ⟨single, around, made, remaining, rfl⟩ := recordsOfAll_cons_eq_ok.mp reported
      rw [← recordsOfAll_singleton] at made
      obtain ⟨middle, remade, places⟩ := hypothesis made
      rw [recordsOfAll_singleton] at remade
      obtain ⟨_, moved, aroundPlaces⟩ := restHypothesis remaining
      obtain ⟨first, last, early, late, rfl⟩ := recordsOfAll_append_eq_ok.mp moved
      refine ⟨first ++ (middle ++ last), ?_, ?_⟩
      · exact recordsOfAll_append_eq_ok.mpr
          ⟨first, _, early, recordsOfAll_cons_eq_ok.mpr ⟨middle, last, remade, late, rfl⟩, rfl⟩
      · simp only [List.map_append] at aroundPlaces ⊢
        exact (places.append aroundPlaces).trans (List.perm_append_comm_assoc _ _ _)
  | several failures listed _ _ hypothesis =>
      rw [recordsOfAll_singleton, records] at reported ⊢
      exact hypothesis reported
  | either path left right newLeft newRight options onLeft onRight _ leftHypothesis
      rightHypothesis =>
      simp only [recordsOfAll_singleton] at reported leftHypothesis rightHypothesis ⊢
      cases named : unionName? options with
      | some name =>
          have precise := Failure.preciseSide?_of_rearranged onLeft onRight
          rw [records_either_of_named named precise]
          exact ⟨found, reported, List.Perm.refl _⟩
      | none =>
          obtain ⟨first, second, leftMade, rightMade, usable, rfl⟩ :=
            (records_either_eq_ok named).mp reported
          obtain ⟨newFirst, newLeftMade, -⟩ := leftHypothesis leftMade
          obtain ⟨newSecond, newRightMade, -⟩ := rightHypothesis rightMade
          refine ⟨_, (records_either_eq_ok named).mpr
            ⟨newFirst, newSecond, newLeftMade, newRightMade, usable, rfl⟩, ?_⟩
          exact List.Perm.refl _
  | cast inner newInner _ _ hypothesis =>
      simp only [recordsOfAll_singleton, records, Attempt.map_eq_ok] at reported hypothesis ⊢
      obtain ⟨unmarked, made, rfl⟩ := reported
      obtain ⟨moved, remade, places⟩ := hypothesis made
      refine ⟨_, ⟨moved, remade, rfl⟩, ?_⟩
      simpa [Function.comp_def] using places.map fun place => (place.1, true)

/-- Whether the records of failures, if they are distinct, tell that other failures have the
same listing: up to order if their records are the same up to order, and in the same order if
their records are. -/
def RecordsTellListing
    (backend : MessageBackend)
    (front : Path)
    (failures others : List Failure) : Prop :=
  ∀ found moved, recordsOfAll backend front failures = .ok found →
    recordsOfAll backend front others = .ok moved → Record.AreDistinct found →
      (found.Perm moved →
        (Failure.listingOfAll failures).Perm (Failure.listingOfAll others)) ∧
      (found = moved → Failure.listingOfAll failures = Failure.listingOfAll others)

/-- Records tell the listing of one failure more, wherever it is put. Distinct keys keep its
records apart from those around it. -/
theorem RecordsTellListing.insert
    {failure other : Failure}
    {rest before after : List Failure}
    (first : Failure.Rearranged [failure] [other])
    (alone : RecordsTellListing backend front [failure] [other])
    (others : RecordsTellListing backend front rest (before ++ after)) :
    RecordsTellListing backend front (failure :: rest) (before ++ other :: after) := by
  intro found moved reported remade distinct
  obtain ⟨single, around, made, left, rfl⟩ := recordsOfAll_cons_eq_ok.mp reported
  obtain ⟨early, _, earlyMade, later, rfl⟩ := recordsOfAll_append_eq_ok.mp remade
  obtain ⟨middle, late, middleMade, lateMade, rfl⟩ := recordsOfAll_cons_eq_ok.mp later
  have aroundMade : recordsOfAll backend front (before ++ after) = .ok (early ++ late) :=
    recordsOfAll_append_eq_ok.mpr ⟨early, late, earlyMade, lateMade, rfl⟩
  rw [← recordsOfAll_singleton] at made middleMade
  obtain ⟨again, remade, places⟩ := exists_records_of_rearranged first made
  obtain rfl : again = middle := Except.ok.inj (remade.symm.trans middleMade)
  have keys := paths_of_places places
  have nodup := Record.nodup_of_areDistinct distinct
  obtain ⟨singleDistinct, aroundDistinct⟩ := Record.areDistinct_append distinct
  obtain ⟨singlePerm, singleSame⟩ := alone _ _ made middleMade singleDistinct
  obtain ⟨aroundPerm, aroundSame⟩ := others _ _ left aroundMade aroundDistinct
  simp only [Failure.listingOfAll_append, Failure.listingOfAll, List.append_nil] at *
  constructor
  · intro whole
    obtain ⟨front, back⟩ := perm_append_of_keys nodup
      (whole.trans (List.perm_append_comm_assoc _ _ _)) keys
    exact ((singlePerm front).append (aroundPerm back)).trans
      (List.perm_append_comm_assoc _ _ _)
  · intro whole
    rcases append_eq_of_keys nodup whole keys with ⟨rfl, rfl⟩ | ⟨rfl, rfl⟩
    · have firstEmpty : failure.listing = [] := by
        simpa [Failure.listingOfAll] using listingOfAll_eq_nil made
      have otherEmpty : other.listing = [] := by
        simpa [Failure.listingOfAll] using listingOfAll_eq_nil middleMade
      simpa [firstEmpty, otherEmpty] using aroundSame (by simpa using whole)
    · have beforeEmpty : Failure.listingOfAll before = [] := listingOfAll_eq_nil earlyMade
      simpa [beforeEmpty, singleSame rfl] using aroundSame (by simpa using whole)

/-- The record of a union without a name tells the listing of both sides, in their order. -/
theorem RecordsTellListing.either
    {path : Path}
    {left right newLeft newRight : Failure}
    {options : Options}
    (unnamed : unionName? options = none)
    (lefts : RecordsTellListing backend front [left] [newLeft])
    (rights : RecordsTellListing backend front [right] [newRight]) :
    RecordsTellListing backend front [.either path left right options]
      [.either path newLeft newRight options] := by
  intro found moved reported remade distinct
  rw [recordsOfAll_singleton] at reported remade
  obtain ⟨first, second, leftMade, rightMade, -, rfl⟩ :=
    (records_either_eq_ok unnamed).mp reported
  obtain ⟨newFirst, newSecond, newLeftMade, newRightMade, -, rfl⟩ :=
    (records_either_eq_ok unnamed).mp remade
  simp only [Record.AreDistinct, Record.HasDistinctSides] at distinct
  obtain ⟨-, -, ⟨leftDistinct, rightDistinct⟩, -⟩ := distinct
  rw [← recordsOfAll_singleton] at leftMade rightMade newLeftMade newRightMade
  have leftSame := (lefts _ _ leftMade newLeftMade leftDistinct).2
  have rightSame := (rights _ _ rightMade newRightMade rightDistinct).2
  simp only [Failure.listingOfAll, List.append_nil] at leftSame rightSame ⊢
  have sides (same : first = newFirst ∧ second = newSecond) :
      Failure.listing (.either path left right options) =
        Failure.listing (.either path newLeft newRight options) := by
    simp [Failure.listing, unnamed, leftSame same.1, rightSame same.2]
  constructor
  · intro whole
    have whole := List.singleton_perm_singleton.mp whole
    injection whole with _ _ _ _ _ leftEq rightEq
    exact .of_eq (sides ⟨leftEq, rightEq⟩)
  · intro whole
    have whole := List.cons.inj whole
    injection whole.1 with _ _ _ _ _ leftEq rightEq
    exact sides ⟨leftEq, rightEq⟩

/-- The marked records of a cast tell the listing of what is in it. -/
theorem RecordsTellListing.cast
    {inner newInner : Failure}
    (inside : Failure.Rearranged [inner] [newInner])
    (told : RecordsTellListing backend front [inner] [newInner]) :
    RecordsTellListing backend front [.cast inner] [.cast newInner] := by
  intro found moved reported remade distinct
  simp only [recordsOfAll_singleton, records, Attempt.map_eq_ok] at reported remade
  obtain ⟨unmarked, made, rfl⟩ := reported
  obtain ⟨unmoved, remade, rfl⟩ := remade
  rw [← recordsOfAll_singleton] at made remade
  obtain ⟨again, moved, places⟩ := exists_records_of_rearranged inside made
  obtain rfl : again = unmoved := Except.ok.inj (moved.symm.trans remade)
  have innerDistinct := Record.areDistinct_map_markCast distinct
  have nodup := Record.nodup_of_areDistinct innerDistinct
  obtain ⟨permSame, listSame⟩ := told _ _ made remade innerDistinct
  simp only [Failure.listingOfAll, Failure.listing, List.append_nil] at permSame listSame ⊢
  constructor
  · intro marked
    exact (permSame (perm_of_map_markCast nodup places marked)).map _
  · intro marked
    have perm := perm_of_map_markCast nodup places (.of_eq marked)
    have paths : unmarked.map Record.path = again.map Record.path := by
      simpa [Function.comp_def] using congrArg (List.map Record.path) marked
    rw [listSame (eq_of_perm_of_keys nodup perm paths)]

/-- The distinct records of rearranged failures tell their listing. -/
theorem recordsTellListing_of_rearranged
    {failures others : List Failure}
    (rearranged : Failure.Rearranged failures others) :
    RecordsTellListing backend front failures others := by
  induction rearranged using Failure.Rearranged.induct with
  | nil => exact fun _ _ _ _ _ => ⟨fun _ => List.Perm.refl _, fun _ => rfl⟩
  | same failure => exact fun _ _ _ _ _ => ⟨fun _ => List.Perm.refl _, fun _ => rfl⟩
  | insert failure other rest before after first _ _ hypothesis restHypothesis =>
      exact .insert first hypothesis restHypothesis
  | several failures listed _ _ hypothesis =>
      intro found moved reported remade distinct
      rw [recordsOfAll_singleton, records] at reported remade
      simpa [Failure.listing, Failure.listingOfAll] using
        hypothesis found moved reported remade distinct
  | either path left right newLeft newRight options onLeft onRight _ leftHypothesis
      rightHypothesis =>
      cases named : unionName? options with
      | some name =>
          have precise := Failure.preciseSide?_of_rearranged onLeft onRight
          intro found moved _ _ _
          simp [Failure.listing, Failure.listingOfAll, named, precise]
      | none => exact .either named leftHypothesis rightHypothesis
  | cast inner newInner inside _ hypothesis => exact .cast inside hypothesis

/-- Rearranging a failure leaves the paths of its sorted records as they are, and the
records themselves exactly if the listing of the failure stays the same up to order. -/
theorem render_rearranged_iff
    (backend : MessageBackend)
    (front : Path)
    (failure other : Failure)
    (rearranged : Failure.Rearranged [failure] [other])
    (emitted : List Record)
    (reported : records backend front failure = .ok emitted)
    (distinct : Record.AreDistinct emitted) :
    ∃ found moved, render backend front true failure = .ok found ∧
      render backend front true other = .ok moved ∧
      found.map Record.path = moved.map Record.path ∧
      (found = moved ↔ failure.listing.Perm other.listing) := by
  rw [← recordsOfAll_singleton] at reported
  obtain ⟨changed, remade, places⟩ := exists_records_of_rearranged rearranged reported
  have keys := nodup_sortKey distinct
  have listings := (recordsTellListing_of_rearranged rearranged _ _ reported remade distinct).1
  have paths := paths_of_places places
  have sortable : ∀ path ∈ emitted.map Record.path, ∀ segment ∈ path,
      segment.isSortable = true := by
    rw [List.forall_mem_map]
    intro record member segment inside
    exact Value.isSortable_of_isNameOrIndex
      (isNameOrIndex_of_areDistinct distinct record member segment inside)
  have moved : ∀ path ∈ changed.map Record.path, ∀ segment ∈ path,
      segment.isSortable = true :=
    fun path member => sortable path (paths.mem_iff.mpr member)
  rw [List.forall_mem_map] at sortable moved
  rw [recordsOfAll_singleton] at reported remade
  refine ⟨sortRecords emitted, sortRecords changed,
    render_eq_ok.mpr ⟨emitted, reported, fun _ => sortable, rfl⟩,
    render_eq_ok.mpr ⟨changed, remade, fun _ => moved, rfl⟩, ?_, ?_, ?_⟩
  · have apart :
        (((sortRecords emitted).map Record.path).map (List.map SegmentKey.ofSegment)).Nodup := by
      rw [List.map_map]
      exact ((sortRecords_perm emitted).map Record.sortKey).nodup_iff.mpr keys
    have permuted :
        ((sortRecords emitted).map Record.path).Perm
          ((sortRecords changed).map Record.path) :=
      ((sortRecords_perm emitted).map _).trans
        (paths.trans ((sortRecords_perm changed).map _).symm)
    refine eq_of_perm_of_keys apart permuted ?_
    rw [List.map_map, List.map_map]
    refine map_sortKey_sortRecords ?_
    have keyed := paths.map (List.map SegmentKey.ofSegment)
    rwa [List.map_map, List.map_map] at keyed
  · intro same
    have permuted : emitted.Perm changed :=
      (sortRecords_perm emitted).symm.trans (same ▸ sortRecords_perm changed)
    simpa [Failure.listingOfAll] using listings permuted
  · intro permuted
    rw [← records_listing] at reported
    obtain ⟨again, made, moved⟩ := exists_records_of_perm permuted reported
    rw [records_listing, remade] at made
    cases made
    exact sortRecords_eq_of_perm keys moved

end Records

/-! ## A union of a map and a list -/

/-- What is wrong with an empty map as a map with two keys or as a list, with the missing
keys in an order of their own. -/
def failedSides (first second : String) : Failure :=
  .either []
    (.several [.missing [.text first], .missing [.text second]])
    (.predicate [] "type?" [.text "list", .map []] (.map [])) []

theorem failedSides_rearranged (first second : String) :
    Failure.Rearranged [failedSides first second] [failedSides second first] := by
  refine .either [] _ _ _ _ [] [] [] [] ?_ (.of_perm (List.Perm.refl _)) .nil
  exact .several _ _ [] [] [] (.of_perm (List.Perm.swap _ _ _)) .nil

theorem render_rearranged_iff_failedSides :
    ∃ found,
      render .default [.text "cart"] true
          (.several
            [failedSides "b" "a",
              .cast (.several [.missing [.text "d"], .missing [.text "c"]])]) =
        .ok found ∧
      render .default [.text "cart"] true
          (.several
            [.cast (.several [.missing [.text "c"], .missing [.text "d"]]),
              failedSides "b" "a"]) =
        .ok found := by
  have inside : Failure.Rearranged
      [.several [.missing [.text "d"], .missing [.text "c"]]]
      [.several [.missing [.text "c"], .missing [.text "d"]]] :=
    .several _ _ [] [] [] (.of_perm (List.Perm.swap _ _ _)) .nil
  have moved : Failure.Rearranged
      [failedSides "b" "a", .cast (.several [.missing [.text "d"], .missing [.text "c"]])]
      [.cast (.several [.missing [.text "c"], .missing [.text "d"]]), failedSides "b" "a"] :=
    .same (failedSides "b" "a") _ [.cast _] [] (.cast _ _ [] [] [] inside .nil)
  obtain ⟨found, again, rendered, rerendered, -, same⟩ :=
    render_rearranged_iff .default [.text "cart"] _ _ (.several _ _ [] [] [] moved .nil) _ rfl
      (by
        simp [Record.AreDistinct, Record.HasDistinctSides, Record.path, Record.markCast,
          Value.isNameOrIndex])
  have backwards (first second third : Failure) :
      [first, second, third].Perm [third, second, first] :=
    List.reverse_perm [third, second, first]
  rw [← same.mpr (backwards _ _ _)] at rerendered
  exact ⟨found, rendered, rerendered⟩

/-- The record of a missing key. -/
def missingRecord (name : String) : Record :=
  .mk .key [.text name] "key must be present" (predicateDetails "has_key?" [.text name]) false
    [] []

/-- The record of an empty map as a map with two keys or as a list. -/
def failedSidesRecord (first second : String) : Record :=
  .mk .union []
    (joinSides ["key must be present", "key must be present"] ["must be a list"])
    [(.text "union", .bool true)] false
    [missingRecord first, missingRecord second]
    [.mk .type [] "must be a list"
      (predicateDetails "type?" [.text "list", .map []]) false [] []]

theorem records_failedSides (first second : String) :
    records .default [] (failedSides first second) =
      .ok [failedSidesRecord first second] := rfl

/-- The missing keys of a side of a union without a name are reported in the order in
which they were found, although the records are sorted. -/
theorem sides_keep_order :
    Failure.Rearranged [failedSides "b" "a"] [failedSides "a" "b"] ∧
      Record.AreDistinct [failedSidesRecord "b" "a"] ∧
      records .default [] (failedSides "b" "a") = .ok [failedSidesRecord "b" "a"] ∧
      render .default [] true (failedSides "b" "a") = .ok [failedSidesRecord "b" "a"] ∧
      render .default [] true (failedSides "a" "b") = .ok [failedSidesRecord "a" "b"] ∧
      failedSidesRecord "b" "a" ≠ failedSidesRecord "a" "b" := by
  refine ⟨failedSides_rearranged "b" "a", ?_, records_failedSides "b" "a", ?_, ?_, ?_⟩
  · simp [Record.AreDistinct, Record.HasDistinctSides, failedSidesRecord, missingRecord,
      Record.path, Value.isNameOrIndex]
  · exact render_eq_ok.mpr
      ⟨_, records_failedSides "b" "a", by simp [failedSidesRecord, Record.path],
        by simp [sortRecords]⟩
  · exact render_eq_ok.mpr
      ⟨_, records_failedSides "a" "b", by simp [failedSidesRecord, Record.path],
        by simp [sortRecords]⟩
  · simp [failedSidesRecord, missingRecord]

end DataContract
