import DataContract.Proofs.Report.Leaf
import DataContract.Proofs.Report.Order

/-!
# A total and stable order

Records are sorted by their paths. Of two segments at the same place numbers come first, in
their order, and all others follow in the order of their texts; a path comes before its own
extensions. This order puts any two paths one before the other, except those that are the same
number or the same text all along. Of records with such paths the one that was first stays
first, so that nothing about the sorted records is left open.
-/

namespace DataContract

open Std

namespace Value

/-- A segment before another: numbers in their order, then all others in the order of their
texts. -/
inductive SortsBefore (segment other : Value) : Prop
  | number
      {first second : Int}
      (isFirst : segment.whole? = some first)
      (isSecond : other.whole? = some second)
      (less : first < second)
  | numberFirst
      {first : Int}
      (isFirst : segment.whole? = some first)
      (isText : other.whole? = none)
  | text
      (isFirst : segment.whole? = none)
      (isSecond : other.whole? = none)
      (less : segment.plain < other.plain)

/-- Two segments of which neither is before the other: the same number twice, or the same
text. -/
inductive SortsWith (segment other : Value) : Prop
  | number
      {shared : Int}
      (isFirst : segment.whole? = some shared)
      (isSecond : other.whole? = some shared)
  | text
      (isFirst : segment.whole? = none)
      (isSecond : other.whole? = none)
      (same : segment.plain = other.plain)

end Value

/-- A path before another: they are tied up to some place, where the one ends or has the
segment that comes first. -/
inductive Path.SortsBefore : Path → Path → Prop
  | extension
      (segment : Value)
      (rest : Path) :
      SortsBefore [] (segment :: rest)
  | segment
      {segment other : Value}
      {rest others : Path}
      (before : segment.SortsBefore other) :
      SortsBefore (segment :: rest) (other :: others)
  | rest
      {segment other : Value}
      {rest others : Path}
      (tied : segment.SortsWith other)
      (before : SortsBefore rest others) :
      SortsBefore (segment :: rest) (other :: others)

/-- Two paths of which neither is before the other: their segments are tied. -/
def Path.SortsWith : Path → Path → Prop :=
  List.Forall₂ Value.SortsWith

namespace SegmentKey

theorem compare_ofSegment_eq_lt
    {segment other : Value} :
    compare (ofSegment segment) (ofSegment other) = .lt ↔ segment.SortsBefore other := by
  constructor
  · intro less
    unfold ofSegment at less
    split at less
    · split at less
      · exact .number ‹_› ‹_› (Int.compare_eq_lt.mp less)
      · exact .numberFirst ‹_› ‹_›
    · split at less
      · cases less
      · exact .text ‹_› ‹_› (compareOfLessAndEq_eq_lt.mp less)
  · rintro (⟨first, second, less⟩ | ⟨first, second⟩ | ⟨first, second, less⟩)
    · simp only [ofSegment, first, second, compare]
      exact Int.compare_eq_lt.mpr less
    · simp only [ofSegment, first, second, compare]
    · simp only [ofSegment, first, second, compare]
      exact compareOfLessAndEq_eq_lt.mpr less

theorem compare_ofSegment_eq_eq
    {segment other : Value} :
    compare (ofSegment segment) (ofSegment other) = .eq ↔ segment.SortsWith other := by
  rw [LawfulEqCmp.compare_eq_iff_eq]
  constructor
  · intro same
    unfold ofSegment at same
    split at same
    · split at same
      · cases same
        exact .number ‹_› ‹_›
      · cases same
    · split at same
      · cases same
      · exact .text ‹_› ‹_› (by simpa using same)
  · rintro (⟨first, second⟩ | ⟨first, second, same⟩)
    · simp [ofSegment, first, second]
    · simp [ofSegment, first, second, same]

theorem comparePaths_eq_lt
    {path other : Path} :
    comparePaths (path.map ofSegment) (other.map ofSegment) = .lt ↔ path.SortsBefore other := by
  induction path generalizing other with
  | nil =>
      cases other with
      | nil => exact ⟨nofun, nofun⟩
      | cons first others => exact ⟨fun _ => .extension first others, fun _ => rfl⟩
  | cons segment rest hypothesis =>
      cases other with
      | nil => exact ⟨nofun, nofun⟩
      | cons first others =>
          simp only [List.map_cons, comparePaths]
          constructor
          · intro less
            split at less
            · exact .rest (compare_ofSegment_eq_eq.mp ‹_›) (hypothesis.mp less)
            · exact .segment (compare_ofSegment_eq_lt.mp less)
          · rintro (_ | before | ⟨tied, before⟩)
            · rw [compare_ofSegment_eq_lt.mpr before]
            · rw [compare_ofSegment_eq_eq.mpr tied]
              exact hypothesis.mpr before

theorem comparePaths_eq_eq
    {path other : Path} :
    comparePaths (path.map ofSegment) (other.map ofSegment) = .eq ↔ path.SortsWith other := by
  induction path generalizing other with
  | nil => cases other <;> simp [comparePaths, Path.SortsWith]
  | cons segment rest hypothesis =>
      cases other with
      | nil => simp [comparePaths, Path.SortsWith]
      | cons first others =>
          rw [Path.SortsWith, List.forall₂_cons, ← compare_ofSegment_eq_eq, ← Path.SortsWith,
            ← hypothesis]
          simp only [List.map_cons, comparePaths]
          split
          · simp [*]
          · simp_all

/-- Paths are tied if they have the same keys. -/
theorem map_ofSegment_eq_iff
    {path other : Path} :
    path.map ofSegment = other.map ofSegment ↔ path.SortsWith other := by
  rw [← comparePaths_eq_eq, LawfulEqCmp.compare_eq_iff_eq]

end SegmentKey

instance (path other : Path) : Decidable (path.SortsWith other) :=
  decidable_of_iff _ SegmentKey.map_ofSegment_eq_iff

namespace Path

/-- The order of paths goes one way only. -/
instance : IsStrictOrder Path SortsBefore where
  irrefl path before := by
    have same : SegmentKey.comparePaths (path.map .ofSegment) (path.map .ofSegment) = .eq :=
      ReflCmp.compare_self
    rw [← SegmentKey.comparePaths_eq_lt, same] at before
    cases before
  trans path middle other first second := by
    rw [← SegmentKey.comparePaths_eq_lt] at *
    exact TransCmp.lt_trans first second

/-- Any two paths can be compared: those of which neither comes first are tied. -/
theorem sortsWith_iff
    {path other : Path} :
    path.SortsWith other ↔ ¬ path.SortsBefore other ∧ ¬ other.SortsBefore path := by
  have after : SegmentKey.comparePaths (path.map .ofSegment) (other.map .ofSegment) = .gt ↔
      other.SortsBefore path :=
    OrientedCmp.gt_iff_lt.trans SegmentKey.comparePaths_eq_lt
  rw [← SegmentKey.comparePaths_eq_lt, ← SegmentKey.comparePaths_eq_eq, ← after]
  cases SegmentKey.comparePaths (path.map .ofSegment) (other.map .ofSegment) <;> simp

end Path

/-! ## Sorted records -/

/-- Whether records are others sorted: the same ones, in the order of their paths, and those
with tied paths in the order that they had. -/
structure IsSorting (found sorted : List Record) : Prop where
  /-- They are the same records. -/
  perm : sorted.Perm found
  /-- None comes before an earlier one. -/
  ordered : sorted.Pairwise fun earlier later =>
    earlier.path.SortsBefore later.path ∨ earlier.path.SortsWith later.path
  /-- Those that are tied with a path are in the order that they had. -/
  stable : ∀ path : Path,
    sorted.filter (fun record => record.path.SortsWith path) =
      found.filter fun record => record.path.SortsWith path

theorem Record.isLE_comparePaths_iff
    {record other : Record} :
    (SegmentKey.comparePaths record.sortKey other.sortKey).isLE = true ↔
      record.path.SortsBefore other.path ∨ record.path.SortsWith other.path := by
  rw [← SegmentKey.comparePaths_eq_lt, ← SegmentKey.comparePaths_eq_eq, ← sortKey, ← sortKey]
  cases SegmentKey.comparePaths record.sortKey other.sortKey <;> simp

/-- Records in the same order of keys are the same if for every key the same ones have it, in
the same order: the first records of both are the first ones that are tied with their path. -/
theorem eq_of_map_sortKey_of_filter
    {records others : List Record}
    (keys : records.map Record.sortKey = others.map Record.sortKey)
    (tied : ∀ path : Path,
      records.filter (fun record => record.path.SortsWith path) =
        others.filter fun record => record.path.SortsWith path) :
    records = others := by
  induction records generalizing others with
  | nil => simpa [eq_comm] using keys
  | cons record rest hypothesis =>
      cases others with
      | nil => simp at keys
      | cons first others =>
          simp only [List.map_cons, List.cons.injEq] at keys
          have own : record.path.SortsWith record.path := SegmentKey.map_ofSegment_eq_iff.mp rfl
          have other : first.path.SortsWith record.path :=
            SegmentKey.map_ofSegment_eq_iff.mp keys.1.symm
          have heads := tied record.path
          simp only [List.filter_cons, own, other, decide_true, if_true, List.cons.injEq] at heads
          obtain ⟨rfl, -⟩ := heads
          refine congrArg _ (hypothesis keys.2 fun path => ?_)
          have shared := tied path
          simp only [List.filter_cons] at shared
          split at shared
          · exact List.cons_inj_right _ |>.mp shared
          · exact shared

/-- There is only one way to sort records. -/
theorem IsSorting.unique
    {found sorted other : List Record}
    (first : IsSorting found sorted)
    (second : IsSorting found other) :
    sorted = other := by
  have ordered {records : List Record} (sorting : IsSorting found records) :
      (records.map Record.sortKey).Pairwise fun earlier later =>
        (SegmentKey.comparePaths earlier later).isLE = true := by
    simpa only [List.pairwise_map, Record.isLE_comparePaths_iff] using sorting.ordered
  apply eq_of_map_sortKey_of_filter
  · exact List.Perm.eq_of_pairwise (fun _ _ _ _ => SegmentKey.eq_of_comparePaths)
      (ordered first) (ordered second) ((first.perm.trans second.perm.symm).map _)
  · exact fun path => (first.stable path).trans (second.stable path).symm

/-- Records are sorted. -/
theorem isSorting_sortRecords (found : List Record) : IsSorting found (sortRecords found) where
  perm := sortRecords_perm found
  ordered := (pairwise_sortRecords found).imp Record.isLE_comparePaths_iff.mp
  stable path := by
    have tied : (found.filter fun record => record.path.SortsWith path).Pairwise
        fun earlier later =>
          (SegmentKey.comparePaths earlier.sortKey later.sortKey).isLE = true := by
      refine List.pairwise_of_forall_mem_list fun first member second other => ?_
      have same : first.sortKey = path.map SegmentKey.ofSegment :=
        SegmentKey.map_ofSegment_eq_iff.mpr (by simpa using (List.mem_filter.mp member).2)
      have also : second.sortKey = path.map SegmentKey.ofSegment :=
        SegmentKey.map_ofSegment_eq_iff.mpr (by simpa using (List.mem_filter.mp other).2)
      rw [same, also]
      exact ReflCmp.isLE_rfl
    have kept : (found.filter fun record => record.path.SortsWith path).Sublist
        (sortRecords found) := by
      rw [sortRecords_eq_mergeSort]
      exact List.sublist_mergeSort (fun _ _ _ => TransCmp.isLE_trans) isLE_comparePaths_total tied
        List.filter_sublist
    have inside := kept.filter fun record => record.path.SortsWith path
    rw [List.filter_filter] at inside
    simp only [Bool.and_self] at inside
    exact (inside.eq_of_length ((sortRecords_perm found).filter _).length_eq.symm).symm

/-- A segment has something to be sorted by if it is a scalar or has a text. -/
theorem Value.isSortable_iff
    {segment : Value} :
    segment.isSortable = true ↔
      (∃ content, segment = .scalar content) ∨ segment.hasPlain = true := by
  cases segment with
  | scalar content => cases content <;> simp [isSortable, whole?, hasPlain, isWritable]
  | _ => simp [isSortable, whole?]

/-- The paths of records are in a total order, and no comparison of them fails. Records can be
sorted exactly if each segment of their paths that is not a scalar has a text, and nothing else
stops sorting than that one has none. There is one way to sort them that keeps those with tied
paths in their order, and they are sorted in this way. -/
theorem render_sorts
    (backend : MessageBackend)
    (front : Path)
    (failure : Failure)
    (found : List Record)
    (made : render backend front false failure = .ok found) :
    IsStrictOrder Path Path.SortsBefore ∧
    (∀ path other : Path,
      path.SortsWith other ↔ ¬ path.SortsBefore other ∧ ¬ other.SortsBefore path) ∧
    ((∃ sorted, render backend front true failure = .ok sorted) ↔
      ∀ record ∈ found, ∀ segment ∈ record.path,
        (∃ content, segment = .scalar content) ∨ segment.hasPlain = true) ∧
    (∀ fault, render backend front true failure = .error fault → fault = .badContent) ∧
    ∀ sorted, render backend front true failure = .ok sorted →
      IsSorting found sorted ∧ ∀ other, IsSorting found other → other = sorted := by
  obtain ⟨emitted, inside, -, rfl⟩ := render_eq_ok.mp made
  have sorts (sorted : List Record) :
      render backend front true failure = .ok sorted ↔
        (∀ record ∈ found, ∀ segment ∈ record.path,
          (∃ content, segment = .scalar content) ∨ segment.hasPlain = true) ∧
          sorted = sortRecords found := by
    simp [render_eq_ok, inside, Value.isSortable_iff]
  refine ⟨inferInstance, fun _ _ => Path.sortsWith_iff, by simp [sorts],
    fun fault stopped => ((render_eq_error made).mp stopped).2, fun sorted rendered => ?_⟩
  obtain ⟨-, rfl⟩ := (sorts sorted).mp rendered
  exact ⟨isSorting_sortRecords found, fun other sorting =>
    sorting.unique (isSorting_sortRecords found)⟩

/-- Broken rules at paths whose segments are of many kinds, the third and the last of which have
the same key. -/
def shelfFailure : Failure :=
  .several
    [.rule [.text "b"] "first",
      .rule [.tuple [.text "z", .null], .text "a"] "second",
      .rule [.int 1, .member "Shelf" "top" (.text "t")] "third",
      .cast (.rule [.null] "fourth"),
      .rule [] "fifth",
      .rule [.text "b", .float (.infinite true)] "sixth",
      .rule [.bool true, .text "Shelf.top"] "seventh"]

theorem render_sorts_shelf :
    ∃ found sorted, render .naming [] false shelfFailure = .ok found ∧
      render .naming [] true shelfFailure = .ok sorted ∧ IsSorting found sorted := by
  obtain ⟨found, made⟩ : ∃ found, render .naming [] false shelfFailure = .ok found := ⟨_, rfl⟩
  obtain ⟨-, -, sortable, -, sorts⟩ := render_sorts .naming [] shelfFailure found made
  obtain ⟨sorted, rendered⟩ := sortable.mpr (by
    cases made
    simp [Record.path, Record.markCast, Value.hasPlain, Value.isWritable, Value.areWritable])
  exact ⟨found, sorted, made, rendered, (sorts sorted rendered).1⟩

/-- A broken rule at a place in a tuple with a whole number that is too long for a text. -/
def distantFailure : Failure :=
  .rule [.tuple [.int wholeTextLimit]] "out of sight"

/-- There is one record of the broken rule at the distant place. It cannot be sorted, since the
tuple in its path has no text. -/
theorem render_distant_stops :
    render .naming [] false distantFailure =
      .ok [.mk .rule [.tuple [.int wholeTextLimit]] "out of sight" [] false [] []] ∧
    render .naming [] true distantFailure = .error .badContent := by
  have made : render .naming [] false distantFailure =
      .ok [.mk .rule [.tuple [.int wholeTextLimit]] "out of sight" [] false [] []] := rfl
  have unsortable (number : Int) (long : wholeTextLimit ≤ number.natAbs) :
      (Value.tuple [.int number]).isSortable = false := by
    simpa [Value.isSortable, Value.whole?, Value.hasPlain, Value.isWritable, Value.areWritable]
      using long
  exact ⟨made, (render_eq_error made).mpr
    ⟨⟨_, List.mem_singleton_self _, _, List.mem_singleton_self _,
      unsortable _ (Nat.le_of_eq (Int.natAbs_natCast _).symm)⟩, rfl⟩⟩

end DataContract
