import DataContract.Report.Basic
import DataContract.Proofs.Attempt
import Mathlib.Data.List.Nodup

/-!
# The order of records

Records are sorted by the keys of their paths, which are compared like words in a
dictionary whose letters are whole numbers and texts. The comparison is a linear order
on keys, so records whose keys are different come into one order only, whatever order
they had before.
-/

namespace DataContract

open Std

namespace SegmentKey

instance : OrientedCmp compare where
  eq_swap {a b} := by
    cases a with
    | index first =>
        cases b with
        | index second => exact OrientedOrd.eq_swap
        | word second => rfl
    | word first =>
        cases b with
        | index second => rfl
        | word second => exact OrientedOrd.eq_swap

instance : TransCmp compare where
  isLE_trans {a b c} := by
    cases a with
    | index first =>
        cases b with
        | index second =>
            cases c with
            | index third => exact TransOrd.isLE_trans
            | word third => exact fun _ _ => rfl
        | word second =>
            cases c with
            | index third => exact fun _ impossible => nomatch impossible
            | word third => exact fun _ _ => rfl
    | word first =>
        cases b with
        | index second => exact fun impossible => nomatch impossible
        | word second =>
            cases c with
            | index third => exact fun _ impossible => nomatch impossible
            | word third => exact TransOrd.isLE_trans

instance : LawfulEqCmp compare where
  compare_self {a} := by
    cases a with
    | index number => exact ReflOrd.compare_self
    | word text => exact ReflOrd.compare_self
  eq_of_compare {a b} same := by
    cases a with
    | index first =>
        cases b with
        | index second => rw [LawfulEqOrd.eq_of_compare same]
        | word second => cases same
    | word first =>
        cases b with
        | index second => cases same
        | word second => rw [LawfulEqOrd.eq_of_compare same]

/-- Paths are compared in dictionary order. -/
theorem comparePaths_eq_compareLex : comparePaths = List.compareLex compare := by
  funext path other
  induction path generalizing other with
  | nil => cases other <;> rfl
  | cons key rest hypothesis =>
      cases other with
      | nil => rfl
      | cons first others =>
          rw [comparePaths, List.compareLex_cons_cons, hypothesis]
          cases compare key first <;> rfl

instance : TransCmp comparePaths := by
  rw [comparePaths_eq_compareLex]
  infer_instance

instance : LawfulEqCmp comparePaths := by
  rw [comparePaths_eq_compareLex]
  infer_instance

/-- Two keys that each come before the other or are the same are the same. -/
theorem eq_of_comparePaths
    {path other : List SegmentKey}
    (before : (comparePaths path other).isLE = true)
    (after : (comparePaths other path).isLE = true) :
    path = other := by
  have same : comparePaths path other = .eq := OrientedCmp.isLE_antisymm before after
  exact LawfulEqCmp.eq_of_compare same

end SegmentKey

/-! ## Sorted records -/

/-- Sorting only changes the order of records. -/
theorem sortRecords_perm (records : List Record) : (sortRecords records).Perm records :=
  List.mergeSort_perm records _

/-- Of two records one has the key that comes first, or both have the same key. -/
theorem isLE_comparePaths_total (record other : Record) :
    ((SegmentKey.comparePaths record.sortKey other.sortKey).isLE ||
      (SegmentKey.comparePaths other.sortKey record.sortKey).isLE) = true := by
  have swapped :
      SegmentKey.comparePaths other.sortKey record.sortKey =
        (SegmentKey.comparePaths record.sortKey other.sortKey).swap :=
    OrientedCmp.eq_swap
  rw [swapped]
  cases SegmentKey.comparePaths record.sortKey other.sortKey <;> rfl

/-- Records are sorted such that no key comes after a greater one. -/
theorem sortRecords_eq_mergeSort (records : List Record) :
    sortRecords records = records.mergeSort fun earlier later =>
      (SegmentKey.comparePaths earlier.sortKey later.sortKey).isLE := by
  have means (first second : Record) :
      (SegmentKey.comparePaths first.sortKey second.sortKey != .gt) =
        (SegmentKey.comparePaths first.sortKey second.sortKey).isLE := by
    cases SegmentKey.comparePaths first.sortKey second.sortKey <;> rfl
  simp only [sortRecords, means]

/-- Sorted records are in the order of the keys of their paths. -/
theorem pairwise_sortRecords (records : List Record) :
    (sortRecords records).Pairwise fun earlier later =>
      (SegmentKey.comparePaths earlier.sortKey later.sortKey).isLE = true := by
  rw [sortRecords_eq_mergeSort]
  exact List.pairwise_mergeSort (fun _ _ _ => TransCmp.isLE_trans) isLE_comparePaths_total records

/-- Sorted records have the same keys if the records have the same keys in some
order. -/
theorem map_sortKey_sortRecords
    {records others : List Record}
    (permuted : (records.map Record.sortKey).Perm (others.map Record.sortKey)) :
    (sortRecords records).map Record.sortKey = (sortRecords others).map Record.sortKey := by
  have sorted (records : List Record) :
      ((sortRecords records).map Record.sortKey).Pairwise fun earlier later =>
        (SegmentKey.comparePaths earlier later).isLE = true := by
    rw [List.pairwise_map]
    exact pairwise_sortRecords records
  refine List.Perm.eq_of_pairwise ?_ (sorted records) (sorted others) ?_
  · intro first second _ _ before after
    exact SegmentKey.eq_of_comparePaths before after
  · exact ((sortRecords_perm records).map _).trans
      (permuted.trans ((sortRecords_perm others).map _).symm)

/-- Records with different keys are sorted into one order, whatever their order
was. -/
theorem sortRecords_eq_of_perm
    {records others : List Record}
    (distinct : (records.map Record.sortKey).Nodup)
    (permuted : records.Perm others) :
    sortRecords records = sortRecords others := by
  refine List.Perm.eq_of_pairwise ?_ (pairwise_sortRecords records)
    (pairwise_sortRecords others) ?_
  · intro first second found present before after
    have member : first ∈ records := (sortRecords_perm records).mem_iff.mp found
    have other : second ∈ records :=
      permuted.mem_iff.mpr ((sortRecords_perm others).mem_iff.mp present)
    exact List.inj_on_of_nodup_map distinct member other
      (SegmentKey.eq_of_comparePaths before after)
  · exact (sortRecords_perm records).trans (permuted.trans (sortRecords_perm others).symm)

/-- Rendered records are the records of the failure, sorted if asked for, and then every
segment of their paths has something to be sorted by. -/
theorem render_eq_ok
    {backend : MessageBackend}
    {front : Path}
    {sort : Bool}
    {failure : Failure}
    {found : List Record} :
    render backend front sort failure = .ok found ↔
      ∃ emitted, records backend front failure = .ok emitted ∧
        (sort = true → ∀ record ∈ emitted, ∀ segment ∈ record.path, segment.isSortable = true) ∧
        found = if sort then sortRecords emitted else emitted := by
  rw [render, Attempt.bind_eq_ok]
  cases sort with
  | false => simp [@eq_comm _ found]
  | true => simp [ite_eq_iff, @eq_comm _ found]

/-- Sorting stops exactly if a segment has nothing to be sorted by. -/
theorem render_eq_error
    {backend : MessageBackend}
    {front : Path}
    {failure : Failure}
    {found : List Record}
    {fault : Fault}
    (made : render backend front false failure = .ok found) :
    render backend front true failure = .error fault ↔
      (∃ record ∈ found, ∃ segment ∈ record.path, segment.isSortable = false) ∧
        fault = .badContent := by
  obtain ⟨emitted, inside, -, rfl⟩ := render_eq_ok.mp made
  rw [render, inside]
  simp [ite_eq_iff, @eq_comm _ fault]

/-! ## Paths of names and indices -/

/-- Whether a segment of a path is a text or a whole number. -/
def Value.isNameOrIndex : Value → Bool
  | .text _ => true
  | .int _ => true
  | _ => false

/-- Names and indices have something to be sorted by. -/
theorem Value.isSortable_of_isNameOrIndex
    {segment : Value}
    (plain : segment.isNameOrIndex = true) :
    segment.isSortable = true := by
  unfold isNameOrIndex at plain
  split at plain
  · rfl
  · rfl
  · cases plain

/-- Names and indices are told apart by what they are sorted by. -/
theorem SegmentKey.eq_of_ofSegment
    {segment other : Value}
    (plain : segment.isNameOrIndex = true)
    (otherPlain : other.isNameOrIndex = true)
    (same : ofSegment segment = ofSegment other) :
    segment = other := by
  unfold Value.isNameOrIndex at plain otherPlain
  split at plain
  · split at otherPlain
    · simpa [ofSegment, Value.whole?, Value.plain, Scalar.plain] using same
    · simp [ofSegment, Value.whole?] at same
    · cases otherPlain
  · split at otherPlain
    · simp [ofSegment, Value.whole?] at same
    · simpa [ofSegment, Value.whole?] using same
    · cases otherPlain
  · cases plain

/-- Paths of names and indices are told apart by their keys. -/
theorem SegmentKey.eq_of_map_ofSegment
    {path other : Path}
    (plain : ∀ segment ∈ path, segment.isNameOrIndex = true)
    (otherPlain : ∀ segment ∈ other, segment.isNameOrIndex = true)
    (same : path.map ofSegment = other.map ofSegment) :
    path = other := by
  induction path generalizing other with
  | nil => simpa [eq_comm] using same
  | cons segment rest hypothesis =>
      cases other with
      | nil => simp at same
      | cons first others =>
          rw [List.forall_mem_cons] at plain otherPlain
          simp only [List.map_cons, List.cons.injEq] at same
          rw [eq_of_ofSegment plain.1 otherPlain.1 same.1,
            hypothesis plain.2 otherPlain.2 same.2]

end DataContract
