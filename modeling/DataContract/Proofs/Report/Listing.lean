import DataContract.Proofs.Attempt
import DataContract.Proofs.Failure.Node
import DataContract.Report.Basic

/-!
# What records are made from

The records of a failure do not show how it was put together: lists of failures are
laid out one after another, casts mark what is inside them, and a union with a name
shows nothing of its sides but a failed predicate. What is left is the listing of a
failure, in which every failure makes one record.

A failure has the records of its listing, and as many as its listing is long.
-/

namespace DataContract
namespace Failure

mutual

/-- The failures that the records of a failure are made from, in the order of the tree.
The sides of a union without a name are listings themselves. -/
def listing : Failure → List Failure
  | .predicate path name args input => [.predicate path name args input]
  | .missing path => [.missing path]
  | .either path left right options =>
      match unionName? options with
      | none => [.either path (.several left.listing) (.several right.listing) options]
      | some _ =>
          match preciseSide? left right with
          | some side => [side]
          | none => [.either path (.several []) (.several []) options]
  | .several failures => listingOfAll failures
  | .cast inner => inner.listing.map .cast
  | .rule path text => [.rule path text]

/-- The listings of several failures, one after another. -/
def listingOfAll : List Failure → List Failure
  | [] => []
  | failure :: rest => failure.listing ++ listingOfAll rest

end

attribute [local simp] listing listingOfAll nodes listNodes

theorem listingOfAll_append (failures others : List Failure) :
    listingOfAll (failures ++ others) = listingOfAll failures ++ listingOfAll others := by
  induction failures with
  | nil => rfl
  | cons failure rest hypothesis => simp [hypothesis]

/-- A failure has nothing to list only if it has no nodes: lists without failures are
all that it is made of. -/
theorem listing_eq_nil_iff (failure : Failure) :
    failure.listing = [] ↔ failure.nodes = [] := by
  induction failure with
  | predicate path name args input => simp
  | missing path => simp
  | rule path text => simp
  | cast inner hypothesis => simpa using hypothesis
  | several failures hypothesis =>
      rw [listing, nodes]
      induction failures with
      | nil => simp
      | cons failure rest remaining =>
          rw [List.forall_mem_cons] at hypothesis
          rw [listingOfAll, listNodes, List.append_eq_nil_iff, List.append_eq_nil_iff,
            hypothesis.1, remaining hypothesis.2]
  | either path left right options _ _ =>
      rw [listing, nodes]
      split
      · simp
      · split <;> simp

end Failure

section Records

variable
  {backend : MessageBackend}
  {front : Path}

@[simp] theorem recordsOfAll_nil : recordsOfAll backend front [] = .ok [] := by
  rw [recordsOfAll]

theorem recordsOfAll_cons (failure : Failure) (rest : List Failure) :
    recordsOfAll backend front (failure :: rest) = (do
      let first ← records backend front failure
      let others ← recordsOfAll backend front rest
      .ok (first ++ others)) := by
  rw [recordsOfAll]

/-- The records of one failure alone are its records. -/
@[simp] theorem recordsOfAll_singleton (failure : Failure) :
    recordsOfAll backend front [failure] = records backend front failure := by
  rw [recordsOfAll_cons, recordsOfAll_nil]
  cases records backend front failure with
  | error fault => rfl
  | ok found => simp

/-- The records of two lists of failures are the records of the one and of the
other. -/
theorem recordsOfAll_append (failures others : List Failure) :
    recordsOfAll backend front (failures ++ others) = (do
      let first ← recordsOfAll backend front failures
      let second ← recordsOfAll backend front others
      .ok (first ++ second)) := by
  induction failures with
  | nil =>
      rw [List.nil_append, recordsOfAll_nil]
      cases recordsOfAll backend front others <;> rfl
  | cons failure rest hypothesis =>
      rw [List.cons_append, recordsOfAll_cons, recordsOfAll_cons, hypothesis]
      simp only [bind_assoc, Attempt.ok_bind, List.append_assoc]

theorem recordsOfAll_cons_eq_ok
    {failure : Failure}
    {rest : List Failure}
    {found : List Record} :
    recordsOfAll backend front (failure :: rest) = .ok found ↔
      ∃ first others, records backend front failure = .ok first ∧
        recordsOfAll backend front rest = .ok others ∧ found = first ++ others := by
  simp only [recordsOfAll_cons, Attempt.bind_eq_ok, Except.ok.injEq]
  constructor
  · rintro ⟨first, made, others, remaining, rfl⟩
    exact ⟨first, others, made, remaining, rfl⟩
  · rintro ⟨first, others, made, remaining, rfl⟩
    exact ⟨first, made, others, remaining, rfl⟩

theorem recordsOfAll_append_eq_ok
    {failures others : List Failure}
    {found : List Record} :
    recordsOfAll backend front (failures ++ others) = .ok found ↔
      ∃ first second, recordsOfAll backend front failures = .ok first ∧
        recordsOfAll backend front others = .ok second ∧ found = first ++ second := by
  simp only [recordsOfAll_append, Attempt.bind_eq_ok, Except.ok.injEq]
  constructor
  · rintro ⟨first, made, second, remaining, rfl⟩
    exact ⟨first, second, made, remaining, rfl⟩
  · rintro ⟨first, second, made, remaining, rfl⟩
    exact ⟨first, made, second, remaining, rfl⟩

/-- Failures in another order have the same records in another order. -/
theorem exists_records_of_perm
    {failures others : List Failure}
    (permuted : failures.Perm others)
    {found : List Record}
    (reported : recordsOfAll backend front failures = .ok found) :
    ∃ moved, recordsOfAll backend front others = .ok moved ∧ found.Perm moved := by
  induction permuted generalizing found with
  | nil => exact ⟨found, reported, List.Perm.refl _⟩
  | cons failure _ hypothesis =>
      obtain ⟨first, rest, made, remaining, rfl⟩ := recordsOfAll_cons_eq_ok.mp reported
      obtain ⟨moved, remade, permuted⟩ := hypothesis remaining
      exact ⟨first ++ moved, recordsOfAll_cons_eq_ok.mpr ⟨first, moved, made, remade, rfl⟩,
        permuted.append_left first⟩
  | swap failure other rest =>
      obtain ⟨first, _, made, remaining, rfl⟩ := recordsOfAll_cons_eq_ok.mp reported
      obtain ⟨second, others, remade, last, rfl⟩ := recordsOfAll_cons_eq_ok.mp remaining
      refine ⟨second ++ (first ++ others), ?_, List.perm_append_comm_assoc _ _ _⟩
      exact recordsOfAll_cons_eq_ok.mpr
        ⟨second, _, remade, recordsOfAll_cons_eq_ok.mpr ⟨first, others, made, last, rfl⟩, rfl⟩
  | trans _ _ hypothesis nextHypothesis =>
      obtain ⟨between, remade, permuted⟩ := hypothesis reported
      obtain ⟨moved, again, onward⟩ := nextHypothesis remade
      exact ⟨moved, again, permuted.trans onward⟩

/-- The records of casts are the records of what is in them, marked. -/
theorem recordsOfAll_map_cast (failures : List Failure) :
    recordsOfAll backend front (failures.map .cast) =
      (recordsOfAll backend front failures).map (List.map Record.markCast) := by
  induction failures with
  | nil => simp [Except.map]
  | cons failure rest hypothesis =>
      rw [List.map_cons, recordsOfAll_cons, recordsOfAll_cons, hypothesis, records]
      cases records backend front failure with
      | error fault => rfl
      | ok found =>
          cases recordsOfAll backend front rest with
          | error fault => rfl
          | ok others => simp [Except.map]

/-- A failure that is precise about a named union is one of the sides, a failed
predicate. -/
theorem exists_predicate_of_preciseSide?
    {left right side : Failure}
    (precise : preciseSide? left right = some side) :
    (side = left ∨ side = right) ∧
      ∃ path name args input, side = .predicate path name args input := by
  have shape (failure : Failure) (past : failure.isPastTypeCheck = true) :
      ∃ path name args input, failure = .predicate path name args input := by
    cases failure with
    | predicate path name args input => exact ⟨path, name, args, input, rfl⟩
    | _ => cases past
  unfold preciseSide? at precise
  split at precise
  · rename_i past _
    cases precise
    exact ⟨Or.inl rfl, shape left past⟩
  · rename_i _ past
    cases precise
    exact ⟨Or.inr rfl, shape right past⟩
  · cases precise

/-- A failure has the records of its listing. -/
theorem records_listing (failure : Failure) :
    recordsOfAll backend front failure.listing = records backend front failure := by
  induction failure with
  | predicate path name args input => simp [Failure.listing]
  | missing path => simp [Failure.listing]
  | rule path text => simp [Failure.listing]
  | cast inner hypothesis => rw [Failure.listing, recordsOfAll_map_cast, hypothesis, records]
  | several failures hypothesis =>
      rw [Failure.listing, records]
      induction failures with
      | nil => simp [Failure.listingOfAll]
      | cons failure rest remaining =>
          rw [List.forall_mem_cons] at hypothesis
          rw [Failure.listingOfAll, recordsOfAll_append, recordsOfAll_cons, hypothesis.1,
            remaining hypothesis.2]
  | either path left right options leftHypothesis rightHypothesis =>
      rw [Failure.listing]
      split
      · rename_i unnamed
        simp [records, unnamed, leftHypothesis, rightHypothesis]
      · rename_i name named
        split
        · rename_i side precise
          obtain ⟨-, place, called, args, input, rfl⟩ := exists_predicate_of_preciseSide? precise
          simp [records, named, precise, leafRecord]
        · rename_i vague
          have blank : preciseSide? (.several []) (.several []) = none := rfl
          simp [records, named, vague, blank]

/-- Failures have the records of their listings. -/
theorem recordsOfAll_listingOfAll (failures : List Failure) :
    recordsOfAll backend front (Failure.listingOfAll failures) =
      recordsOfAll backend front failures := by
  have whole :
      recordsOfAll backend front (Failure.listing (.several failures)) =
        records backend front (.several failures) :=
    records_listing (.several failures)
  rwa [Failure.listing, records] at whole

/-- The record of a failure that has one comes alone. -/
theorem length_of_single
    {made : Attempt Record}
    {found : List Record}
    (reported : (do .ok [← made]) = .ok found) :
    found.length = 1 := by
  obtain ⟨record, -, same⟩ := Attempt.bind_eq_ok.mp reported
  cases same
  rfl

/-- A failure has as many records as its listing is long. -/
theorem length_records
    {failure : Failure}
    {found : List Record}
    (reported : records backend front failure = .ok found) :
    found.length = failure.listing.length := by
  induction failure generalizing found with
  | predicate path name args input => exact length_of_single reported
  | missing path =>
      obtain ⟨text, -, made⟩ := Attempt.bind_eq_ok.mp reported
      exact length_of_single made
  | rule path text => exact length_of_single reported
  | cast inner hypothesis =>
      rw [records] at reported
      obtain ⟨unmarked, made, rfl⟩ := Attempt.map_eq_ok.mp reported
      simp [Failure.listing, hypothesis made]
  | several failures hypothesis =>
      rw [records] at reported
      rw [Failure.listing]
      induction failures generalizing found with
      | nil =>
          rw [recordsOfAll_nil, Except.ok.injEq] at reported
          simp [← reported, Failure.listingOfAll]
      | cons failure rest remaining =>
          rw [List.forall_mem_cons] at hypothesis
          rw [recordsOfAll_cons] at reported
          obtain ⟨first, made, reported⟩ := Attempt.bind_eq_ok.mp reported
          obtain ⟨others, remade, same⟩ := Attempt.bind_eq_ok.mp reported
          cases same
          rw [Failure.listingOfAll, List.length_append, List.length_append,
            hypothesis.1 made, remaining hypothesis.2 remade]
  | either path left right options _ _ =>
      rw [records] at reported
      rw [Failure.listing]
      split at reported
      · rename_i unnamed
        obtain ⟨first, -, reported⟩ := Attempt.bind_eq_ok.mp reported
        obtain ⟨second, -, reported⟩ := Attempt.bind_eq_ok.mp reported
        simpa [unnamed] using length_of_single reported
      · rename_i name named
        split at reported
        · rename_i side precise
          obtain ⟨-, place, called, args, input, rfl⟩ := exists_predicate_of_preciseSide? precise
          simpa [named, precise] using length_of_single reported
        · rename_i vague
          obtain ⟨text, -, reported⟩ := Attempt.bind_eq_ok.mp reported
          simpa [named, vague] using length_of_single reported

/-- Failures have as many records as their listings are long. -/
theorem length_recordsOfAll
    {failures : List Failure}
    {found : List Record}
    (reported : recordsOfAll backend front failures = .ok found) :
    found.length = (Failure.listingOfAll failures).length := by
  have whole : records backend front (.several failures) = .ok found := by rwa [records]
  simpa [Failure.listing] using length_records whole

/-- Failures without records have nothing to list. -/
theorem listingOfAll_eq_nil
    {failures : List Failure}
    (reported : recordsOfAll backend front failures = .ok []) :
    Failure.listingOfAll failures = [] :=
  List.eq_nil_of_length_eq_zero (length_recordsOfAll reported).symm

end Records

end DataContract
