import DataContract.Proofs.Report.Order
import Mathlib.Data.List.Perm.Subperm

/-!
# Distinct records

Records that are reported together usually have different paths, of names and indices.
Such records are told apart by where they belong, and by what they are sorted by: two lists
of them that are the same up to order can be compared part by part if it is known where the
records of each part belong.
-/

namespace DataContract

namespace Record

/-- Where a record belongs: its path, and whether it is that of a cast. -/
def place (record : Record) : Path × Bool :=
  (record.path, record.cast)

@[simp] theorem place_fst (record : Record) : record.place.1 = record.path := rfl

@[simp] theorem path_markCast (record : Record) : record.markCast.path = record.path := by
  cases record
  rfl

@[simp] theorem place_markCast (record : Record) :
    record.markCast.place = (record.path, true) := by
  cases record
  rfl

/-- A mark hides nothing but whether the record was marked before. -/
theorem eq_of_markCast
    {record other : Record}
    (marked : record.markCast = other.markCast)
    (together : record.place = other.place) :
    record = other := by
  cases record
  cases other
  simp_all [markCast, place, path, cast]

mutual

/-- Whether the records of each side of a record are distinct. -/
def HasDistinctSides : Record → Prop
  | .mk _ _ _ _ _ left right => AreDistinct left ∧ AreDistinct right

/-- Whether the paths of records are different and consist of names and indices, for the
records of their sides too. -/
def AreDistinct : List Record → Prop
  | [] => True
  | record :: rest =>
      (∀ segment ∈ record.path, segment.isNameOrIndex = true) ∧
        (∀ other ∈ rest, record.path ≠ other.path) ∧ record.HasDistinctSides ∧
        AreDistinct rest

end

theorem areDistinct_append
    {records others : List Record}
    (distinct : AreDistinct (records ++ others)) :
    AreDistinct records ∧ AreDistinct others := by
  induction records with
  | nil => exact ⟨by simp [AreDistinct], distinct⟩
  | cons record rest hypothesis =>
      rw [List.cons_append, AreDistinct] at distinct
      obtain ⟨plain, apart, sides, distinct⟩ := distinct
      obtain ⟨restDistinct, othersDistinct⟩ := hypothesis distinct
      refine ⟨?_, othersDistinct⟩
      rw [AreDistinct]
      exact ⟨plain, fun other member => apart other (List.mem_append_left _ member), sides,
        restDistinct⟩

/-- Distinct records have different paths. -/
theorem nodup_of_areDistinct
    {records : List Record}
    (distinct : AreDistinct records) :
    (records.map path).Nodup := by
  induction records with
  | nil => exact List.nodup_nil
  | cons record rest hypothesis =>
      rw [AreDistinct] at distinct
      rw [List.map_cons, List.nodup_cons]
      refine ⟨?_, hypothesis distinct.2.2.2⟩
      intro member
      obtain ⟨other, present, same⟩ := List.mem_map.mp member
      exact distinct.2.1 other present same.symm

/-- Marked records are as distinct as the records themselves. -/
theorem areDistinct_map_markCast
    {records : List Record}
    (distinct : AreDistinct (records.map markCast)) :
    AreDistinct records := by
  induction records with
  | nil => exact distinct
  | cons record rest hypothesis =>
      rw [List.map_cons, AreDistinct] at distinct
      rw [AreDistinct]
      obtain ⟨plain, apart, sides, distinct⟩ := distinct
      refine ⟨by simpa using plain, fun other member => ?_, ?_, hypothesis distinct⟩
      · simpa using apart other.markCast (List.mem_map_of_mem member)
      · cases record
        exact sides

end Record

/-! ## Lists told apart by keys -/

section Keys

variable
  {α β : Type}
  {key : α → β}

/-- A list whose items have different keys is another up to order if it has no other
items and no fewer. -/
theorem perm_of_keys
    {items others : List α}
    (distinct : (items.map key).Nodup)
    (inside : items ⊆ others)
    (short : others.length ≤ items.length) :
    items.Perm others :=
  (List.subperm_of_subset (.of_map key distinct) inside).perm_of_length_le short

/-- The parts of two lists that are the same up to order are the same up to order, if
the first parts have the same keys. -/
theorem perm_append_of_keys
    {first second newFirst newSecond : List α}
    (distinct : ((first ++ second).map key).Nodup)
    (whole : (first ++ second).Perm (newFirst ++ newSecond))
    (keys : (first.map key).Perm (newFirst.map key)) :
    first.Perm newFirst ∧ second.Perm newSecond := by
  have restKeys : (second.map key).Perm (newSecond.map key) := by
    have mapped := whole.map key
    rw [List.map_append, List.map_append] at mapped
    exact (List.perm_append_left_iff _).mp (mapped.trans (keys.symm.append_right _))
  rw [List.map_append, List.nodup_append] at distinct
  have firstSame : first.Perm newFirst := by
    refine perm_of_keys distinct.1 ?_ (by simpa using Nat.le_of_eq keys.length_eq.symm)
    intro item member
    rcases List.mem_append.mp (whole.mem_iff.mp (List.mem_append_left _ member)) with
      found | elsewhere
    · exact found
    · have other := restKeys.mem_iff.mpr (List.mem_map_of_mem elsewhere)
      exact absurd rfl (distinct.2.2 _ (List.mem_map_of_mem member) _ other)
  exact ⟨firstSame,
    (List.perm_append_left_iff _).mp (whole.trans (firstSame.symm.append_right _))⟩

/-- A list whose items have different keys is another up to order, with its keys in the
same order, only if it is the other. -/
theorem eq_of_perm_of_keys
    {items others : List α}
    (distinct : (items.map key).Nodup)
    (permuted : items.Perm others)
    (keys : items.map key = others.map key) :
    items = others := by
  have length : items.length = others.length := by simpa using congrArg List.length keys
  refine List.ext_getElem length fun position inside otherInside => ?_
  refine List.inj_on_of_nodup_map distinct (List.getElem_mem inside)
    (permuted.mem_iff.mpr (List.getElem_mem otherInside)) ?_
  have here := congrArg (·[position]?) keys
  simpa [inside, otherInside] using here

/-- A list that begins with some items, and has items with the same keys somewhere,
begins with these. -/
theorem append_eq_of_keys
    {first rest before middle after : List α}
    (distinct : ((first ++ rest).map key).Nodup)
    (whole : first ++ rest = before ++ (middle ++ after))
    (keys : (first.map key).Perm (middle.map key)) :
    (first = [] ∧ middle = []) ∨ (before = [] ∧ first = middle) := by
  cases first with
  | nil => exact Or.inl ⟨rfl, by simpa using keys⟩
  | cons item others =>
      cases before with
      | nil =>
          rw [List.nil_append] at whole
          exact Or.inr ⟨rfl, (List.append_inj whole (by simpa using keys.length_eq)).1⟩
      | cons early before =>
          rw [List.cons_append, List.cons_append, List.cons.injEq] at whole
          obtain ⟨rfl, whole⟩ := whole
          have found : key item ∈ middle.map key := keys.mem_iff.mp (by simp)
          rw [List.cons_append, List.map_cons, List.nodup_cons, whole] at distinct
          exact absurd (by simp_all) distinct.1

end Keys

/-! ## Records told apart by places -/

/-- Records at the same places have the same paths. -/
theorem paths_of_places
    {found moved : List Record}
    (places : (found.map Record.place).Perm (moved.map Record.place)) :
    (found.map Record.path).Perm (moved.map Record.path) := by
  simpa [Function.comp_def] using places.map Prod.fst

/-- Records that are the same up to order after marking were so before, if they belong to
the same places. -/
theorem perm_of_map_markCast
    {found moved : List Record}
    (distinct : (found.map Record.path).Nodup)
    (places : (found.map Record.place).Perm (moved.map Record.place))
    (marked : (found.map Record.markCast).Perm (moved.map Record.markCast)) :
    found.Perm moved := by
  have movedDistinct : (moved.map Record.path).Nodup :=
    (paths_of_places places).nodup_iff.mp distinct
  refine perm_of_keys distinct ?_ (by simpa using Nat.le_of_eq places.length_eq.symm)
  intro record member
  obtain ⟨other, present, same⟩ :=
    List.mem_map.mp (marked.mem_iff.mp (List.mem_map_of_mem member))
  obtain ⟨placed, inside, together⟩ :=
    List.mem_map.mp (places.mem_iff.mp (List.mem_map_of_mem member))
  have samePath : other.path = placed.path := by
    have unmarked := congrArg Record.path same
    rw [Record.path_markCast, Record.path_markCast] at unmarked
    exact unmarked.trans (congrArg Prod.fst together).symm
  obtain rfl := List.inj_on_of_nodup_map movedDistinct present inside samePath
  rwa [← Record.eq_of_markCast same together]

/-- The paths of distinct records consist of names and indices. -/
theorem isNameOrIndex_of_areDistinct
    {found : List Record}
    (distinct : Record.AreDistinct found) :
    ∀ record ∈ found, ∀ segment ∈ record.path, segment.isNameOrIndex = true := by
  intro record member
  induction found with
  | nil => cases member
  | cons first rest hypothesis =>
      rw [Record.AreDistinct] at distinct
      rcases List.mem_cons.mp member with rfl | later
      · exact distinct.1
      · exact hypothesis distinct.2.2.2 later

/-- Records with distinct paths of names and indices are told apart by what they are
sorted by. -/
theorem nodup_sortKey
    {found : List Record}
    (distinct : Record.AreDistinct found) :
    (found.map Record.sortKey).Nodup := by
  have plain := isNameOrIndex_of_areDistinct distinct
  have paths := Record.nodup_of_areDistinct distinct
  refine List.Nodup.map_on ?_ (List.Nodup.of_map _ paths)
  intro record member other present same
  exact List.inj_on_of_nodup_map paths member present
    (SegmentKey.eq_of_map_ofSegment (plain record member) (plain other present) same)

end DataContract
