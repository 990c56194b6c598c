import DataContract.Proofs.Schema.Renaming
import DataContract.Proofs.Value.Name
import Mathlib.Data.List.Nodup
import Mathlib.Tactic.Choose

/-!
# Entries by key

The entries that a map puts together are those that its keys find, in the order of the
keys. Both the entries that are collected under own names and the entries of a validated
map are of this form, and what is found for a key is what is looked up under its name.
-/

namespace DataContract
namespace Key

/-- The entries that keys find, under the names of the keys. -/
def entries
    (keys : List Key)
    (found : Key → Option Value) : Entries :=
  keys.filterMap fun key => (found key).map (key.name, ·)

@[simp] theorem entries_nil (found : Key → Option Value) : entries [] found = [] := rfl

theorem entries_cons
    (key : Key)
    (rest : List Key)
    (found : Key → Option Value) :
    entries (key :: rest) found =
      ((found key).map (key.name, ·)).toList ++ entries rest found := by
  rw [entries, List.filterMap_cons]
  cases found key <;> rfl

/-- What keys find makes related entries if it is related for each of them. -/
theorem forall₂_entries
    {keys : List Key}
    {found otherFound : Key → Option Value}
    {related : Value × Value → Value × Value → Prop}
    (each : ∀ key ∈ keys,
      Option.Rel (fun value other => related (key.name, value) (key.name, other))
        (found key) (otherFound key)) :
    List.Forall₂ related (entries keys found) (entries keys otherFound) := by
  induction keys with
  | nil => exact .nil
  | cons key rest hypothesis =>
      rw [List.forall_mem_cons] at each
      rw [entries_cons, entries_cons]
      refine List.rel_append ?_ (hypothesis each.2)
      have here := each.1
      generalize found key = value at here ⊢
      generalize otherFound key = other at here ⊢
      cases here with
      | none => exact .nil
      | some here => exact .cons here .nil

/-- Whether the names of keys are texts. -/
def AreNamed (keys : List Key) : Prop :=
  ∀ key ∈ keys, ∃ name, key.name = .text name

/-- Texts are names. -/
theorem AreNamed.isName
    {keys : List Key}
    (named : AreNamed keys) :
    ∀ key ∈ keys, key.name.isName = true := by
  intro key member
  obtain ⟨name, called⟩ := named key member
  rw [called]
  rfl

section Lookup

variable
  {keys : List Key}
  {found : Key → Option Value}
  {key : Key}

/-- Declared keys are told apart by their names. -/
theorem eq_of_sameKey
    (distinct : keys.Pairwise fun earlier later => later.name.sameKey earlier.name = false)
    (named : ∀ key ∈ keys, key.name.isName = true)
    (member : key ∈ keys)
    {other : Key}
    (present : other ∈ keys)
    (same : key.name.sameKey other.name = true) :
    other = key := by
  induction keys with
  | nil => cases member
  | cons first rest hypothesis =>
      rw [List.forall_mem_cons] at named
      rcases List.mem_cons.mp member with rfl | later <;>
        rcases List.mem_cons.mp present with rfl | otherLater
      · rfl
      · have apart := List.rel_of_pairwise_cons distinct otherLater
        rw [(Value.sameKey_comm_of_isName named.1 (named.2 other otherLater)).mp same] at apart
        cases apart
      · rw [List.rel_of_pairwise_cons distinct later] at same
        cases same
      · exact hypothesis distinct.of_cons named.2 later otherLater

/-- An entry that is looked up was found by a key with that name. -/
theorem exists_of_get?_entries
    {name value : Value}
    (looked : (entries keys found).get? name = some value) :
    ∃ key ∈ keys, name.sameKey key.name = true ∧ found key = some value := by
  obtain ⟨entry, search, rfl⟩ := Option.map_eq_some_iff.mp looked
  obtain ⟨key, member, made⟩ := List.mem_filterMap.mp (List.mem_of_find?_eq_some search)
  have called := List.find?_some search
  obtain ⟨part, present, rfl⟩ := Option.map_eq_some_iff.mp made
  exact ⟨key, member, called, present⟩

/-- What is looked up under the name of a key is what the key found. -/
theorem get?_entries
    (distinct : keys.Pairwise fun earlier later => later.name.sameKey earlier.name = false)
    (named : ∀ key ∈ keys, key.name.isName = true)
    (member : key ∈ keys) :
    (entries keys found).get? key.name = found key := by
  cases looked : (entries keys found).get? key.name with
  | some value =>
      obtain ⟨other, present, same, there⟩ := exists_of_get?_entries looked
      rw [← eq_of_sameKey distinct named member present same, there]
  | none =>
      cases there : found key with
      | none => rfl
      | some value =>
          have inside : (key.name, value) ∈ entries keys found :=
            List.mem_filterMap.mpr ⟨key, member, by rw [there]; rfl⟩
          have absent := List.find?_eq_none.mp (Option.map_eq_none_iff.mp looked) _ inside
          exact absurd (Value.sameKey_self key.name) absent

/-- The entries that declared keys found are found under the names of the keys. -/
theorem entry?_entries
    (distinct : keys.Pairwise fun earlier later => later.name.sameKey earlier.name = false)
    (named : ∀ key ∈ keys, key.name.isName = true)
    (member : key ∈ keys) :
    Value.entry? (.map (entries keys found)) key.name = .ok (found key) := by
  rw [Value.entry?_map (Value.isKey_of_isName (named key member)),
    get?_entries distinct named member]

end Lookup

/-- What a key finds for the entries under own names: its entry, renamed. -/
def collect
    (key : Key)
    (style : KeyStyle)
    (data : Value) : Attempt (Option Value) := do
  match ← data.entryFor? style key.name with
  | some value => (key.rename style value).map some
  | none => .ok none

/-- A key finds what there is under its own name before it looks for its name on the
wire. -/
theorem collect_of_entry
    {key : Key}
    {style : KeyStyle}
    {data value : Value}
    (present : data.entry? key.name = .ok (some value)) :
    key.collect style data = (key.rename style value).map some := by
  rw [collect, Value.entryFor?, present]
  rfl

/-- A key finds nothing if there is nothing under its own name and its name on the
wire. -/
theorem collect_eq_none
    {key : Key}
    {style : KeyStyle}
    {data : Value} :
    key.collect style data = .ok none ↔
      data.entry? key.name = .ok none ∧ data.entry? (style.external key.name) = .ok none := by
  rw [collect, Value.entryFor?]
  cases data.entry? key.name with
  | error fault => simp
  | ok own =>
      cases own with
      | some value => simp [Attempt.map_eq_ok]
      | none =>
          cases data.entry? (style.external key.name) with
          | error fault => simp
          | ok found => cases found <;> simp [Attempt.map_eq_ok]

end Key

section Collected

variable
  {style : KeyStyle}
  {keys : List Key}
  {data : Value}

theorem atomizeKeys_cons_eq_ok
    {key : Key}
    {made : Entries} :
    atomizeKeys style (key :: keys) data = .ok made ↔
      ∃ found others, key.collect style data = .ok found ∧
        atomizeKeys style keys data = .ok others ∧
        made = (found.map (key.name, ·)).toList ++ others := by
  rw [atomizeKeys_cons]
  unfold Key.collect
  cases data.entryFor? style key.name with
  | error fault => simp
  | ok entry =>
      cases entry with
      | none => simp
      | some value =>
          simp only [Attempt.ok_bind, Attempt.bind_eq_ok, Attempt.map_eq_ok, Except.ok.injEq]
          constructor
          · rintro ⟨renamed, made, others, remaining, rfl⟩
            exact ⟨some renamed, others, ⟨renamed, made, rfl⟩, remaining, rfl⟩
          · rintro ⟨_, others, ⟨renamed, made, rfl⟩, remaining, rfl⟩
            exact ⟨renamed, made, others, remaining, rfl⟩

/-- If each key finds something or nothing, the entries that are found are collected. -/
theorem atomizeKeys_of_collect
    {found : Key → Option Value}
    (each : ∀ key ∈ keys, key.collect style data = .ok (found key)) :
    atomizeKeys style keys data = .ok (Key.entries keys found) := by
  induction keys with
  | nil => simp [atomizeKeys]
  | cons key rest hypothesis =>
      rw [List.forall_mem_cons] at each
      refine atomizeKeys_cons_eq_ok.mpr ⟨_, _, each.1, hypothesis each.2, ?_⟩
      rw [Key.entries_cons]

/-- The entries that are collected are those that the keys find. -/
theorem exists_collect_of_atomizeKeys
    {made : Entries}
    (collected : atomizeKeys style keys data = .ok made) :
    ∃ found, (∀ key ∈ keys, key.collect style data = .ok (found key)) ∧
      made = Key.entries keys found := by
  have each : ∀ key ∈ keys, ∃ found, key.collect style data = .ok found := by
    induction keys generalizing made with
    | nil => simp
    | cons key rest hypothesis =>
        obtain ⟨found, others, looked, remaining, -⟩ := atomizeKeys_cons_eq_ok.mp collected
        exact List.forall_mem_cons.mpr ⟨⟨found, looked⟩, hypothesis remaining⟩
  choose! found each using each
  exact ⟨found, each, Except.ok.inj (collected.symm.trans (atomizeKeys_of_collect each))⟩

end Collected

section Accepted

variable
  {keys : List Key}
  {atomize : Bool}
  {style : KeyStyle}
  {value data : Value}

/-- A map whose keys report what they find, if anything, accepts these entries. -/
theorem keysOutcome_of_reports
    {found : Key → Option Value}
    (read : mapData keys atomize style value = .ok data)
    (each : ∀ key ∈ keys,
      key.report data = .ok ((found key).map fun valid => .ok (key.name, valid))) :
    keysOutcome keys atomize style value = .ok (.ok (.map (Key.entries keys found))) := by
  have reported : List.Forall₂ (fun key report => key.report data = .ok report) keys
      (keys.map fun key => (found key).map fun valid => .ok (key.name, valid)) := by
    rw [List.forall₂_map_right_iff, List.forall₂_same]
    exact each
  refine keysOutcome_eq_ok.mpr ⟨data, _, read, reported, ?_⟩
  refine (Parts.outcome_collect_eq_ok.mpr ⟨_, ?_, rfl⟩).symm
  rw [List.filterMap_map, Key.entries, List.map_filterMap]
  congr 1
  funext key
  cases there : found key <;> simp [there]

/-- A map accepts a value only if each of its keys finds an entry that is accepted, or may
do without one, and answers with the entries that are found. -/
theorem exists_reports_of_keysOutcome
    {output : Value}
    (accepted : keysOutcome keys atomize style value = .ok (.ok output)) :
    ∃ data found, mapData keys atomize style value = .ok data ∧
      (∀ key ∈ keys,
        key.report data = .ok ((found key).map fun valid => .ok (key.name, valid))) ∧
      output = .map (Key.entries keys found) := by
  obtain ⟨data, reports, read, reported, whole⟩ := keysOutcome_eq_ok.mp accepted
  obtain ⟨valid, clean, -⟩ := Parts.outcome_collect_eq_ok.mp whole.symm
  have each : ∀ key ∈ keys, ∃ found : Option Value,
      key.report data = .ok (found.map fun valid => .ok (key.name, valid)) := by
    intro key member
    obtain ⟨report, present, same⟩ := Attempt.exists_answer_of_mem reported member
    cases report with
    | none => exact ⟨none, same⟩
    | some report =>
        have inside : report ∈ reports.filterMap id :=
          List.mem_filterMap.mpr ⟨some report, present, rfl⟩
        rw [clean] at inside
        obtain ⟨entry, -, rfl⟩ := List.mem_map.mp inside
        obtain ⟨called, -⟩ := Key.report_eq_accepted.mp same
        exact ⟨some entry.2, by rw [same, ← called]; rfl⟩
  choose! found each using each
  have again := keysOutcome_of_reports read each
  rw [accepted] at again
  exact ⟨data, found, read, each, Except.ok.inj (Except.ok.inj again)⟩

end Accepted

end DataContract
