import DataContract.Proofs.Failure.Node
import DataContract.Proofs.Schema.Report
import DataContract.Proofs.Spec.Compilation

/-!
# Renamed keys

A map that renames its keys collects the entries of its keys under their own names,
and the entry of a map given in place is renamed before it is collected. What the map
reports for such a key is therefore the outcome for the renamed entry, not for the
entry that was examined: the map given in place renames once more, and its own
predicates see an entry whose undeclared keys are gone. This module says exactly when
that makes no difference.
-/

namespace DataContract

/-- The entry that a map takes for a key: the one under its own name, or else the one
under its name on the wire. -/
def Value.entryFor?
    (data : Value)
    (style : KeyStyle)
    (name : Value) : Attempt (Option Value) := do
  match ← data.entry? name with
  | some value => .ok (some value)
  | none => data.entry? (style.external name)

/-- What a key of a map that renames makes of its entry. -/
def Key.rename
    (key : Key)
    (style : KeyStyle)
    (value : Value) : Attempt Value :=
  if key.inline then key.type.atomizeInline style value else .ok value

/-- The report of a key whose entry comes to an outcome. -/
def Key.reportOf
    (key : Key)
    (outcome : Outcome) : Option (Except Failure (Value × Value)) :=
  some ((outcome.nest [key.name]).map fun valid => (key.name, valid))

/-- Different outcomes make different reports. -/
theorem Key.reportOf_injective (key : Key) : Function.Injective key.reportOf := by
  intro first second same
  cases first with
  | ok output =>
      cases second with
      | ok other => simpa [reportOf, Outcome.nest, Except.map] using same
      | error failure => simp [reportOf, Outcome.nest, Except.map] at same
  | error failure =>
      cases second with
      | ok other => simp [reportOf, Outcome.nest, Except.map] at same
      | error other =>
          have nested : failure.nest [key.name] = other.nest [key.name] := by
            simpa [reportOf, Outcome.nest, Except.map] using same
          rw [Failure.nest_injective [key.name] nested]

/-- A key reports the outcome of the entry under its name. -/
theorem Key.report_of_entry
    {key : Key}
    {data value : Value}
    (found : data.entry? key.name = .ok (some value)) :
    key.report data = (key.type.validate value).map key.reportOf := by
  unfold report
  rw [found]
  cases validated : key.type.validate value with
  | error fault => simp [validated, Except.map]
  | ok outcome => simp [validated, Except.map, reportOf]

/-- The keys of a map are renamed one after another. -/
theorem atomizeKeys_cons
    (style : KeyStyle)
    (key : Key)
    (rest : List Key)
    (data : Value) :
    atomizeKeys style (key :: rest) data = (do
      match ← data.entryFor? style key.name with
      | some value => do
          let renamed ← key.rename style value
          let others ← atomizeKeys style rest data
          .ok ((key.name, renamed) :: others)
      | none => atomizeKeys style rest data) := by
  cases key with
  | mk around name presence type inline =>
      rw [atomizeKeys]
      simp only [Value.entryFor?, Key.rename, Key.name_mk, Key.type_mk, Key.inline_mk,
        bind_assoc]
      cases data.entry? name with
      | error fault => rfl
      | ok own =>
          cases own with
          | some value => cases inline <;> rfl
          | none =>
              cases data.entry? (style.external name) with
              | error fault => rfl
              | ok found =>
                  cases found with
                  | none => rfl
                  | some value => cases inline <;> rfl

section Collected

variable
  {style : KeyStyle}
  {keys : List Key}
  {key : Key}
  {value entry : Value}
  {data : Entries}

/-- The entry of a key is found under its name, renamed, among those that were
collected. -/
theorem get?_atomizeKeys
    (distinct : keys.Pairwise fun earlier later => later.name.sameKey earlier.name = false)
    (member : key ∈ keys)
    (found : value.entryFor? style key.name = .ok (some entry))
    (collected : atomizeKeys style keys value = .ok data) :
    ∃ renamed, key.rename style entry = .ok renamed ∧
      Entries.get? data key.name = some renamed := by
  induction keys generalizing data with
  | nil => simp at member
  | cons first rest hypothesis =>
      rw [atomizeKeys_cons] at collected
      obtain ⟨firstEntry, firstFound, collected⟩ := Attempt.bind_eq_ok.mp collected
      rcases List.mem_cons.mp member with rfl | later
      · obtain rfl : some entry = firstEntry := Except.ok.inj (found.symm.trans firstFound)
        simp only [Attempt.bind_eq_ok, Except.ok.injEq] at collected
        obtain ⟨renamed, made, others, -, rfl⟩ := collected
        exact ⟨renamed, made, by simp [Entries.get?]⟩
      · have apart := List.rel_of_pairwise_cons distinct later
        cases firstEntry with
        | none => exact hypothesis distinct.of_cons later collected
        | some value =>
            simp only [Attempt.bind_eq_ok, Except.ok.injEq] at collected
            obtain ⟨-, -, remaining, collected, rfl⟩ := collected
            obtain ⟨renamed, made, looked⟩ := hypothesis distinct.of_cons later collected
            refine ⟨renamed, made, ?_⟩
            simpa [Entries.get?, apart] using looked

/-- A name under which something can be looked up in a map can be a key. -/
theorem isKey_of_entryFor?
    {given : Entries}
    (found : (Value.map given).entryFor? style key.name = .ok (some entry)) :
    key.name.isKey = true := by
  by_contra unusable
  simp [Value.entryFor?, Value.entry?, Value.contains, unusable] at found

/-- A key of a map that renames reports the outcome for its renamed entry. -/
theorem report_atomizeKeys
    {given : Entries}
    (distinct : keys.Pairwise fun earlier later => later.name.sameKey earlier.name = false)
    (member : key ∈ keys)
    (found : (Value.map given).entryFor? style key.name = .ok (some entry))
    (collected : atomizeKeys style keys (.map given) = .ok data) :
    ∃ renamed, key.rename style entry = .ok renamed ∧
      key.report (.map data) = (key.type.validate renamed).map key.reportOf := by
  obtain ⟨renamed, made, looked⟩ := get?_atomizeKeys distinct member found collected
  refine ⟨renamed, made, Key.report_of_entry ?_⟩
  have usable := isKey_of_entryFor? found
  simp [Value.entry?, Value.contains, Value.pick, Entries.has, usable, looked, Except.map]

end Collected

/-- What the keys of a map come to is never the failure of a single predicate. -/
theorem keysOutcome_ne_predicate
    {keys : List Key}
    {atomize : Bool}
    {style : KeyStyle}
    {value input : Value}
    {path : Path}
    {name : String}
    {args : List Value} :
    keysOutcome keys atomize style value ≠ .ok (.error (.predicate path name args input)) := by
  intro answered
  obtain ⟨data, reports, -, -, whole⟩ := keysOutcome_eq_ok.mp answered
  have several := Parts.outcome_collect_eq_error whole.symm
  cases several

namespace Schema

/-- Two values have the same outcome in a map exactly if they are the same value, or
if both pass the predicates of the map and its keys come to the same for both. A
failed predicate shows the value that it examined. -/
theorem validate_map_eq_ok_iff
    {chain : List Predicate}
    {keys : List Key}
    {atomize : Bool}
    {style : KeyStyle}
    {value other : Value}
    {outcome : Outcome}
    (validated : (map chain keys atomize style).validate value = .ok outcome) :
    (map chain keys atomize style).validate other = .ok outcome ↔
      other = value ∨
      (checkChain chain value = .ok (.ok value) ∧ checkChain chain other = .ok (.ok other) ∧
        keysOutcome keys atomize style other = .ok outcome) := by
  constructor
  · intro alike
    rcases validate_map_eq_ok.mp validated with
      ⟨failure, stopped, rfl⟩ | ⟨passed, answered⟩
    · obtain ⟨-, predicate, -, -, -, -, rfl⟩ := exists_of_checkChain_failed stopped
      rcases validate_map_eq_ok.mp alike with ⟨failure, stopped, same⟩ | ⟨-, answered⟩
      · obtain ⟨-, first, -, -, -, -, rfl⟩ := exists_of_checkChain_failed stopped
        simp only [Predicate.failure, Except.error.injEq, Failure.predicate.injEq] at same
        exact Or.inl same.2.2.2.symm
      · exact absurd answered keysOutcome_ne_predicate
    · rcases validate_map_eq_ok.mp alike with ⟨failure, stopped, rfl⟩ | ⟨passed', answered'⟩
      · obtain ⟨-, predicate, -, -, -, -, rfl⟩ := exists_of_checkChain_failed stopped
        exact absurd answered keysOutcome_ne_predicate
      · exact Or.inr ⟨passed, passed', answered'⟩
  · rintro (rfl | ⟨-, passed, answered⟩)
    · exact validated
    · exact validate_map_eq_ok.mpr (Or.inr ⟨passed, answered⟩)

/-- A map that renames its keys, and accepts a value itself, comes to what its keys
report about their renamed entries. -/
theorem validate_renaming_eq_ok
    {chain : List Predicate}
    {keys : List Key}
    {style : KeyStyle}
    {value : Value}
    {outcome : Outcome}
    (passed : checkChain chain value = .ok (.ok value)) :
    (map chain keys true style).validate value = .ok outcome ↔
      ∃ data reports, atomizeKeys style keys value = .ok data ∧
        List.Forall₂ (fun key report => key.report (.map data) = .ok report) keys reports ∧
        outcome = (Parts.collect (reports.filterMap id)).outcome .map := by
  rw [validate_map_eq_ok, keysOutcome_eq_ok]
  simp only [mapData, if_true, Attempt.map_eq_ok]
  constructor
  · rintro (⟨failure, stopped, -⟩ | ⟨-, _, reports, ⟨data, collected, rfl⟩, reported, same⟩)
    · cases passed.symm.trans stopped
    · exact ⟨data, reports, collected, reported, same⟩
  · rintro ⟨data, reports, collected, reported, same⟩
    exact Or.inr ⟨passed, .map data, reports, ⟨data, collected, rfl⟩, reported, same⟩

/-- What a map that renames its keys reports for a map given in place under one of
them. The outcome of the map is put together from the reports of its keys about their
renamed entries. That key reports the outcome for the entry as it was examined exactly
if nothing stops the renaming and either renaming leaves the entry as it is, or the
entry passes the predicates of the map in place before and after renaming and its keys
come to the same. -/
theorem report_inPlace_iff
    (compiler : Compiler)
    (types : List (String × Spec))
    (scope : Scope)
    (root : Path)
    (entries : List (Value × Spec))
    (list : Spec)
    (schema : Schema)
    (compiled : compiler.compileMap types scope root entries list = .ok schema)
    (atomizes : scope.atomize.truthy = true)
    (key : Key)
    (member : key ∈ schema.keys)
    (inPlace : key.inline = true)
    (given : Entries)
    (entry : Value)
    (outcome : Outcome)
    (passed : checkChain schema.chain (.map given) = .ok (.ok (.map given)))
    (found : (Value.map given).entryFor? scope.style key.name = .ok (some entry))
    (validated : key.type.validate entry = .ok outcome) :
    (∀ whole, schema.validate (.map given) = .ok whole ↔
      ∃ data reports, atomizeKeys scope.style schema.keys (.map given) = .ok data ∧
        List.Forall₂ (fun key report => key.report (.map data) = .ok report)
          schema.keys reports ∧
        whole = (Parts.collect (reports.filterMap id)).outcome .map) ∧
    ((∃ data, atomizeKeys scope.style schema.keys (.map given) = .ok data ∧
        key.report (.map data) = .ok (key.reportOf outcome)) ↔
      (∃ data, atomizeKeys scope.style schema.keys (.map given) = .ok data) ∧
      ∃ renamed, key.rename scope.style entry = .ok renamed ∧
        (renamed = entry ∨
        (checkChain key.type.chain entry = .ok (.ok entry) ∧
          checkChain key.type.chain renamed = .ok (.ok renamed) ∧
          keysOutcome key.type.keys true scope.style renamed = .ok outcome))) := by
  obtain ⟨keys, chain, made, -, rfl⟩ := Compiler.compileMap_eq_ok.mp compiled
  have declared := Compiler.areDeclared_of_compileKeys made
  rw [atomizes] at declared ⊢
  obtain ⟨inner, parts, shape⟩ := declared.inPlace key member inPlace
  have alike (data : Entries)
      (collected : atomizeKeys scope.style keys (.map given) = .ok data) :
      key.report (.map data) = .ok (key.reportOf outcome) ↔
        ∃ renamed, key.rename scope.style entry = .ok renamed ∧
          key.type.validate renamed = .ok outcome := by
    obtain ⟨renamed, remade, reported⟩ :=
      report_atomizeKeys declared.distinct member found collected
    rw [reported, Attempt.map_eq_ok]
    constructor
    · rintro ⟨other, same, reports⟩
      exact ⟨renamed, remade, by rw [same, key.reportOf_injective reports]⟩
    · rintro ⟨other, reremade, same⟩
      obtain rfl := Except.ok.inj (remade.symm.trans reremade)
      exact ⟨outcome, same, rfl⟩
  constructor
  · intro whole
    exact validate_renaming_eq_ok passed
  · rw [shape] at validated
    simp only [shape, validate_map_eq_ok_iff validated] at alike ⊢
    constructor
    · rintro ⟨data, collected, reported⟩
      exact ⟨⟨data, collected⟩, (alike data collected).mp reported⟩
    · rintro ⟨⟨data, collected⟩, agrees⟩
      exact ⟨data, collected, (alike data collected).mpr agrees⟩

/-- The keys of a person, given in place with a predicate of its own. -/
def personEntries : List (Value × Spec) :=
  [(.text "person",
    .tuple
      [.text "map",
      .map
        [(.text "first_name", .text "any"),
        (.tuple [.text "optional", .text "last_name"], .text "any")],
      .list [.tuple [.text "size?", .scalar (.int 2)]]])]

/-- The key of a person, whose map in place must have two entries. -/
def personKey : Key :=
  .mk [] (.text "person") .required
    (.map [.typeCheck .map, .sizeCheck 2]
      [.mk [.text "person"] (.text "first_name") .required
        (.primitive .any [.typeCheck .any]) false,
      .mk [.text "person"] (.text "last_name") .optional
        (.primitive .any [.typeCheck .any]) false]
      true .camel)
    true

/-- A map that renames its keys, with a person under one of them. -/
def personMap : Schema :=
  .map [.typeCheck .map] [personKey] true .camel

theorem compileMap_person (types : List (String × Spec)) :
    Compiler.standard.compileMap types ⟨.bool true, .camel⟩ [] personEntries (.tuple []) =
      .ok personMap := by
  simp [personEntries, Compiler.compileMap, Compiler.compileKeys, Compiler.compileEntry,
    Compiler.compileSpec, Compiler.compileName, Compiler.declaredKey]
  rfl

theorem report_inPlace_iff_person :
    personKey.report
        (.map
          [(.text "person",
            .map [(.text "first_name", .text "A"), (.text "last_name", .text "B")])]) =
      .ok (some (.ok
        (.text "person",
          .map [(.text "first_name", .text "A"), (.text "last_name", .text "B")]))) := by
  have agrees := report_inPlace_iff .standard [] ⟨.bool true, .camel⟩ [] personEntries
    (.tuple []) personMap (compileMap_person []) rfl
    personKey (by simp [personMap, Schema.keys]) rfl
    [(.text "person", .map [(.text "firstName", .text "A"), (.text "lastName", .text "B")])]
    (.map [(.text "firstName", .text "A"), (.text "lastName", .text "B")])
    (.ok (.map [(.text "first_name", .text "A"), (.text "last_name", .text "B")]))
    rfl rfl rfl
  obtain ⟨data, collected, reported⟩ :=
    agrees.2.mpr ⟨⟨_, rfl⟩, _, rfl, Or.inr ⟨rfl, rfl, rfl⟩⟩
  cases collected
  exact reported

/-- On its own the map in place accepts an entry with an undeclared key, by which it
has the size that its predicate demands. Under a map that renames the predicate
examines the entry without that key and fails. -/
theorem inPlace_sees_renamed_entry :
    Compiler.standard.compile (.map personEntries) ⟨some (.bool true), none, []⟩ =
        .ok personMap ∧
      personKey.type.validate
          (.map [(.text "firstName", .text "A"), (.text "extra", .int 2)]) =
        .ok (.ok (.map [(.text "first_name", .text "A")])) ∧
      personMap.validate
          (.map
            [(.text "person",
              .map [(.text "firstName", .text "A"), (.text "extra", .int 2)])]) =
        .ok (.error (.several
          [.predicate [.text "person"] "size?"
            [.int 2, .map [(.text "first_name", .text "A")]]
            (.map [(.text "first_name", .text "A")])])) := by
  refine ⟨?_, rfl, rfl⟩
  rw [Compiler.compile, Compiler.compileSpec]
  exact compileMap_person _

end Schema
end DataContract
