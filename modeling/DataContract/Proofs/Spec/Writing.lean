import DataContract.Proofs.Schema.Node
import DataContract.Proofs.Spec.Options

/-!
# What can be written

The message of a mistake in a definition displays parts of the specification. A part can be
written if the whole specification can: this module follows what can be written through the
parts of specifications, through sequences of options and through the names that schemas get
from them.
-/

namespace DataContract

namespace Value

attribute [local simp] isWritable areWritable areWritableEntries

theorem areWritable_iff
    {items : List Value} :
    areWritable items = true ↔ ∀ item ∈ items, item.isWritable = true := by
  induction items with
  | nil => simp
  | cons item rest hypothesis => simp [hypothesis]

theorem areWritableEntries_iff
    {entries : Entries} :
    areWritableEntries entries = true ↔
      ∀ entry ∈ entries, entry.1.isWritable = true ∧ entry.2.isWritable = true := by
  induction entries with
  | nil => simp
  | cons entry rest hypothesis => simp [hypothesis, and_assoc]

/-- A number with few digits can be written. -/
theorem isWritable_of_small
    {number : Int}
    (small : number.natAbs < 1000) :
    (int number).isWritable = true := by
  have few (digits : Nat) (enough : 3 ≤ digits) : number.natAbs < Nat.pow 10 digits := by
    have more : 10 ^ 3 ≤ 10 ^ digits := Nat.pow_le_pow_right (by decide) enough
    rw [Nat.pow_eq]
    omega
  rw [isWritable, decide_eq_true_eq]
  unfold wholeTextLimit
  exact few Number.maxWholeDigits (by decide)

/-- The parts of a value that can be written can be written. -/
theorem isWritable_of_items?
    {value : Value}
    {items : List Value}
    (writable : value.isWritable = true)
    (found : value.items? = some items) :
    ∀ item ∈ items, item.isWritable = true := by
  unfold items? at found
  split at found
  · cases found
    simp
  · cases found
    intro item member
    obtain ⟨byte, -, rfl⟩ := List.mem_map.mp member
    have bound := byte.toNat_lt
    exact isWritable_of_small (by omega)
  · cases found
    exact areWritable_iff.mp writable
  · cases found
    exact areWritable_iff.mp writable
  · cases found
    rw [isWritable, areWritableEntries_iff] at writable
    intro item member
    obtain ⟨entry, inside, rfl⟩ := List.mem_map.mp member
    exact (writable entry inside).1
  · rename_i form parts
    rw [isWritable, areWritable_iff] at writable
    split at found
    · cases found
    · cases found
      intro item member
      obtain ⟨field, inside, rfl⟩ := List.mem_map.mp member
      have part := writable field.2 (List.of_mem_zip inside).2
      simp [part]
  · cases found

end Value

namespace Spec

/-- Whether a specification can be written. -/
def IsWritable (spec : Spec) : Prop :=
  spec.toValue.isWritable = true

section Parts

@[simp] theorem isWritable_text (content : String) : (text content).IsWritable := rfl

@[simp] theorem isWritable_list
    {specs : List Spec} :
    (list specs).IsWritable ↔ ∀ spec ∈ specs, spec.IsWritable := by
  simp [IsWritable, toValue, Value.isWritable, toValues_eq_map, Value.areWritable_iff]

@[simp] theorem isWritable_tuple
    {specs : List Spec} :
    (tuple specs).IsWritable ↔ ∀ spec ∈ specs, spec.IsWritable := by
  simp [IsWritable, toValue, Value.isWritable, toValues_eq_map, Value.areWritable_iff]

@[simp] theorem isWritable_map
    {entries : List (Value × Spec)} :
    (map entries).IsWritable ↔
      ∀ entry ∈ entries, entry.1.isWritable = true ∧ entry.2.IsWritable := by
  simp only [IsWritable, toValue, Value.isWritable, toEntries_eq_map,
    Value.areWritableEntries_iff, List.forall_mem_map]

theorem isWritable_definition
    {name : String}
    {inner : Spec}
    {options : CompileOptions} :
    (definition name inner options).IsWritable ↔
      inner.IsWritable ∧ (optionsValue options).isWritable = true := by
  simp [IsWritable, toValue, Value.isWritable, Value.areWritable]

@[simp] theorem isWritable_ofValue
    {value : Value} :
    (ofValue value).IsWritable ↔ value.isWritable = true := by
  rw [IsWritable, toValue_ofValue]

end Parts

/-- The parts of a specification that can be written can be written. -/
theorem isWritable_of_items?
    {spec : Spec}
    {items : List Spec}
    (writable : spec.IsWritable)
    (found : spec.items? = some items) :
    ∀ item ∈ items, item.IsWritable := by
  unfold items? at found
  split at found
  · cases found
    exact isWritable_list.mp writable
  · cases found
    exact isWritable_tuple.mp writable
  · cases found
    rw [isWritable_map] at writable
    intro item member
    obtain ⟨entry, inside, rfl⟩ := List.mem_map.mp member
    exact isWritable_ofValue.mpr (writable entry inside).1
  · cases found
    rw [isWritable_definition] at writable
    simp [field, writable.1, writable.2]
  · obtain ⟨values, known, rfl⟩ := Option.map_eq_some_iff.mp found
    intro item member
    rw [ofValues_eq_map] at member
    obtain ⟨value, inside, rfl⟩ := List.mem_map.mp member
    exact isWritable_ofValue.mpr (Value.isWritable_of_items? writable known value inside)

theorem isInherited_isWritable : IsInherited IsWritable where
  items _ _ writable found := isWritable_of_items? writable found
  values _ writable entry member := (isWritable_map.mp writable entry member).2

section Options

variable
  {spec : Spec}
  {entries : List (Value × Spec)}

/-- The options of a specification that can be written can be written. -/
theorem isWritable_options
    (writable : spec.IsWritable)
    (read : spec.toOptionEntries = .ok entries) :
    ∀ entry ∈ entries, entry.1.isWritable = true ∧ entry.2.IsWritable :=
  isInherited_isWritable.options (fun key => key.isWritable = true)
    (fun _ held entry member => (isWritable_map.mp held entry member).1)
    (fun _ held => held) writable read

theorem isWritable_namedOptions
    {options : Options}
    (writable : ∀ entry ∈ entries, entry.2.IsWritable)
    (named : namedOptions entries = .ok options)
    {name : String}
    {value : Value}
    (found : options.lookup name = some value) :
    value.isWritable = true := by
  obtain ⟨before, after, rfl, -⟩ := List.lookup_eq_some_iff.mp found
  exact forall_namedOptions (fun value => value.isWritable = true) writable named (name, value)
    (by simp)

end Options

end Spec

/-- The tag of a schema that can be written can be written. -/
theorem Schema.isWritable_tag
    {schema : Schema}
    (writable : schema.toValue.isWritable = true) :
    schema.tag.isWritable = true := by
  induction schema with
  | primitive tag chain => rfl
  | list chain member _ => rfl
  | map chain keys atomize style _ => rfl
  | union left right options _ _ =>
      simp only [toValue, Value.isWritable, Value.areWritable, Bool.and_eq_true,
        Value.areWritableEntries_iff] at writable
      rw [tag]
      cases found : options.lookup "name" with
      | none => rfl
      | some name =>
          obtain ⟨before, after, rfl, -⟩ := List.lookup_eq_some_iff.mp found
          exact (writable.2.2.1 (.text "name", name) (by simp [Options.entries])).2
  | cast input output caster options _ outputHypothesis =>
      simp only [toValue, Value.isWritable, Value.areWritable, Bool.and_eq_true] at writable
      exact outputHypothesis writable.2.1
  | custom type => rfl

end DataContract
