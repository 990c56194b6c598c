import DataContract.Proofs.Attempt
import DataContract.Schema.Validate

/-!
# Entries under names

A map is looked up by names. A name that is a text is the same key as itself only, so
entries under different texts do not get into each other's way.
-/

namespace DataContract

namespace Value

/-- A text equals itself only. -/
theorem eq_of_equals_text
    {name : String}
    {other : Value}
    (equal : (text name).equals other = .ok true) :
    other = text name := by
  cases other with
  | scalar content => cases content <;> simp_all [equals, Scalar.equals, Scalar.number?]
  | _ => simp [equals] at equal

section SameKey

variable {value other : Value}

/-- Values are the same key if they are identical, or equal down to the moments in them. -/
theorem sameKey_iff :
    value.sameKey other = true ↔
      value = other ∨ (value.equals other = .ok true ∧ value.agrees other = true) := by
  rw [sameKey, Bool.or_eq_true, beq_iff_eq, Bool.and_eq_true]
  refine or_congr_right (and_congr_left fun _ => ?_)
  constructor
  · intro found
    split at found
    · assumption
    · cases found
  · intro equal
    rw [equal]

/-- Where only a value itself is equal, only it is the same key. -/
theorem sameKey_iff_eq
    (only : value.equals other = .ok true → value = other) :
    value.sameKey other = true ↔ value = other := by
  rw [sameKey_iff]
  exact ⟨fun same => same.elim id fun equal => only equal.1, .inl⟩

/-- A text is the same key as itself only. -/
theorem sameKey_text
    {name : String} :
    (text name).sameKey other = true ↔ other = text name :=
  (sameKey_iff_eq fun equal => (eq_of_equals_text equal).symm).trans eq_comm

end SameKey

/-- The entry of a map under a key is looked up among its entries. -/
theorem entry?_map
    {entries : Entries}
    {key : Value}
    (usable : key.isKey = true) :
    Value.entry? (map entries) key = .ok (Entries.get? entries key) := by
  simp only [Value.entry?, contains, pick, usable, if_true, Attempt.ok_bind, Entries.has]
  cases Entries.get? entries key <;> rfl

/-- A value that cannot be a key is not looked up in a map. -/
theorem entry?_map_of_not_isKey
    {entries : Entries}
    {key : Value}
    (unusable : key.isKey = false) :
    Value.entry? (map entries) key = .error .wrongKind := by
  simp [Value.entry?, contains, unusable]

end Value

namespace Entries

/-- Whether no entry has the key of an earlier one. -/
def AreDistinct {α : Type} (entries : List (Value × α)) : Prop :=
  entries.Pairwise fun earlier later => later.1.sameKey earlier.1 = false

instance {α : Type} (entries : List (Value × α)) : Decidable (AreDistinct entries) :=
  inferInstanceAs (Decidable (List.Pairwise _ entries))

variable {entries : Entries}

/-- What is found is the value of an entry under the key. -/
theorem exists_mem_of_get?
    {key found : Value}
    (looked : entries.get? key = some found) :
    ∃ entry ∈ entries, key.sameKey entry.1 = true ∧ entry.2 = found := by
  obtain ⟨entry, search, valued⟩ := Option.map_eq_some_iff.mp looked
  have same : key.sameKey entry.1 = true := by simpa using List.find?_some search
  exact ⟨entry, List.mem_of_find?_eq_some search, same, valued⟩

/-- Among distinct entries each is found under its own key. -/
theorem get?_of_mem
    {entry : Value × Value}
    (distinct : AreDistinct entries)
    (member : entry ∈ entries) :
    entries.get? entry.1 = some entry.2 := by
  obtain ⟨before, after, rfl⟩ := List.append_of_mem member
  obtain ⟨-, -, apart⟩ := List.pairwise_append.mp distinct
  have earlier : before.find? (fun other => entry.1.sameKey other.1) = none := by
    rw [List.find?_eq_none]
    intro other inside
    simp [apart other inside entry List.mem_cons_self]
  simp [get?, List.find?_append, earlier]

end Entries
end DataContract
