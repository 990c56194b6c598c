import DataContract.Proofs.Attempt
import DataContract.Spec.Compile

/-!
# Parts of specifications

Compiling looks at the parts of a specification one after another, whatever form they are given
in, and at the values of a map. This module tells what the parts are of plain values and of
definitions of them, and what properties parts inherit.
-/

namespace DataContract
namespace Spec

mutual

/-- A plain value is written as it was. -/
@[simp] theorem toValue_ofValue (value : Value) : (ofValue value).toValue = value := by
  match value with
  | .scalar _ | .member .. | .record .. | .handle _ => rw [ofValue, toValue]
  | .list items | .tuple items => rw [ofValue, toValue, toValues_ofValues items]
  | .map entries => rw [ofValue, toValue, toEntries_ofEntries entries]

theorem toValues_ofValues (values : List Value) : toValues (ofValues values) = values := by
  match values with
  | [] => rw [ofValues, toValues]
  | value :: rest => rw [ofValues, toValues, toValue_ofValue value, toValues_ofValues rest]

theorem toEntries_ofEntries (entries : Entries) : toEntries (ofEntries entries) = entries := by
  match entries with
  | [] => rw [ofEntries, toEntries]
  | (key, value) :: rest =>
      rw [ofEntries, toEntries, toValue_ofValue value, toEntries_ofEntries rest]

end

theorem toValues_eq_map (specs : List Spec) : toValues specs = specs.map toValue := by
  induction specs with
  | nil => rfl
  | cons spec rest hypothesis => rw [toValues, hypothesis, List.map_cons]

theorem ofValues_eq_map (values : List Value) : ofValues values = values.map ofValue := by
  induction values with
  | nil => rfl
  | cons value rest hypothesis => rw [ofValues, hypothesis, List.map_cons]

theorem ofEntries_eq_map (entries : Entries) :
    ofEntries entries = entries.map fun entry => (entry.1, ofValue entry.2) := by
  induction entries with
  | nil => rfl
  | cons entry rest hypothesis => rw [ofEntries, hypothesis, List.map_cons]

theorem toEntries_eq_map
    (entries : List (Value × Spec)) :
    toEntries entries = entries.map fun entry => (entry.1, entry.2.toValue) := by
  induction entries with
  | nil => rfl
  | cons entry rest hypothesis => rw [toEntries, hypothesis, List.map_cons]

/-- Whether the parts of a specification, one after another or as values of a map, have a
property that the specification has. -/
structure IsInherited (property : Spec → Prop) : Prop where
  /-- The items of what has it have it. -/
  items : ∀ whole items, property whole → whole.items? = some items →
    ∀ item ∈ items, property item
  /-- The values of a map that has it have it. -/
  values : ∀ entries, property (.map entries) → ∀ entry ∈ entries, property entry.2

namespace IsInherited

variable {own : Spec → Prop}

theorem ofDefinition
    (inherited : IsInherited own)
    {name : String}
    {inner : Spec}
    {options : CompileOptions}
    (held : own (.definition name inner options)) :
    own inner := by
  have fields := inherited.items _ _ held rfl (field "spec" inner) (by simp)
  exact inherited.items _ _ fields rfl inner (by simp)

theorem ofList
    (inherited : IsInherited own)
    {specs : List Spec}
    (held : own (.list specs)) :
    ∀ spec ∈ specs, own spec :=
  inherited.items _ _ held rfl

theorem ofTuple
    (inherited : IsInherited own)
    {specs : List Spec}
    (held : own (.tuple specs)) :
    ∀ spec ∈ specs, own spec :=
  inherited.items _ _ held rfl

end IsInherited

/-- Whether a specification is found in another one: it is the whole or is found in one of the
parts. -/
inductive Contains : Spec → Spec → Prop
  | whole (spec : Spec) : Contains spec spec
  | item
      (whole item part : Spec)
      (items : List Spec)
      (found : whole.items? = some items)
      (member : item ∈ items)
      (inside : Contains item part) :
      Contains whole part
  | value
      (entries : List (Value × Spec))
      (entry : Value × Spec)
      (part : Spec)
      (member : entry ∈ entries)
      (inside : Contains entry.2 part) :
      Contains (.map entries) part

/-- What holds of all that is found in a specification holds of all that is found in its parts. -/
theorem isInherited_contains (property : Spec → Prop) :
    IsInherited fun spec => ∀ part, spec.Contains part → property part where
  items whole items held found item member part inside :=
    held part (.item whole item part items found member inside)
  values entries held entry member part inside :=
    held part (.value entries entry part member inside)

/-- What is inherited by parts is inherited by all that is found in a specification. -/
theorem IsInherited.ofContains
    {property : Spec → Prop}
    (inherited : IsInherited property)
    {whole part : Spec}
    (inside : whole.Contains part)
    (held : property whole) :
    property part := by
  induction inside with
  | whole spec => exact held
  | item whole item part items found member _ hypothesis =>
      exact hypothesis (inherited.items whole items held found item member)
  | value entries entry part member _ hypothesis =>
      exact hypothesis (inherited.values entries held entry member)

/-- Whether a specification is a plain value. -/
def IsPlain (spec : Spec) : Prop :=
  ∃ value, spec = ofValue value

/-- Whether a specification is a plain value or a named definition of one. -/
def IsLiteral (spec : Spec) : Prop :=
  spec.IsPlain ∨ ∃ name inner options, spec = .definition name inner options ∧ inner.IsPlain

theorem isPlain_of_mem_ofValues
    {values : List Value}
    {item : Spec}
    (member : item ∈ ofValues values) :
    item.IsPlain := by
  rw [ofValues_eq_map] at member
  obtain ⟨value, -, same⟩ := List.mem_map.mp member
  exact ⟨value, same.symm⟩

/-- The parts of a plain value are plain values. -/
theorem isPlain_of_items?
    {spec item : Spec}
    {items : List Spec}
    (plain : spec.IsPlain)
    (found : spec.items? = some items)
    (member : item ∈ items) :
    item.IsPlain := by
  obtain ⟨value, rfl⟩ := plain
  cases value with
  | list values | tuple values =>
      cases found
      exact isPlain_of_mem_ofValues member
  | map entries =>
      cases found
      obtain ⟨entry, -, same⟩ := List.mem_map.mp member
      exact ⟨entry.1, same.symm⟩
  | scalar content | record form parts =>
      obtain ⟨values, -, rfl⟩ := Option.map_eq_some_iff.mp found
      exact isPlain_of_mem_ofValues member
  | member _ _ _ | handle _ => cases found

theorem isInherited_isLiteral : IsInherited IsLiteral where
  items whole items held found item member := by
    obtain plain | ⟨name, inner, options, rfl, value, rfl⟩ := held
    · exact .inl (isPlain_of_items? plain found member)
    · cases found
      simp only [List.mem_cons, List.not_mem_nil, or_false] at member
      rcases member with rfl | rfl | rfl
      · exact .inl ⟨.tuple [.text "name", .text name], rfl⟩
      · exact .inl ⟨.tuple [.text "spec", value], rfl⟩
      · exact .inl ⟨.tuple [.text "opts", optionsValue options], rfl⟩
  values entries held entry member := by
    obtain ⟨value, same⟩ | ⟨_, _, _, same, -⟩ := held
    · cases value with
      | map plain =>
          cases same
          rw [ofEntries_eq_map] at member
          obtain ⟨plain, -, rfl⟩ := List.mem_map.mp member
          exact .inl ⟨plain.2, rfl⟩
      | _ => cases same
    · cases same

/-- A literal brings no schemas, predicates or casters. -/
theorem ne_of_isLiteral
    {part : Spec}
    (literal : part.IsLiteral) :
    (∀ type, part ≠ .compiled type) ∧ (∀ single, part ≠ .predicate single) ∧
      ∀ function, part ≠ .caster function := by
  obtain ⟨value, rfl⟩ | ⟨name, inner, options, rfl, -⟩ := literal
  · cases value <;> simp [ofValue]
  · simp

end Spec
end DataContract
