import DataContract.Proofs.Spec.Parts

/-!
# Options and predicates in specifications

Options are given as a map or as a sequence of pairs, predicates as a text, a map or any
sequence. What the parts of a specification inherit from it therefore holds of all options and
all predicates that are read from it.
-/

namespace DataContract

section Put

variable {property : α → Prop}

/-- Putting a value under a key adds nothing but the key and the value. -/
theorem Entries.forall_put
    {entries : List (Value × α)}
    {isKey : Value → Prop}
    {key : Value}
    {value : α}
    (held : ∀ entry ∈ entries, isKey entry.1 ∧ property entry.2)
    (ofKey : isKey key)
    (ofValue : property value) :
    ∀ entry ∈ Entries.put entries key value, isKey entry.1 ∧ property entry.2 := by
  induction entries with
  | nil => simp [Entries.put, ofKey, ofValue]
  | cons entry rest hypothesis =>
      rw [List.forall_mem_cons] at held
      obtain ⟨first, others⟩ := held
      rw [Entries.put]
      split
      · rw [List.forall_mem_cons]
        exact ⟨⟨first.1, ofValue⟩, others⟩
      · rw [List.forall_mem_cons]
        exact ⟨first, hypothesis others⟩

theorem PredicateRegistry.forall_put
    {pairs : List (String × α)}
    {name : String}
    {item : α}
    (held : ∀ pair ∈ pairs, property pair.2)
    (ofItem : property item) :
    ∀ pair ∈ PredicateRegistry.put pairs name item, property pair.2 := by
  induction pairs with
  | nil => simp [PredicateRegistry.put, ofItem]
  | cons pair rest hypothesis =>
      rw [List.forall_mem_cons] at held
      obtain ⟨first, others⟩ := held
      rw [PredicateRegistry.put]
      split
      · rw [List.forall_mem_cons]
        exact ⟨ofItem, others⟩
      · rw [List.forall_mem_cons]
        exact ⟨first, hypothesis others⟩

end Put

namespace Spec

section Inherited

variable
  {property : Spec → Prop}
  {spec : Spec}

/-- The options that are read from a specification inherit its properties, and their keys what
these say of plain values. -/
theorem IsInherited.options
    (inherited : IsInherited property)
    (isKey : Value → Prop)
    (keys : ∀ entries, property (.map entries) → ∀ entry ∈ entries, isKey entry.1)
    (plain : ∀ part, property part → isKey part.toValue)
    (held : property spec)
    {entries : List (Value × Spec)}
    (read : spec.toOptionEntries = .ok entries) :
    ∀ entry ∈ entries, isKey entry.1 ∧ property entry.2 := by
  unfold toOptionEntries at read
  split at read
  · cases read
    exact fun entry member => ⟨keys _ held entry member, inherited.values _ held entry member⟩
  · cases read
  · split at read
    · cases read
    · rename_i parts found
      refine Attempt.holds_of_foldlM
        (fun made => ∀ entry ∈ made, isKey entry.1 ∧ property entry.2) ?_ (by simp) read
      intro part member made next before stepped
      have ofPart := inherited.items _ _ held found part member
      obtain ⟨pair, paired, put⟩ := Attempt.bind_eq_ok.mp stepped
      have ofPair : isKey pair.1 ∧ property pair.2 := by
        unfold pairOf at paired
        split at paired
        · rename_i key value items
          cases paired
          have both := inherited.items _ _ ofPart items
          exact ⟨plain key (both key (by simp)), both value (by simp)⟩
        · cases paired
        · cases paired
      split at put
      · cases put
        exact Entries.forall_put before ofPair.1 ofPair.2
      · cases put

/-- The predicates that are read from a specification inherit its properties. -/
theorem IsInherited.predicates
    (inherited : IsInherited property)
    (held : property spec)
    {items : List Spec}
    (read : Compiler.predicateItems spec = .ok items) :
    ∀ item ∈ items, property item := by
  unfold Compiler.predicateItems at read
  split at read
  · cases read
    simpa using held
  · cases read
    simpa using held
  · split at read
    · split at read
      · rename_i parts found
        cases read
        exact inherited.items _ _ held found
      · cases read
    · cases read
      simp

end Inherited

/-- Every named option has the value of one of the entries. -/
theorem forall_namedOptions
    {entries : List (Value × Spec)}
    {options : Options}
    (property : Value → Prop)
    (held : ∀ entry ∈ entries, property entry.2.toValue)
    (named : namedOptions entries = .ok options) :
    ∀ option ∈ options, property option.2 := by
  obtain ⟨pairs, made, same⟩ := Attempt.bind_eq_ok.mp named
  cases same
  have each : ∀ pair ∈ pairs, property pair.2 := by
    intro pair member
    obtain ⟨entry, inside, attempted⟩ :=
      Attempt.exists_item_of_mem (Attempt.mapM_eq_ok.mp made) member
    obtain ⟨name, -, same⟩ := Attempt.bind_eq_ok.mp attempted
    cases same
    exact held entry inside
  refine List.foldlRecOn pairs _ (motive := fun (made : Options) => ∀ pair ∈ made, property pair.2)
    (by simp) ?_
  intro made before pair member
  exact PredicateRegistry.forall_put before (each pair member)

end Spec
end DataContract
