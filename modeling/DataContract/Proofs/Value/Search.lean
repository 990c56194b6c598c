import DataContract.Proofs.Value.Inquiry

/-!
# What a search comes to

A value is searched for among the items of another up to the first that is equal to it, and the
search stops at an item for which it is not defined whether it is. In a byte string whole numbers
can be searched for as far as they are bytes.
-/

namespace DataContract
namespace Value

open Inquiry

/-- The items among which a value is searched for one after another. -/
def searched? : Value → Option (List Value)
  | .list items => some items
  | .tuple items => some items
  | .record form parts => if form.fields.isEmpty then none else some (fieldPairs form parts)
  | _ => none

/-- The faults with which the search for a value in another stops: a whole number that is no byte
is searched for in a byte string, or the search comes to an item for which it is not defined
whether it equals the value. -/
inductive SearchStops (container value : Value) : Fault → Prop
  | byte
      {content : List UInt8}
      {number : Int}
      (bytes : container = .bytes content)
      (whole : value.whole? = some number)
      (outside : number < 0 ∨ 256 ≤ number) :
      SearchStops container value .badContent
  | item
      {items : List Value}
      {item : Value}
      (searched : container.searched? = some items)
      (reached : Reaches (fun earlier => earlier.equalsAsPart value = .ok false) items item)
      (apart : item.isSame value = false)
      (stuck : equality.IsStuck item value) :
      SearchStops container value .undefinedDecimal

theorem memberOf_eq_error
    {items : List Value}
    {value : Value}
    {fault : Fault} :
    memberOf items value = .error fault ↔
      ∃ item, Reaches (fun earlier => earlier.equalsAsPart value = .ok false) items item ∧
        item.equalsAsPart value = .error fault := by
  induction items with
  | nil => simp [memberOf]
  | cons item rest hypothesis =>
      rw [memberOf, Attempt.bind_eq_error]
      simp [Reaches.cons_iff, or_and_right, exists_or, hypothesis, and_assoc]

/-- A search among items stops at the first that cannot be compared with the value. -/
theorem memberOf_eq_error_iff
    {container : Value}
    {items : List Value}
    (searched : container.searched? = some items)
    {value : Value}
    {fault : Fault} :
    memberOf items value = .error fault ↔ container.SearchStops value fault := by
  simp only [memberOf_eq_error, equalsAsPart_eq_error, equals_eq_error_iff]
  constructor
  · rintro ⟨item, reached, apart, rfl, stuck⟩
    exact .item searched reached apart stuck
  · rintro (⟨rfl, -, -⟩ | ⟨found, reached, apart, stuck⟩)
    · cases searched
    · obtain rfl := Option.some.inj (searched.symm.trans found)
      exact ⟨_, reached, apart, rfl, stuck⟩

/-- The search for a value in a byte string stops at a whole number that is no byte. -/
theorem contains_bytes_eq_error_iff
    {content : List UInt8}
    {value : Value}
    {fault : Fault} :
    (bytes content).contains value = .error fault ∧ fault ≠ .wrongKind ↔
      (bytes content).SearchStops value fault := by
  constructor
  · rintro ⟨stopped, other⟩
    simp only [contains] at stopped
    split at stopped
    · cases stopped
    · split at stopped
      · rename_i number whole
        split at stopped
        · cases stopped
        · rename_i outside
          cases stopped
          exact .byte rfl whole (by simp at outside; omega)
      · cases stopped
        exact absurd rfl other
  · intro stops
    cases stops with
    | @byte _ number same whole outside =>
        have noByte : (decide (0 ≤ number) && decide (number < 256)) = false := by
          simp
          omega
        refine ⟨?_, nofun⟩
        simp only [contains]
        split
        · cases whole
        · rw [whole]
          simp [noByte]
    | item searched => cases searched

/-- The search for a value stops, unless one of the two is of a wrong kind, exactly with these
faults. -/
theorem contains_eq_error_iff
    {container value : Value}
    {fault : Fault} :
    container.contains value = .error fault ∧ fault ≠ .wrongKind ↔
      container.SearchStops value fault := by
  have searching {items : List Value} (searched : container.searched? = some items)
      (same : container.contains value = memberOf items value) :
      container.contains value = .error fault ∧ fault ≠ .wrongKind ↔
        container.SearchStops value fault := by
    rw [same, memberOf_eq_error_iff searched]
    refine ⟨And.left, fun stops => ⟨stops, ?_⟩⟩
    rintro rfl
    cases stops
  have others (plain : ∀ content, container ≠ .bytes content)
      (unsearched : container.searched? = none)
      (answers : ∀ fault, container.contains value = .error fault → fault = .wrongKind) :
      container.contains value = .error fault ∧ fault ≠ .wrongKind ↔
        container.SearchStops value fault := by
    constructor
    · rintro ⟨stopped, other⟩
      exact absurd (answers fault stopped) other
    · rintro (⟨same, -, -⟩ | ⟨searched, -, -, -⟩)
      · exact absurd same (plain _)
      · rw [unsearched] at searched
        cases searched
  cases container with
  | list items => exact searching rfl rfl
  | tuple items => exact searching rfl rfl
  | record form parts =>
      cases visible : form.fields.isEmpty with
      | false =>
          have found : (record form parts).searched? = some (fieldPairs form parts) := by
            simp [searched?, visible]
          exact searching found (by simp [contains, visible])
      | true => exact others nofun (by simp [searched?, visible]) (by simp [contains, visible])
  | map entries =>
      refine others nofun rfl fun fault stopped => ?_
      simp only [contains] at stopped
      split at stopped
      · cases stopped
      · cases stopped
        rfl
  | scalar content =>
      cases content with
      | bytes content => exact contains_bytes_eq_error_iff
      | text content =>
          refine others nofun rfl fun fault stopped => ?_
          simp only [contains] at stopped
          split at stopped
          · cases stopped
          · cases stopped
            rfl
      | _ => exact others nofun rfl (by simp [contains])
  | member enumeration name content => exact others nofun rfl (by simp [contains])
  | handle label => exact others nofun rfl (by simp [contains])

end Value
end DataContract
