import DataContract.Proofs.Number.Quantity
import DataContract.Proofs.Value.Comparison
import DataContract.Proofs.Value.Lookup

/-!
# Names of keys

A name is a text, a whole number or a member of an enumeration. A text and a member are the
same key as themselves only, and whole numbers are the same key if they are the same number,
truth values being the numbers 0 and 1. Among names it does not matter which of two is looked
up and which is found.
-/

namespace DataContract

namespace Value

variable {value other : Value}

/-! ## Texts and members -/

section Solid

variable
  {enumeration name : String}
  {content : Value}

/-- A text is equalled by itself only. -/
theorem eq_text_of_equals
    (equal : value.equals (text name) = .ok true) :
    value = text name := by
  cases value with
  | scalar content => cases content <;> simp_all [equals, Scalar.equals, Scalar.number?]
  | record form parts => cases form <;> simp [equals] at equal
  | _ => simp [equals] at equal

/-- Only a text is the same key as a text. -/
theorem sameKey_text_right : value.sameKey (text name) = true ↔ value = text name :=
  sameKey_iff_eq eq_text_of_equals

/-- A member of an enumeration equals itself only. -/
theorem eq_of_equals_member
    (equal : (member enumeration name content).equals other = .ok true) :
    other = member enumeration name content := by
  cases other with
  | member _ _ _ =>
      simp only [equals, Except.ok.injEq, Bool.and_eq_true, beq_iff_eq] at equal
      obtain ⟨⟨rfl, rfl⟩, rfl⟩ := equal
      rfl
  | record form parts => cases form <;> simp [equals] at equal
  | _ => simp [equals] at equal

/-- A member of an enumeration is equalled by itself only. -/
theorem eq_member_of_equals
    (equal : value.equals (member enumeration name content) = .ok true) :
    value = member enumeration name content := by
  cases value with
  | member _ _ _ =>
      simp only [equals, Except.ok.injEq, Bool.and_eq_true, beq_iff_eq] at equal
      obtain ⟨⟨rfl, rfl⟩, rfl⟩ := equal
      rfl
  | record form parts => cases form <;> simp [equals] at equal
  | _ => simp [equals] at equal

/-- A member of an enumeration is the same key as itself only. -/
theorem sameKey_member :
    (member enumeration name content).sameKey other = true ↔
      other = member enumeration name content :=
  (sameKey_iff_eq fun equal => (eq_of_equals_member equal).symm).trans eq_comm

/-- Only a member of an enumeration is the same key as that member. -/
theorem sameKey_member_right :
    value.sameKey (member enumeration name content) = true ↔
      value = member enumeration name content :=
  sameKey_iff_eq eq_member_of_equals

end Solid

/-! ## Whole numbers -/

section Whole

variable {number same : Int}

/-- A value of a whole kind counts as its number. -/
theorem exists_number?_of_whole?
    (whole : value.whole? = some number) :
    ∃ content, value = scalar content ∧ content.number? = some (.ofInt number) := by
  cases value with
  | scalar content => cases content <;> simp_all [whole?, Scalar.number?]
  | _ => simp [whole?] at whole

/-- Values of a whole kind are the same key if they are the same number. -/
theorem sameKey_whole
    (left : value.whole? = some number)
    (right : other.whole? = some same) :
    value.sameKey other = true ↔ number = same := by
  obtain ⟨content, rfl, counted⟩ := exists_number?_of_whole? left
  obtain ⟨otherContent, rfl, otherCounted⟩ := exists_number?_of_whole? right
  have agree : (scalar content).agrees (scalar otherContent) = true := by
    cases content <;> simp_all [agrees, whole?]
  have equal : (scalar content).equals (scalar otherContent) = .ok true ↔ number = same := by
    simp [equals, Scalar.equals, counted, otherCounted, isSignaling_ofInt,
      Number.Decimal.compare?_ofInt_eq_eq]
  rw [sameKey_iff, equal]
  constructor
  · rintro (identical | ⟨same, -⟩)
    · rw [identical, right] at left
      exact (Option.some.inj left).symm
    · exact same
  · rintro rfl
    exact .inr ⟨rfl, agree⟩

/-- What is the same key as a whole number can be a key. -/
theorem isKey_of_sameKey_whole
    (whole : other.whole? = some number)
    (same : value.sameKey other = true) :
    value.isKey = true := by
  obtain ⟨content, rfl, counted⟩ := exists_number?_of_whole? whole
  rcases sameKey_iff.mp same with rfl | ⟨equal, -⟩
  · cases content <;> simp_all [isKey, whole?]
  · cases value with
    | scalar found =>
        cases found with
        | decimal found =>
            have own : (Scalar.decimal found).number? = some found := rfl
            simp only [equals, Scalar.equals, own, counted] at equal
            cases signaling : found.isSignaling <;> simp_all [isKey]
        | _ => rfl
    | record form parts => cases form <;> simp [equals] at equal
    | _ => simp [equals] at equal

end Whole

/-! ## Names -/

/-- Whether a value is a text, a whole number or a member of an enumeration. -/
def isName : Value → Bool
  | text _ => true
  | member .. => true
  | value => value.whole?.isSome

/-- A name is a text, a member or of a whole kind. -/
theorem isName_cases
    (named : value.isName = true) :
    (∃ content, value = text content) ∨
      (∃ enumeration name content, value = member enumeration name content) ∨
      ∃ number, value.whole? = some number := by
  cases value with
  | scalar content =>
      cases content with
      | text content => exact .inl ⟨content, rfl⟩
      | int _ | bool _ => exact .inr (.inr ⟨_, rfl⟩)
      | _ => simp [isName, whole?] at named
  | member enumeration name content => exact .inr (.inl ⟨enumeration, name, content, rfl⟩)
  | _ => simp [isName, whole?] at named

/-- What is the same key as a name can be a key. -/
theorem isKey_of_sameKey
    (named : other.isName = true)
    (same : value.sameKey other = true) :
    value.isKey = true := by
  rcases isName_cases named with ⟨content, rfl⟩ | ⟨enumeration, name, content, rfl⟩ | ⟨_, whole⟩
  · rw [sameKey_text_right.mp same]
    rfl
  · rw [sameKey_member_right.mp same]
    rfl
  · exact isKey_of_sameKey_whole whole same

/-- A name can be a key. -/
theorem isKey_of_isName
    (named : value.isName = true) :
    value.isKey = true :=
  isKey_of_sameKey named (sameKey_self value)

/-- Among names it does not matter which of two is looked up. -/
theorem sameKey_comm_of_isName
    (named : value.isName = true)
    (otherNamed : other.isName = true) :
    value.sameKey other = true ↔ other.sameKey value = true := by
  rcases isName_cases named with ⟨content, rfl⟩ | ⟨enumeration, name, content, rfl⟩ | ⟨_, whole⟩
  · rw [sameKey_text, sameKey_text_right]
  · rw [sameKey_member, sameKey_member_right]
  rcases isName_cases otherNamed with
    ⟨content, rfl⟩ | ⟨enumeration, name, content, rfl⟩ | ⟨_, otherWhole⟩
  · rw [sameKey_text, sameKey_text_right]
  · rw [sameKey_member, sameKey_member_right]
  · rw [sameKey_whole whole otherWhole, sameKey_whole otherWhole whole, eq_comm]

end Value
end DataContract
