import DataContract.Proofs.Schema.Constraining
import DataContract.Proofs.Schema.Report
import DataContract.Proofs.Predicate.TypeCheck

/-!
# Further predicates as a conjunction

With further predicates, a primitive, a list, a map or a union of such accepts the values that
it accepted before and of which all the predicates hold, and its answers are the same.

A union hands the predicates to both sides, and whether it turns to its right side depends on
what its left side reports. Where all the predicates hold, neither side comes to anything but
what it came to before, so that the union takes the same turn; and whichever side accepts a
value has asked all of them.
-/

namespace DataContract

/-- Predicates that hold of a value add nothing to a chain. -/
theorem checkChain_append_of_holds
    {chain extra : List Predicate}
    {value : Value}
    (held : ∀ predicate ∈ extra, predicate.holds value = .ok true) :
    checkChain (chain ++ extra) value = checkChain chain value := by
  induction chain with
  | nil => exact checkChain_eq_accepted.mpr ⟨rfl, held⟩
  | cons first rest hypothesis => exact checkChain_cons_congr rfl hypothesis

namespace Schema

/-- Whether a schema puts further predicates to the value that it is given: it is a primitive,
a list or a map, or a union of such. -/
def ConstrainsInput : Schema → Prop
  | .primitive .. => True
  | .list .. => True
  | .map .. => True
  | .union left right _ => left.ConstrainsInput ∧ right.ConstrainsInput
  | .cast .. => False
  | .custom .. => False

/-- A schema that puts further predicates to its input takes any. -/
theorem exists_constrained
    (schema : Schema)
    (direct : schema.ConstrainsInput)
    (extra : List Predicate) :
    ∃ constrained, schema.constrain extra = .ok constrained := by
  induction schema with
  | primitive tag chain => exact ⟨_, rfl⟩
  | list chain member _ => exact ⟨_, rfl⟩
  | map chain keys atomize style _ => exact ⟨_, rfl⟩
  | union left right options leftHypothesis rightHypothesis =>
      obtain ⟨first, leftMade⟩ := leftHypothesis direct.1
      obtain ⟨second, rightMade⟩ := rightHypothesis direct.2
      exact ⟨_, constrain_union_eq_ok.mpr ⟨first, second, leftMade, rightMade, rfl⟩⟩
  | cast input output caster options _ _ => exact direct.elim
  | custom type => exact direct.elim

section Constrained

variable
  {schema constrained : Schema}
  {extra : List Predicate}
  {value : Value}

/-- Further predicates that hold of a value make no difference to it. -/
theorem validate_constrained_of_holds
    (direct : schema.ConstrainsInput)
    (made : schema.constrain extra = .ok constrained)
    (held : ∀ predicate ∈ extra, predicate.holds value = .ok true) :
    constrained.validate value = schema.validate value := by
  induction schema generalizing constrained with
  | primitive tag chain =>
      cases made
      exact checkChain_append_of_holds held
  | list chain member _ =>
      cases made
      simp only [validate, checkChain_append_of_holds held]
  | map chain keys atomize style _ =>
      cases made
      simp only [validate, checkChain_append_of_holds held]
  | union left right options leftHypothesis rightHypothesis =>
      obtain ⟨first, second, leftMade, rightMade, rfl⟩ := constrain_union_eq_ok.mp made
      have own : ∀ type, left ≠ custom type := by
        rintro type rfl
        exact direct.1
      simp only [validate, leftHypothesis direct.1 leftMade, rightHypothesis direct.2 rightMade,
        isPrimitive_of_constrain own leftMade]
  | cast input output caster options _ _ => exact direct.elim
  | custom type => exact direct.elim

/-- What is accepted with further predicates, all of them hold of. -/
theorem holds_of_constrained_accepts
    {output : Value}
    (direct : schema.ConstrainsInput)
    (made : schema.constrain extra = .ok constrained)
    (accepted : constrained.validate value = .ok (.ok output)) :
    ∀ predicate ∈ extra, predicate.holds value = .ok true := by
  have ofChain
      {chain : List Predicate}
      {passed : Value}
      (accepted : checkChain (chain ++ extra) value = .ok (.ok passed)) :
      ∀ predicate ∈ extra, predicate.holds value = .ok true :=
    fun predicate member =>
      (checkChain_eq_accepted.mp accepted).2 predicate (List.mem_append_right _ member)
  induction schema generalizing constrained output with
  | primitive tag chain =>
      cases made
      exact ofChain accepted
  | list chain member _ =>
      cases made
      exact ofChain (validate_list_eq_accepted.mp accepted).1
  | map chain keys atomize style _ =>
      cases made
      rcases validate_map_eq_ok.mp accepted with ⟨failure, -, rejected⟩ | ⟨passed, -⟩
      · cases rejected
      · exact ofChain passed
  | union left right options leftHypothesis rightHypothesis =>
      obtain ⟨first, second, leftMade, rightMade, rfl⟩ := constrain_union_eq_ok.mp made
      rcases validate_union_eq_ok.mp accepted with
        ⟨answer, byLeft, -⟩ | ⟨failure, -, ⟨-, rejected⟩ | ⟨-, byRight⟩⟩
      · exact leftHypothesis direct.1 leftMade byLeft
      · cases rejected
      · rcases byRight with ⟨answer, byRight, -⟩ | ⟨other, -, rejected⟩
        · exact rightHypothesis direct.2 rightMade byRight
        · cases rejected
  | cast input output caster options _ _ => exact direct.elim
  | custom type => exact direct.elim

end Constrained

/-- Constraining is conjunction: a constrained schema accepts what the schema accepts and all
further predicates hold of, and its answers are those of the schema. -/
theorem constrain_accepts_iff
    (schema : Schema)
    (direct : schema.ConstrainsInput)
    (extra : List Predicate) :
    ∃ constrained, schema.constrain extra = .ok constrained ∧
      ∀ value output, constrained.validate value = .ok (.ok output) ↔
        schema.validate value = .ok (.ok output) ∧
          ∀ predicate ∈ extra, predicate.holds value = .ok true := by
  obtain ⟨constrained, made⟩ := exists_constrained schema direct extra
  refine ⟨constrained, made, fun value output => ⟨fun accepted => ?_, fun ⟨accepted, held⟩ => ?_⟩⟩
  · have held := holds_of_constrained_accepts direct made accepted
    exact ⟨(validate_constrained_of_holds direct made held).symm.trans accepted, held⟩
  · exact (validate_constrained_of_holds direct made held).trans accepted

/-- A text, or whole numbers. -/
def textOrNumbers : Schema :=
  .union (.primitive .string [.typeCheck .string])
    (.list [.typeCheck .list] (.primitive .integer [.typeCheck .integer])) []

theorem constrain_accepts_iff_ofTwo :
    ∃ constrained, textOrNumbers.constrain [.sizeCheck 2] = .ok constrained ∧
      constrained.validate (.text "ab") = .ok (.ok (.text "ab")) ∧
      constrained.validate (.tuple [.int 1, .int 2]) = .ok (.ok (.list [.int 1, .int 2])) ∧
      ∀ output, constrained.validate (.list [.int 1]) ≠ .ok (.ok output) := by
  obtain ⟨constrained, made, accepts⟩ :=
    constrain_accepts_iff textOrNumbers ⟨trivial, trivial⟩ [.sizeCheck 2]
  refine ⟨constrained, made, (accepts _ _).mpr ⟨rfl, ?_⟩, (accepts _ _).mpr ⟨rfl, ?_⟩, ?_⟩
  · rw [List.forall_mem_singleton]
    rfl
  · rw [List.forall_mem_singleton]
    rfl
  · intro output accepted
    have short : (Predicate.sizeCheck 2).holds (.list [.int 1]) = .ok false := rfl
    have held := ((accepts _ _).mp accepted).2 (.sizeCheck 2) List.mem_cons_self
    rw [short] at held
    cases held

end Schema
end DataContract
