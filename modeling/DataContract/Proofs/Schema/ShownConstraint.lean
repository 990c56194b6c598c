import DataContract.Proofs.Predicate.TypeCheck
import DataContract.Proofs.Schema.Mismatch
import DataContract.Proofs.Schema.Recognition

/-!
# Constraints that unions show

A union of primitives shows a constraint that tries all its alternatives, however they are
nested. The union itself may stay with one of them: if a value passes the type check of a
primitive on the left and fails another of its predicates, what is on the right is not tried.

What the union accepts is therefore accepted by the constraint. It is the other way round, too,
if the value does not pass the type checks of two different alternatives: the one that accepts it
is then the only one that a union could have stayed with.
-/

namespace DataContract

namespace Constraint

/-- The conjunction of a chain of predicates comes to what the chain comes to. -/
theorem apply_ofChain
    (chain : List Predicate)
    (value : Value) :
    (ofChain chain).apply value = checkChain chain value := by
  rw [ofChain, apply]
  induction chain generalizing value with
  | nil => rfl
  | cons predicate rest hypothesis =>
      rw [List.map_cons, applyAll, apply, checkChain_cons]
      cases predicate.check value with
      | error fault => rfl
      | ok outcome =>
          cases outcome with
          | ok accepted => exact hypothesis accepted
          | error failure => rfl

end Constraint

namespace Schema

/-- Whether a schema is put together from primitives by unions. Each primitive begins with its
type check. -/
inductive IsSum : Schema → Prop
  | primitive
      (tag : Tag)
      (isType : Predicate)
      (extra : List Predicate)
      (named : isType.name = Failure.typePredicate) :
      IsSum (.primitive tag (isType :: extra))
  | union
      (left right : Schema)
      (options : Options)
      (first : IsSum left)
      (second : IsSum right) :
      IsSum (.union left right options)

/-- The alternatives of a schema from left to right, those of unions inside unions included. -/
def alternatives : Schema → List Schema
  | .union left right _ => left.alternatives ++ right.alternatives
  | other => [other]

/-- Whether every alternative has an answer for a value, since none of the predicates that are
asked about it stops. -/
def Answers
    (schema : Schema)
    (value : Value) : Prop :=
  ∀ alternative ∈ schema.alternatives, ∃ outcome, alternative.validate value = .ok outcome

/-- Whether a value does not pass the type checks of two different alternatives. -/
def TellsApart
    (schema : Schema)
    (value : Value) : Prop :=
  ∀ first ∈ schema.alternatives, ∀ second ∈ schema.alternatives,
    ChecksType value true first.chain → ChecksType value true second.chain → first = second

section Sum

variable
  {schema first second : Schema}
  {options : Options}
  {constraint : Constraint}
  {value output : Value}

theorem answers_union :
    (union first second options).Answers value ↔ first.Answers value ∧ second.Answers value := by
  simp only [Answers, alternatives, List.forall_mem_append]

/-- What is told apart in a union is told apart on both of its sides. -/
theorem TellsApart.sides
    (apart : (union first second options).TellsApart value) :
    first.TellsApart value ∧ second.TellsApart value := by
  constructor
  · intro one member other present
    exact apart one (List.mem_append_left _ member) other (List.mem_append_left _ present)
  · intro one member other present
    exact apart one (List.mem_append_right _ member) other (List.mem_append_right _ present)

/-- A value that is accepted by an alternative has passed its type check. -/
theorem IsSum.checksType_of_accepted
    (sum : schema.IsSum)
    {alternative : Schema}
    (member : alternative ∈ schema.alternatives)
    (accepted : alternative.validate value = .ok (.ok output)) :
    ChecksType value true alternative.chain := by
  induction sum with
  | primitive tag isType extra named =>
      obtain rfl := List.mem_singleton.mp member
      have held := (checkChain_eq_accepted.mp accepted).2 isType List.mem_cons_self
      exact ⟨isType, extra, rfl, named, held⟩
  | union left right options _ _ leftHypothesis rightHypothesis =>
      rcases List.mem_append.mp member with inside | inside
      · exact leftHypothesis inside
      · exact rightHypothesis inside

/-- A union stays with a primitive only if the value has passed its type check: a failure of the
check itself is one that the union passes over. -/
theorem IsSum.checksType_of_commits
    (sum : schema.IsSum)
    {failure : Failure}
    (fails : schema.validate value = .ok (.error failure))
    (commits : schema.commitsTo failure = true) :
    schema.alternatives = [schema] ∧ ChecksType value true schema.chain := by
  cases sum with
  | union left right options _ _ => cases commits
  | primitive tag isType extra named =>
      obtain ⟨before, predicate, after, split, earlier, -, rfl⟩ :=
        exists_of_checkChain_failed fails
      refine ⟨rfl, isType, extra, rfl, named, ?_⟩
      cases before with
      | nil =>
          obtain ⟨rfl, -⟩ := List.cons.inj split
          simp [commitsTo, isPrimitive, Predicate.failure, Failure.isPastTypeCheck, named]
            at commits
      | cons first rest =>
          obtain ⟨rfl, -⟩ := List.cons.inj split
          exact earlier isType List.mem_cons_self

/-- A sum comes to an outcome if its alternatives do. -/
theorem IsSum.exists_validate
    (sum : schema.IsSum)
    (answers : schema.Answers value) :
    ∃ outcome, schema.validate value = .ok outcome := by
  induction sum with
  | primitive tag isType extra named => exact answers _ List.mem_cons_self
  | union left right options _ _ leftHypothesis rightHypothesis =>
      obtain ⟨leftAnswers, rightAnswers⟩ := answers_union.mp answers
      obtain ⟨first, leftMade⟩ := leftHypothesis leftAnswers
      obtain ⟨second, rightMade⟩ := rightHypothesis rightAnswers
      cases first with
      | ok accepted => exact ⟨_, validate_union_of_accepted leftMade⟩
      | error failure =>
          cases commits : left.commitsTo failure with
          | true => exact ⟨_, validate_union_of_commits leftMade commits⟩
          | false => exact ⟨_, by rw [validate_union_of_passed leftMade commits, rightMade]; rfl⟩

/-- What a sum accepts is accepted by one of its alternatives, and handed on as it is. -/
theorem IsSum.exists_alternative
    (sum : schema.IsSum)
    (accepted : schema.validate value = .ok (.ok output)) :
    output = value ∧
      ∃ alternative ∈ schema.alternatives, alternative.validate value = .ok (.ok value) := by
  induction sum with
  | primitive tag isType extra named =>
      obtain rfl := eq_of_checkChain accepted
      exact ⟨rfl, _, List.mem_cons_self, accepted⟩
  | union left right options _ _ leftHypothesis rightHypothesis =>
      rcases validate_union_eq_ok.mp accepted with
        ⟨answer, byLeft, same⟩ | ⟨failure, -, ⟨-, rejected⟩ | ⟨-, byRight⟩⟩
      · cases same
        obtain ⟨handed, alternative, member, accepts⟩ := leftHypothesis byLeft
        exact ⟨handed, alternative, List.mem_append_left _ member, accepts⟩
      · cases rejected
      · rcases byRight with ⟨answer, byRight, same⟩ | ⟨other, -, rejected⟩
        · cases same
          obtain ⟨handed, alternative, member, accepts⟩ := rightHypothesis byRight
          exact ⟨handed, alternative, List.mem_append_right _ member, accepts⟩
        · cases rejected

/-- A sum accepts what one of its alternatives accepts, if the type checks tell them apart. -/
theorem IsSum.validate_of_alternative
    (sum : schema.IsSum)
    (answers : schema.Answers value)
    (apart : schema.TellsApart value)
    {alternative : Schema}
    (member : alternative ∈ schema.alternatives)
    (accepts : alternative.validate value = .ok (.ok value)) :
    schema.validate value = .ok (.ok value) := by
  induction sum with
  | primitive tag isType extra named =>
      obtain rfl := List.mem_singleton.mp member
      exact accepts
  | union left right options leftSum rightSum leftHypothesis rightHypothesis =>
      obtain ⟨leftAnswers, rightAnswers⟩ := answers_union.mp answers
      rcases List.mem_append.mp member with inside | inside
      · exact validate_union_of_accepted (leftHypothesis leftAnswers apart.sides.1 inside)
      have rightAccepts := rightHypothesis rightAnswers apart.sides.2 inside
      obtain ⟨outcome, made⟩ := leftSum.exists_validate leftAnswers
      cases outcome with
      | ok accepted =>
          obtain ⟨rfl, -⟩ := leftSum.exists_alternative made
          exact validate_union_of_accepted made
      | error failure =>
          have passed : left.commitsTo failure = false := by
            by_contra commits
            rw [Bool.not_eq_false] at commits
            obtain ⟨alone, checked⟩ := leftSum.checksType_of_commits made commits
            have inLeft : left ∈ (Schema.union left right options).alternatives :=
              List.mem_append_left _ (by rw [alone]; exact List.mem_cons_self)
            obtain rfl := apart left inLeft alternative member checked
              (rightSum.checksType_of_accepted inside accepts)
            cases made.symm.trans accepts
          rw [validate_union_of_passed made passed, rightAccepts]
          rfl

/-- The constraint that a sum shows accepts what one of the alternatives accepts, and refuses what
none of them does. -/
theorem IsSum.constraint_decides
    (sum : schema.IsSum)
    (shown : schema.constraints = .ok constraint)
    (answers : schema.Answers value) :
    constraint.apply value = .ok (.ok value) ∧
        (∃ alternative ∈ schema.alternatives, alternative.validate value = .ok (.ok value)) ∨
      (∃ failure, constraint.apply value = .ok (.error failure)) ∧
        ∀ alternative ∈ schema.alternatives, alternative.validate value ≠ .ok (.ok value) := by
  induction sum generalizing constraint with
  | primitive tag isType extra named =>
      cases shown
      rw [Constraint.apply_ofChain]
      obtain ⟨outcome, made⟩ := answers _ List.mem_cons_self
      have checked : checkChain (isType :: extra) value = .ok outcome := made
      cases outcome with
      | ok accepted =>
          obtain rfl := eq_of_checkChain checked
          exact .inl ⟨checked, _, List.mem_cons_self, made⟩
      | error failure =>
          refine .inr ⟨⟨failure, checked⟩, ?_⟩
          intro alternative member accepts
          obtain rfl := List.mem_singleton.mp member
          cases made.symm.trans accepts
  | union left right options _ _ leftHypothesis rightHypothesis =>
      obtain ⟨leftAnswers, rightAnswers⟩ := answers_union.mp answers
      simp only [constraints, Attempt.bind_eq_ok, alternative_eq_ok] at shown
      obtain ⟨first, leftShown, second, rightShown, -, rfl⟩ := shown
      rw [Constraint.apply, alternatives, List.forall_mem_append]
      rcases leftHypothesis leftShown leftAnswers with
        ⟨applied, alternative, member, accepts⟩ | ⟨⟨failure, applied⟩, leftRefuses⟩
      · rw [applied]
        exact .inl ⟨rfl, alternative, List.mem_append_left _ member, accepts⟩
      rcases rightHypothesis rightShown rightAnswers with
        ⟨otherApplied, alternative, member, accepts⟩ | ⟨⟨other, otherApplied⟩, rightRefuses⟩
      · rw [applied, Attempt.ok_bind, otherApplied]
        exact .inl ⟨rfl, alternative, List.mem_append_right _ member, accepts⟩
      · rw [applied, Attempt.ok_bind, otherApplied]
        exact .inr ⟨⟨_, rfl⟩, leftRefuses, rightRefuses⟩

end Sum

/-- A sum none of whose options is named like a side shows a constraint. If none of the predicates
that are asked about a value stops, the constraint accepts the value wherever the sum accepts it;
and the sum accepts it wherever the constraint does, if the value does not pass the type checks of
two different alternatives. -/
theorem constraint_accepts_iff
    (schema : Schema)
    (sum : schema.IsSum)
    (free : schema.IsRecognized) :
    ∃ constraint, schema.constraints = .ok constraint ∧
      ∀ value, schema.Answers value →
        (schema.validate value = .ok (.ok value) → constraint.apply value = .ok (.ok value)) ∧
        (schema.TellsApart value →
          (constraint.apply value = .ok (.ok value) ↔
            schema.validate value = .ok (.ok value))) := by
  obtain ⟨constraint, shown⟩ := exists_constraints_iff.mpr free
  refine ⟨constraint, shown, fun value answers => ?_⟩
  have onward (accepted : schema.validate value = .ok (.ok value)) :
      constraint.apply value = .ok (.ok value) := by
    obtain ⟨-, alternative, member, accepts⟩ := sum.exists_alternative accepted
    rcases sum.constraint_decides shown answers with ⟨applied, -⟩ | ⟨-, refuses⟩
    · exact applied
    · exact absurd accepts (refuses alternative member)
  refine ⟨onward, fun apart => ⟨fun applied => ?_, onward⟩⟩
  rcases sum.constraint_decides shown answers with
    ⟨-, alternative, member, accepts⟩ | ⟨⟨failure, refused⟩, -⟩
  · exact sum.validate_of_alternative answers apart member accepts
  · cases applied.symm.trans refused

/-- An even number, or else a text or nothing, under the name of a code. -/
def evenCode : Schema :=
  .union (.primitive .integer [.typeCheck .integer, .evenCheck])
    (.union (.primitive .string [.typeCheck .string]) (.primitive .none [.typeCheck .none]) [])
    [("name", .text "code")]

theorem constraint_accepts_iff_evenCode :
    evenCode.IsSum ∧ evenCode.IsRecognized ∧ evenCode.Answers (.int 3) ∧
      evenCode.TellsApart (.int 3) ∧
      ∃ constraint, evenCode.constraints = .ok constraint ∧
        constraint.apply (.int 3) ≠ .ok (.ok (.int 3)) := by
  have sum : evenCode.IsSum :=
    .union _ _ _ (.primitive _ _ _ rfl) (.union _ _ _ (.primitive _ _ _ rfl) (.primitive _ _ _ rfl))
  have free : evenCode.IsRecognized := by
    simp [evenCode, IsRecognized, Constraint.reservedOptions]
  have answers : evenCode.Answers (.int 3) := by
    intro alternative member
    simp only [evenCode, alternatives, List.mem_append, List.mem_singleton] at member
    rcases member with rfl | rfl | rfl <;> exact ⟨_, rfl⟩
  have apart : evenCode.TellsApart (.int 3) := by
    have only (alternative : Schema) (member : alternative ∈ evenCode.alternatives)
        (checked : ChecksType (.int 3) true alternative.chain) :
        alternative = .primitive .integer [.typeCheck .integer, .evenCheck] := by
      simp only [evenCode, alternatives, List.mem_append, List.mem_singleton] at member
      obtain ⟨isType, extra, split, -, held⟩ := checked
      rcases member with rfl | rfl | rfl
      · rfl
      all_goals
        obtain ⟨rfl, -⟩ := List.cons.inj split
        simp [Tag.admits] at held
    intro first member second present firstChecked secondChecked
    rw [only first member firstChecked, only second present secondChecked]
  refine ⟨sum, free, answers, apart, ?_⟩
  obtain ⟨constraint, shown, accepts⟩ := constraint_accepts_iff evenCode sum free
  refine ⟨constraint, shown, fun applied => ?_⟩
  have odd : evenCode.validate (.int 3) = .ok (.error (Predicate.evenCheck.failure (.int 3))) := rfl
  cases odd.symm.trans (((accepts _ answers).2 apart).mp applied)

end Schema
end DataContract
