import DataContract.Proofs.Schema.Alternatives

/-!
# Mismatches

A value that is of no kind that a schema is about fails the first type check of every
alternative. The failure is no reason for a union to stay with an alternative. A primitive whose
type check accepts a value fails, if it does, with one of its other predicates, and that is
final for every union it is in.
-/

namespace DataContract

/-- Whether the predicate at the head of a chain is a type check with an answer for a value. -/
def ChecksType
    (value : Value)
    (answer : Bool)
    (chain : List Predicate) : Prop :=
  ∃ isType extra, chain = isType :: extra ∧ isType.name = Failure.typePredicate ∧
    isType.holds value = .ok answer

namespace Schema

/-- Whether a value passes the type check of no alternative of a schema. Of a cast the input
counts, of a custom schema its own validation. -/
def Mismatches (value : Value) : Schema → Prop
  | .primitive _ chain => ChecksType value false chain
  | .list chain _ => ChecksType value false chain
  | .map chain _ _ _ => ChecksType value false chain
  | .union left right _ => left.Mismatches value ∧ right.Mismatches value
  | .cast input _ _ _ => input.Mismatches value
  | .custom type =>
      ∃ failure, type.now.validate value = .ok (.error failure) ∧ failure.isPastTypeCheck = false

/-- Whether a schema is a primitive whose type check, the only one in its chain, accepts a
value. -/
def Admits
    (type : Schema)
    (value : Value) : Prop :=
  ∃ tag chain, type = .primitive tag chain ∧ ChecksType value true chain ∧
    ∀ predicate ∈ chain.tail, predicate.name ≠ Failure.typePredicate

section Value

variable
  {value : Value}
  {type : Schema}
  {failure : Failure}

/-- A chain whose type check refuses a value fails with the type check. -/
theorem exists_checkChain_of_refused
    {chain : List Predicate}
    (refused : ChecksType value false chain) :
    ∃ failure, checkChain chain value = .ok (.error failure) ∧ failure.isPastTypeCheck = false := by
  obtain ⟨isType, extra, rfl, named, fails⟩ := refused
  refine ⟨isType.failure value, checkChain_cons_of_not_holds fails, ?_⟩
  simp [Predicate.failure, Failure.isPastTypeCheck, named]

/-- A union whose sides both refuse a value has both failures, unless the left one is final. -/
theorem validate_union_of_refused
    {left right : Schema}
    {first second : Failure}
    (leftFails : left.validate value = .ok (.error first))
    (early : first.isPastTypeCheck = false)
    (rightFails : right.validate value = .ok (.error second))
    (options : Options) :
    (union left right options).validate value =
      .ok (.error (.either [] first second options)) := by
  have passed : left.commitsTo first = false := by simp [commitsTo, early]
  rw [validate_union_of_passed leftFails passed, rightFails]
  rfl

/-- A value that mismatches a schema is refused, and not past a type check. -/
theorem exists_validate_of_mismatches
    (mismatches : type.Mismatches value) :
    ∃ failure, type.validate value = .ok (.error failure) ∧ failure.isPastTypeCheck = false := by
  induction type with
  | primitive tag chain => exact exists_checkChain_of_refused mismatches
  | list chain member _ =>
      obtain ⟨failure, fails, early⟩ := exists_checkChain_of_refused mismatches
      exact ⟨failure, validate_list_eq_ok.mpr (.inl ⟨failure, fails, rfl⟩), early⟩
  | map chain keys atomize style _ =>
      obtain ⟨failure, fails, early⟩ := exists_checkChain_of_refused mismatches
      exact ⟨failure, validate_map_eq_ok.mpr (.inl ⟨failure, fails, rfl⟩), early⟩
  | union left right options leftHypothesis rightHypothesis =>
      obtain ⟨first, leftFails, leftEarly⟩ := leftHypothesis mismatches.1
      obtain ⟨second, rightFails, -⟩ := rightHypothesis mismatches.2
      exact ⟨_, validate_union_of_refused leftFails leftEarly rightFails options, rfl⟩
  | cast input output caster options inputHypothesis _ =>
      obtain ⟨failure, fails, -⟩ := inputHypothesis mismatches
      exact ⟨.cast failure, validate_cast_eq_ok.mpr (.inl ⟨failure, fails, rfl⟩), rfl⟩
  | custom type => exact mismatches

/-- A primitive that admits a value by its kind and refuses it fails with a predicate other than
its type check, and unions stay with the failure. -/
theorem exists_predicate_of_admits
    (admits : type.Admits value)
    (fails : type.validate value = .ok (.error failure)) :
    type.commitsTo failure = true ∧
      ∃ predicate ∈ type.chain, predicate.name ≠ Failure.typePredicate ∧
        predicate.holds value = .ok false ∧ failure = predicate.failure value := by
  obtain ⟨tag, chain, rfl, ⟨isType, extra, rfl, named, accepts⟩, only⟩ := admits
  obtain ⟨before, predicate, after, split, -, broken, rfl⟩ := exists_of_checkChain_failed fails
  have late : predicate ∈ extra := by
    cases before with
    | nil =>
        obtain ⟨rfl, rfl⟩ := List.cons.inj split
        rw [accepts] at broken
        cases broken
    | cons first before =>
        obtain ⟨rfl, rfl⟩ := List.cons.inj split
        simp
  have other : predicate.name ≠ Failure.typePredicate := only predicate late
  refine ⟨?_, predicate, List.mem_cons_of_mem _ late, other, broken, rfl⟩
  simp [commitsTo, isPrimitive, Predicate.failure, Failure.isPastTypeCheck, other]

/-! ## Unions of alternatives that mismatch -/

/-- A value mismatches alternatives if it mismatches each. -/
theorem mismatches_oneOf
    (options : Options)
    {rest : List Schema}
    (mismatches : ∀ alternative ∈ type :: rest, alternative.Mismatches value) :
    (oneOf options type rest).Mismatches value := by
  induction rest generalizing type options with
  | nil => exact mismatches type List.mem_cons_self
  | cons next rest hypothesis =>
      rw [List.forall_mem_cons] at mismatches
      exact ⟨mismatches.1, hypothesis [] mismatches.2⟩

/-- The first alternative's failure is that of the union if it is final. -/
theorem validate_oneOf_of_commits
    (options : Options)
    (rest : List Schema)
    (fails : type.validate value = .ok (.error failure))
    (final : type.commitsTo failure = true) :
    (oneOf options type rest).validate value = .ok (.error failure) := by
  cases rest with
  | nil => exact fails
  | cons next rest => exact validate_union_of_commits fails final

/-- After an alternative that mismatches, the failure of the rest is beside that of the
alternative. -/
theorem exists_validate_oneOf_cons
    (options : Options)
    {next : Schema}
    {rest : List Schema}
    (mismatches : type.Mismatches value)
    (fails : (oneOf [] next rest).validate value = .ok (.error failure)) :
    ∃ first, first.isPastTypeCheck = false ∧
      (oneOf options type (next :: rest)).validate value =
        .ok (.error (.either [] first failure options)) := by
  obtain ⟨first, refused, early⟩ := exists_validate_of_mismatches mismatches
  exact ⟨first, early, validate_union_of_refused refused early fails options⟩

/-- If some alternatives mismatch and the failure of the next is final, a union fails, but not
past a type check of its own. -/
theorem exists_validate_oneOf_of_mismatches
    (options : Options)
    {stop : Schema}
    (fails : stop.validate value = .ok (.error failure))
    (final : stop.commitsTo failure = true)
    {before : List Schema}
    (mismatches : ∀ alternative ∈ type :: before, alternative.Mismatches value)
    (after : List Schema) :
    ∃ whole, (oneOf options type (before ++ stop :: after)).validate value = .ok (.error whole) ∧
      whole.isPastTypeCheck = false := by
  induction before generalizing type options with
  | nil =>
      rw [List.forall_mem_cons] at mismatches
      have inner := validate_oneOf_of_commits [] after fails final
      obtain ⟨first, -, refused⟩ := exists_validate_oneOf_cons options mismatches.1 inner
      exact ⟨_, refused, rfl⟩
  | cons next before hypothesis =>
      rw [List.forall_mem_cons] at mismatches
      obtain ⟨second, inner, -⟩ := hypothesis [] mismatches.2
      obtain ⟨first, -, refused⟩ := exists_validate_oneOf_cons options mismatches.1 inner
      exact ⟨_, refused, rfl⟩

end Value

end Schema
end DataContract
