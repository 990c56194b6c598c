import DataContract.Proofs.Predicate.TypeCheck
import DataContract.Proofs.Schema.Report
import DataContract.Schema.Constraint

/-!
# Constraints in turn

A conjunction applies its items in turn, each to what the one before it answered, and comes to an
end at the first that fails or stops. If one of the items is itself a conjunction, the items of
that are taken in its place: this changes the tree, but nothing that it answers.

Constraints that are put together from predicates alone are formulas. A formula hands a value on
as it is if it is true of it, and else shows why it is not: at the leaves of its failure are
predicates that do not hold, and where one of two alternatives would have done, both are refuted.
-/

namespace DataContract
namespace Constraint

/-- What constraints come to if they are applied in turn: each is applied to what the one before
it answered, and none after one that failed or stopped. -/
inductive InTurn : List Constraint → Value → Attempt Outcome → Prop
  | done (value : Value) : InTurn [] value (.ok (.ok value))
  | next
      {constraint : Constraint}
      {rest : List Constraint}
      {value accepted : Value}
      {result : Attempt Outcome}
      (passed : constraint.apply value = .ok (.ok accepted))
      (later : InTurn rest accepted result) :
      InTurn (constraint :: rest) value result
  | failed
      {constraint : Constraint}
      {value : Value}
      {failure : Failure}
      (rest : List Constraint)
      (answered : constraint.apply value = .ok (.error failure)) :
      InTurn (constraint :: rest) value (.ok (.error failure))
  | stopped
      {constraint : Constraint}
      {value : Value}
      {fault : Fault}
      (rest : List Constraint)
      (stops : constraint.apply value = .error fault) :
      InTurn (constraint :: rest) value (.error fault)

section Conjunctions

variable
  {items : List Constraint}
  {value : Value}
  {result : Attempt Outcome}

/-- The items of a conjunction are applied in turn. -/
theorem applyAll_eq_iff : applyAll items value = result ↔ InTurn items value result := by
  constructor
  · rintro rfl
    induction items generalizing value with
    | nil => exact .done value
    | cons constraint rest hypothesis =>
        rw [applyAll]
        cases applied : constraint.apply value with
        | error fault => exact .stopped rest applied
        | ok outcome =>
            cases outcome with
            | ok accepted => exact .next applied hypothesis
            | error failure => exact .failed rest applied
  · intro turns
    induction turns with
    | done value => rfl
    | next passed later hypothesis => simpa [applyAll, passed] using hypothesis
    | failed rest answered => simp [applyAll, answered]
    | stopped rest stops => simp [applyAll, stops]

/-- A constraint alone is applied as it is. -/
theorem applyAll_singleton (constraint : Constraint) :
    applyAll [constraint] value = constraint.apply value := by
  rw [applyAll]
  cases constraint.apply value with
  | error fault => rfl
  | ok outcome => cases outcome <;> rfl

/-- After some constraints others are applied to what the former answered. -/
theorem applyAll_append (items more : List Constraint) :
    applyAll (items ++ more) value = (do
      match ← applyAll items value with
      | .ok accepted => applyAll more accepted
      | .error failure => .ok (.error failure)) := by
  induction items generalizing value with
  | nil => simp [applyAll]
  | cons constraint rest hypothesis =>
      rw [List.cons_append, applyAll, applyAll]
      cases constraint.apply value with
      | error fault => rfl
      | ok outcome =>
          cases outcome with
          | ok accepted => exact hypothesis
          | error failure => rfl

/-- Constraints that come to the same are followed by others in the same way. -/
theorem applyAll_append_congr
    {others : List Constraint}
    (same : applyAll items value = applyAll others value)
    (more : List Constraint) :
    applyAll (items ++ more) value = applyAll (others ++ more) value := by
  rw [applyAll_append, applyAll_append, same]

/-- What a constraint contributes to a conjunction comes to what the constraint comes to. -/
theorem applyAll_conjuncts (constraint : Constraint) :
    applyAll constraint.conjuncts value = constraint.apply value := by
  cases constraint with
  | all items => simp [conjuncts, apply]
  | predicate single => exact applyAll_singleton _
  | either left right options => exact applyAll_singleton _
  | schema type => exact applyAll_singleton _

/-- Flattening makes no difference to what the items come to. -/
theorem applyAll_flatMap_conjuncts (items : List Constraint) :
    applyAll (items.flatMap conjuncts) value = applyAll items value := by
  induction items generalizing value with
  | nil => rfl
  | cons constraint rest hypothesis =>
      have alone : applyAll constraint.conjuncts value = applyAll [constraint] value := by
        rw [applyAll_conjuncts, applyAll_singleton]
      rw [List.flatMap_cons, applyAll_append_congr alone, List.singleton_append, applyAll, applyAll]
      simp only [hypothesis]

/-- A conjunction comes to what its items come to in turn. -/
theorem apply_conjunction (items : List Constraint) :
    (conjunction items).apply value = applyAll items value := by
  rw [conjunction, apply, applyAll_flatMap_conjuncts]

/-- A conjunction among the items of another may be written out. -/
theorem apply_conjunction_conjunction (before inner after : List Constraint) :
    (conjunction (before ++ conjunction inner :: after)).apply value =
      (conjunction (before ++ inner ++ after)).apply value := by
  have opened (value : Value) : applyAll (conjunction inner :: after) value =
      applyAll (inner ++ after) value := by
    have alone : applyAll [conjunction inner] value = applyAll inner value := by
      rw [applyAll_singleton, apply_conjunction]
    exact applyAll_append_congr alone after
  rw [apply_conjunction, apply_conjunction, List.append_assoc, applyAll_append, applyAll_append]
  simp only [opened]

/-- A constraint is extended by applying others after it. -/
theorem apply_extend
    (constraint : Constraint)
    (extra : List Constraint) :
    (constraint.extend extra).apply value = applyAll (constraint :: extra) value := by
  cases extra with
  | nil => exact (applyAll_singleton constraint).symm
  | cons first rest => exact apply_conjunction _

end Conjunctions

/-! ## Formulas -/

/-- Whether a constraint is put together from predicates alone. -/
inductive IsFormula : Constraint → Prop
  | predicate (single : Predicate) : IsFormula (.predicate single)
  | all
      {items : List Constraint}
      (each : ∀ item ∈ items, IsFormula item) :
      IsFormula (.all items)
  | either
      {left right : Constraint}
      (options : Options)
      (first : IsFormula left)
      (second : IsFormula right) :
      IsFormula (.either left right options)

/-- Whether a predicate occurs in a formula. -/
inductive Mentions (single : Predicate) : Constraint → Prop
  | predicate : Mentions single (.predicate single)
  | item
      {items : List Constraint}
      {item : Constraint}
      (member : item ∈ items)
      (inside : Mentions single item) :
      Mentions single (.all items)
  | left
      {left : Constraint}
      (right : Constraint)
      (options : Options)
      (inside : Mentions single left) :
      Mentions single (.either left right options)
  | right
      {right : Constraint}
      (left : Constraint)
      (options : Options)
      (inside : Mentions single right) :
      Mentions single (.either left right options)

mutual

/-- The truth of a formula, given that of its predicates. A schema is no part of a formula and
counts as true. -/
def isTrue (truth : Predicate → Bool) : Constraint → Bool
  | .predicate single => truth single
  | .all items => areTrue truth items
  | .either left right _ => left.isTrue truth || right.isTrue truth
  | .schema _ => true

/-- Whether all formulas of a list are true. -/
def areTrue (truth : Predicate → Bool) : List Constraint → Bool
  | [] => true
  | item :: rest => item.isTrue truth && areTrue truth rest

end

/-- Whether a truth is given to each predicate that answers about a value which is its answer.
The predicates that stop may have any. -/
def AgreesWithAnswers
    (truth : Predicate → Bool)
    (value : Value) : Prop :=
  ∀ single flag, Predicate.holds single value = .ok flag → truth single = flag

/-- Whether a failure shows why a formula is not true of a value: a predicate that does not hold,
the first item that is refuted after others that are accepted, or both alternatives. -/
inductive IsRefutation (value : Value) : Constraint → Failure → Prop
  | predicate
      {single : Predicate}
      (wrong : single.holds value = .ok false) :
      IsRefutation value (.predicate single) (single.failure value)
  | item
      {before after : List Constraint}
      {item : Constraint}
      {failure : Failure}
      (accepted : ∀ earlier ∈ before, earlier.apply value = .ok (.ok value))
      (refuted : IsRefutation value item failure) :
      IsRefutation value (.all (before ++ item :: after)) failure
  | either
      {left right : Constraint}
      {failure other : Failure}
      (options : Options)
      (first : IsRefutation value left failure)
      (second : IsRefutation value right other) :
      IsRefutation value (.either left right options) (.either [] failure other options)

/-- What a formula comes to for a value: the value itself if it is true, a refutation if it is
not, or the fault of one of its predicates. -/
inductive Decides
    (truth : Predicate → Bool)
    (value : Value)
    (formula : Constraint) : Attempt Outcome → Prop
  | holds (positive : formula.isTrue truth = true) : Decides truth value formula (.ok (.ok value))
  | fails
      {failure : Failure}
      (negative : formula.isTrue truth = false)
      (refuted : IsRefutation value formula failure) :
      Decides truth value formula (.ok (.error failure))
  | stops
      {single : Predicate}
      {fault : Fault}
      (mentioned : Mentions single formula)
      (stopped : single.holds value = .error fault) :
      Decides truth value formula (.error fault)

section Formulas

variable
  {truth : Predicate → Bool}
  {value : Value}

theorem decides_predicate
    (agrees : AgreesWithAnswers truth value)
    (single : Predicate) :
    Decides truth value (.predicate single) (apply (.predicate single) value) := by
  rw [apply, Predicate.check]
  cases held : single.holds value with
  | error fault => exact .stops .predicate held
  | ok flag =>
      have told := agrees single flag held
      cases flag with
      | true => exact .holds (by rw [isTrue, told])
      | false => exact .fails (by rw [isTrue, told]) (.predicate held)

/-- The items of a formula that are left are decided after others that are accepted. -/
theorem decides_all
    {before items : List Constraint}
    (accepted : ∀ earlier ∈ before, earlier.apply value = .ok (.ok value))
    (each : ∀ item ∈ items, Decides truth value item (item.apply value)) :
    (areTrue truth items = true ∧ applyAll items value = .ok (.ok value)) ∨
      (areTrue truth items = false ∧ ∃ failure, applyAll items value = .ok (.error failure) ∧
        IsRefutation value (.all (before ++ items)) failure) ∨
      ∃ item ∈ items, ∃ single fault, Mentions single item ∧ single.holds value = .error fault ∧
        applyAll items value = .error fault := by
  induction items generalizing before with
  | nil => exact .inl ⟨rfl, rfl⟩
  | cons item rest hypothesis =>
      rw [List.forall_mem_cons] at each
      rw [areTrue, applyAll]
      have here := each.1
      generalize applied : item.apply value = result at here
      cases here with
      | fails negative refuted =>
          exact .inr (.inl ⟨by rw [negative]; rfl, _, rfl, .item accepted refuted⟩)
      | stops mentioned stopped =>
          exact .inr (.inr ⟨item, List.mem_cons_self, _, _, mentioned, stopped, rfl⟩)
      | holds positive =>
          have acceptedToo : ∀ earlier ∈ before ++ [item],
              earlier.apply value = .ok (.ok value) := by
            rw [List.forall_mem_append, List.forall_mem_singleton]
            exact ⟨accepted, applied⟩
          rw [positive, Bool.true_and]
          rcases hypothesis acceptedToo each.2 with
            held | ⟨negative, failure, failed, refuted⟩ |
            ⟨other, member, single, fault, mentioned, stopped, stops⟩
          · exact .inl held
          · rw [List.append_assoc, List.singleton_append] at refuted
            exact .inr (.inl ⟨negative, failure, failed, refuted⟩)
          · exact .inr (.inr ⟨other, List.mem_cons_of_mem _ member, single, fault, mentioned,
              stopped, stops⟩)

theorem decides_either
    {left right : Constraint}
    (options : Options)
    (first : Decides truth value left (left.apply value))
    (second : Decides truth value right (right.apply value)) :
    Decides truth value (.either left right options)
      (apply (.either left right options) value) := by
  rw [apply]
  generalize left.apply value = result at first
  cases first with
  | holds positive => exact .holds (by rw [isTrue, positive, Bool.true_or])
  | stops mentioned stopped => exact .stops (.left right options mentioned) stopped
  | fails negative refuted =>
      generalize right.apply value = result at second
      cases second with
      | holds positive => exact .holds (by rw [isTrue, positive, Bool.or_true])
      | stops mentioned stopped => exact .stops (.right left options mentioned) stopped
      | fails otherNegative otherRefuted =>
          exact .fails (by rw [isTrue, negative, otherNegative]; rfl)
            (.either options refuted otherRefuted)

/-- A formula is decided by its predicates. -/
theorem IsFormula.decides
    {formula : Constraint}
    (plain : formula.IsFormula)
    (agrees : AgreesWithAnswers truth value) :
    Decides truth value formula (formula.apply value) := by
  induction plain with
  | predicate single => exact decides_predicate agrees single
  | either options _ _ first second => exact decides_either options first second
  | all _ hypothesis =>
      rw [apply]
      rcases decides_all (List.forall_mem_nil _) hypothesis with
        ⟨positive, held⟩ | ⟨negative, failure, failed, refuted⟩ |
        ⟨item, member, single, fault, mentioned, stopped, stops⟩
      · rw [held]
        exact .holds positive
      · rw [failed]
        exact .fails negative refuted
      · rw [stops]
        exact .stops (.item member mentioned) stopped

end Formulas

/-- Flattening keeps the meaning of constraints. A conjunction comes to what its items come to in
turn, also after a conjunction among them is written out, and a constraint that is extended comes
to what it and the others come to in turn. A formula accepts a value as it is if it is true, and
comes to a refutation if it is not, unless one of its predicates stops. -/
theorem conjunction_in_turn :
    (∀ items value result,
      (conjunction items).apply value = result ↔ InTurn items value result) ∧
    (∀ before inner after value,
      (conjunction (before ++ conjunction inner :: after)).apply value =
        (conjunction (before ++ inner ++ after)).apply value) ∧
    (∀ constraint extra value result,
      (extend constraint extra).apply value = result ↔
        InTurn (constraint :: extra) value result) ∧
    ∀ formula truth value, IsFormula formula → AgreesWithAnswers truth value →
      (formula.isTrue truth = true ∧ formula.apply value = .ok (.ok value)) ∨
      (formula.isTrue truth = false ∧
        ∃ failure, formula.apply value = .ok (.error failure) ∧
          IsRefutation value formula failure) ∨
      ∃ single fault, Mentions single formula ∧ single.holds value = .error fault ∧
        formula.apply value = .error fault := by
  refine ⟨fun items value result => ?_, fun before inner after value => ?_,
    fun constraint extra value result => ?_, fun formula truth value plain agrees => ?_⟩
  · rw [apply_conjunction, applyAll_eq_iff]
  · exact apply_conjunction_conjunction before inner after
  · rw [apply_extend, applyAll_eq_iff]
  · have decided := plain.decides agrees
    generalize formula.apply value = result at decided
    cases decided with
    | holds positive => exact .inl ⟨positive, rfl⟩
    | fails negative refuted => exact .inr (.inl ⟨negative, _, rfl, refuted⟩)
    | stops mentioned stopped => exact .inr (.inr ⟨_, _, mentioned, stopped, rfl⟩)

/-- A filled list, of which the next constraints see what it was validated to. -/
def filledList : Constraint :=
  conjunction [.schema (.list [.typeCheck .list] (.primitive .any [.typeCheck .any])),
    ofChain [.typeCheck .list, .filledCheck]]

/-- A text, or an even number. -/
def textOrEven : Constraint :=
  .either (.predicate (.typeCheck .string))
    (ofChain [.typeCheck .integer, .evenCheck]) []

/-- What is wrong with an odd number. -/
def oddRefutation : Failure :=
  .either [] (.predicate [] "type?" [.text "string", .int 3] (.int 3))
    (.predicate [] "even?" [.int 3] (.int 3)) []

theorem conjunction_in_turn_odd :
    filledList.apply (.tuple [.int 3]) = .ok (.ok (.list [.int 3])) ∧
      textOrEven.IsFormula ∧
      AgreesWithAnswers (fun single => single.holds (.int 3) matches .ok true) (.int 3) ∧
      textOrEven.apply (.int 3) = .ok (.error oddRefutation) ∧
      IsRefutation (.int 3) textOrEven oddRefutation := by
  obtain ⟨inTurn, -, -, decided⟩ := conjunction_in_turn
  have flat : filledList.apply (.tuple [.int 3]) = .ok (.ok (.list [.int 3])) :=
    (inTurn _ _ _).mpr (.next rfl (.next rfl (.done _)))
  have plain : textOrEven.IsFormula := by
    refine .either [] (.predicate _) (.all ?_)
    rw [List.forall_mem_map]
    exact fun single _ => .predicate single
  have agrees : AgreesWithAnswers (fun single => single.holds (.int 3) matches .ok true)
      (.int 3) := by
    intro single flag held
    cases flag <;> simp [held]
  have applied : textOrEven.apply (.int 3) = .ok (.error oddRefutation) := rfl
  refine ⟨flat, plain, agrees, applied, ?_⟩
  rcases decided _ _ _ plain agrees with
    ⟨-, held⟩ | ⟨-, failure, failed, refuted⟩ | ⟨single, fault, -, -, stopped⟩
  · cases applied.symm.trans held
  · cases applied.symm.trans failed
    exact refuted
  · cases applied.symm.trans stopped

end Constraint
end DataContract
