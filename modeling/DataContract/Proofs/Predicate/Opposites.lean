import DataContract.Predicate.Registry
import DataContract.Proofs.Value.Ordering

/-!
# Opposite predicates

Many built-in predicates come in pairs that ask for opposite things. What asks for equality, for
emptiness or for a part answers yes where its opposite answers no. Relations and membership are
also asked of values that they are not made for, and there both opposites answer no; nowhere do
both answer yes. Where values have an order, the relations that admit equality are those that do
not, or equality.
-/

namespace DataContract
namespace Predicate

/-- The answer of the built-in predicate with a name about a value, after its arguments. -/
def ask
    (name : String)
    (args : List Value)
    (value : Value) : Attempt Bool := do
  let predicate ← PredicateRegistry.standard.predicate (.text name) args
  predicate.holds value

/-- Pairs of predicates that are never both true. -/
def exclusivePairs : List (String × String) :=
  [("gt?", "lteq?"), ("lt?", "gteq?"), ("in?", "not_in?"), ("includes?", "excludes?")]

section Answers

variable
  {name : String}
  {arg value : Value}

theorem truthy_of_bool (attempt : Attempt Bool) :
    (attempt.map Value.bool).map Value.truthy = attempt := by
  cases attempt <;> rfl

theorem ask_of_lookup
    {function : PredicateFunction}
    (found : builtins.lookup name = some function)
    (args : List Value) :
    ask name args value = (function (args ++ [value])).map Value.truthy := by
  have looked : PredicateRegistry.standard.find? name = some function := found
  simp [ask, PredicateRegistry.predicate, PredicateRegistry.get, Value.isKey, looked, holds]

/-- A predicate of the value alone answers with its test. -/
theorem ask_unary
    (test : Value → Attempt Bool)
    (found : builtins.lookup name = some (unary test)) :
    ask name [] value = test value := by
  rw [ask_of_lookup found]
  exact truthy_of_bool _

/-- A predicate with one argument answers with its test. -/
theorem ask_binary
    (test : Value → Value → Attempt Bool)
    (found : builtins.lookup name = some (binary test)) :
    ask name [arg] value = test arg value := by
  rw [ask_of_lookup found]
  exact truthy_of_bool _

/-! ### What the predicates ask -/

theorem ask_eql : ask "eql?" [arg] value = value.equals arg :=
  ask_binary (fun expected value => value.equals expected) rfl

theorem ask_notEql : ask "not_eql?" [arg] value = (value.equals arg).map not :=
  ask_binary (fun expected value => (value.equals expected).map not) rfl

theorem ask_filled : ask "filled?" [] value = .ok (isFilled value) :=
  ask_unary (fun value => .ok (isFilled value)) rfl

theorem ask_empty : ask "empty?" [] value = .ok (isEmpty value) :=
  ask_unary (fun value => .ok (isEmpty value)) rfl

theorem ask_even : ask "even?" [] value = .ok (hasParity 0 value) :=
  ask_unary (fun value => .ok (hasParity 0 value)) rfl

theorem ask_odd : ask "odd?" [] value = .ok (hasParity 1 value) :=
  ask_unary (fun value => .ok (hasParity 1 value)) rfl

theorem ask_gt : ask "gt?" [arg] value = compares .greater arg value :=
  ask_binary (compares .greater) rfl

theorem ask_gteq : ask "gteq?" [arg] value = compares .greaterOrEqual arg value :=
  ask_binary (compares .greaterOrEqual) rfl

theorem ask_lt : ask "lt?" [arg] value = compares .less arg value :=
  ask_binary (compares .less) rfl

theorem ask_lteq : ask "lteq?" [arg] value = compares .lessOrEqual arg value :=
  ask_binary (compares .lessOrEqual) rfl

theorem ask_in : ask "in?" [arg] value = isPart true arg value :=
  ask_binary (isPart true) rfl

theorem ask_notIn : ask "not_in?" [arg] value = isPart false arg value :=
  ask_binary (isPart false) rfl

theorem ask_includes : ask "includes?" [arg] value = isPart true value arg :=
  ask_binary (fun part value => isPart true value part) rfl

theorem ask_excludes : ask "excludes?" [arg] value = isPart false value arg :=
  ask_binary (fun part value => isPart false value part) rfl

end Answers

/-! ## One value -/

/-- What is not filled is empty. -/
theorem isEmpty_eq_not (value : Value) : isEmpty value = !isFilled value := by
  unfold isEmpty isFilled
  split
  · rfl
  · simp [bne]

/-- A whole number is odd if it is not even. -/
theorem hasParity_one (number : Int) :
    hasParity 1 (.int number) = !hasParity 0 (.int number) := by
  simp only [hasParity]
  rw [Bool.eq_iff_iff, Bool.not_eq_true', beq_iff_eq, beq_eq_false_iff_ne]
  omega

theorem hasParity_zero (number : Int) :
    hasParity 0 (.int number) = decide (2 ∣ number) := by
  simp only [hasParity]
  rw [Bool.eq_iff_iff, beq_iff_eq, decide_eq_true_eq]
  omega

/-- Only whole numbers are even or odd. -/
theorem hasParity_of_ne
    {value : Value}
    (other : ∀ number, value ≠ .int number)
    (remainder : Int) :
    hasParity remainder value = false := by
  unfold hasParity
  split
  · exact absurd rfl (other _)
  · rfl

/-! ## Membership -/

section Membership

variable {container value : Value}

/-- Where membership can be asked, its opposite is. -/
theorem isPart_false_eq_not
    (asked : container.contains value ≠ .error .wrongKind) :
    isPart false container value = (isPart true container value).map not := by
  unfold isPart
  cases found : container.contains value with
  | ok flag => cases flag <;> rfl
  | error fault => cases fault <;> first | rfl | exact absurd found asked

theorem not_both_isPart :
    ¬ (isPart true container value = .ok true ∧ isPart false container value = .ok true) := by
  rintro ⟨inside, outside⟩
  by_cases asked : container.contains value = .error .wrongKind
  · simp [isPart, asked, Except.map, orIfWrongKind] at inside
  · rw [isPart_false_eq_not asked, inside] at outside
    cases outside

end Membership

/-! ## Order -/

section Order

variable {bound value : Value}

/-- A relation is read off the comparison of the value with the bound. -/
theorem compares_eq
    {comparison : Comparison}
    (compares : value.ComparesAs bound comparison)
    (relation : Relation) :
    Predicate.compares relation bound value = orIfWrongKind (comparison.holds relation) false := by
  rw [Predicate.compares, compares.related]

/-- Of a relation and its opposite at most one holds. -/
theorem not_both_compare
    {relation opposite : Relation}
    (opposed : ∀ ordering, ¬ (relation.holds ordering = true ∧ opposite.holds ordering = true)) :
    ¬ (compares relation bound value = .ok true ∧ compares opposite bound value = .ok true) := by
  obtain ⟨comparison, compares⟩ := value.exists_comparesAs bound
  rw [compares_eq compares, compares_eq compares]
  rintro ⟨holds, both⟩
  cases comparison with
  | error fault => cases fault <;> cases holds
  | ok found =>
      cases found with
      | none => cases holds
      | some ordering =>
          exact opposed ordering ⟨Except.ok.inj holds, Except.ok.inj both⟩

/-- Where values have an order, all relations stop, or those that admit equality are those that
do not, or equality. -/
theorem compares_or_eq
    {relation : Relation}
    (ordered : value.related relation bound ≠ .error .wrongKind) :
    (∃ fault, ∀ relation, compares relation bound value = .error fault) ∨
      ∃ greater less equal, value.equals bound = .ok equal ∧
        compares .greater bound value = .ok greater ∧
        compares .less bound value = .ok less ∧
        compares .greaterOrEqual bound value = .ok (greater || equal) ∧
        compares .lessOrEqual bound value = .ok (less || equal) := by
  obtain ⟨comparison, compares⟩ := value.exists_comparesAs bound
  simp only [compares_eq compares]
  rw [compares.related] at ordered
  cases comparison with
  | error fault =>
      refine .inl ⟨fault, fun relation => ?_⟩
      cases fault <;> first | rfl | exact absurd rfl ordered
  | ok found =>
      refine .inr ⟨found == some .gt, found == some .lt, found == some .eq,
        compares.equals found rfl, ?_⟩
      cases found with
      | none => exact ⟨rfl, rfl, rfl, rfl⟩
      | some ordering => cases ordering <;> exact ⟨rfl, rfl, rfl, rfl⟩

end Order

/-- Opposite predicates are consistent. Those of equality and emptiness are opposite for all
values, those of parity for all whole numbers, and those of membership wherever it can be asked;
relations and membership are never both true; and where values have an order, the relations that
admit equality are those that do not, or equality. -/
theorem opposites_are_consistent (arg value : Value) :
    ask "not_eql?" [arg] value = (ask "eql?" [arg] value).map not ∧
    (∃ filled, ask "filled?" [] value = .ok filled ∧ ask "empty?" [] value = .ok !filled) ∧
    (∀ number,
      ask "even?" [] (.int number) = .ok (decide (2 ∣ number)) ∧
        ask "odd?" [] (.int number) = .ok !decide (2 ∣ number)) ∧
    ((∀ number, value ≠ .int number) →
      ask "even?" [] value = .ok false ∧ ask "odd?" [] value = .ok false) ∧
    (∀ pair ∈ exclusivePairs,
      ¬ (ask pair.1 [arg] value = .ok true ∧ ask pair.2 [arg] value = .ok true)) ∧
    (arg.contains value ≠ .error .wrongKind →
      ask "not_in?" [arg] value = (ask "in?" [arg] value).map not) ∧
    (value.contains arg ≠ .error .wrongKind →
      ask "excludes?" [arg] value = (ask "includes?" [arg] value).map not) ∧
    ∀ relation, value.related relation arg ≠ .error .wrongKind →
      (∃ fault, ∀ name ∈ ["gt?", "gteq?", "lt?", "lteq?"],
        ask name [arg] value = .error fault) ∨
      ∃ greater less equal, ask "eql?" [arg] value = .ok equal ∧
        ask "gt?" [arg] value = .ok greater ∧
        ask "lt?" [arg] value = .ok less ∧
        ask "gteq?" [arg] value = .ok (greater || equal) ∧
        ask "lteq?" [arg] value = .ok (less || equal) := by
  refine ⟨?_, ⟨isFilled value, ask_filled, ?_⟩, fun number => ?_, fun other => ?_, ?_,
    fun asked => ?_, fun asked => ?_, fun relation ordered => ?_⟩
  · rw [ask_notEql, ask_eql]
  · rw [ask_empty, isEmpty_eq_not]
  · rw [ask_even, ask_odd, hasParity_one, hasParity_zero]
    exact ⟨rfl, rfl⟩
  · rw [ask_even, ask_odd, hasParity_of_ne other, hasParity_of_ne other]
    exact ⟨rfl, rfl⟩
  · simp only [exclusivePairs, List.forall_mem_cons, ask_gt, ask_gteq, ask_lt, ask_lteq, ask_in,
      ask_notIn, ask_includes, ask_excludes]
    refine ⟨not_both_compare ?_, not_both_compare ?_, not_both_isPart, not_both_isPart, nofun⟩
    · intro ordering
      cases ordering <;> decide
    · intro ordering
      cases ordering <;> decide
  · rw [ask_in, ask_notIn, isPart_false_eq_not asked]
  · rw [ask_includes, ask_excludes, isPart_false_eq_not asked]
  · simp only [List.forall_mem_cons, ask_eql, ask_gt, ask_gteq, ask_lt, ask_lteq]
    rcases compares_or_eq ordered with ⟨fault, stops⟩ | answers
    · exact .inl ⟨fault, stops _, stops _, stops _, stops _, nofun⟩
    · exact .inr answers

/-- A number, and something that is no number. -/
def measurements : Value :=
  .list [.float (.finite false 1 0), .float (.nan 1)]

/-- The second numbers are the first that differ, and of these none is greater and they are not
equal. -/
theorem opposites_are_consistent_measurements :
    ask "gteq?" [measurements] (.list [.int 1, .int 2]) = .ok false ∧
      ask "not_in?" [measurements] (.bool true) = .ok false := by
  constructor
  · obtain ⟨-, -, -, -, -, -, -, order⟩ :=
      opposites_are_consistent measurements (.list [.int 1, .int 2])
    have unequal : ask "eql?" [measurements] (.list [.int 1, .int 2]) = .ok false := rfl
    have notGreater : ask "gt?" [measurements] (.list [.int 1, .int 2]) = .ok false := rfl
    rcases order .less nofun with
      ⟨fault, stops⟩ | ⟨greater, less, equal, equality, greatness, -, together, -⟩
    · cases notGreater.symm.trans (stops "gt?" List.mem_cons_self)
    · cases notGreater.symm.trans greatness
      cases unequal.symm.trans equality
      exact together
  · obtain ⟨-, -, -, -, -, membership, -⟩ := opposites_are_consistent measurements (.bool true)
    have inside : ask "in?" [measurements] (.bool true) = .ok true := rfl
    rw [membership nofun, inside]
    rfl

end Predicate
end DataContract
