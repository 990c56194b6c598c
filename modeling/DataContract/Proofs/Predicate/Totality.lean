import DataContract.Proofs.Value.Search
import DataContract.Predicate.Builtin

/-!
# Answers of predicates

A built-in predicate answers yes or no for values of all kinds; values that it is not made for
are no mistake. There are two exceptions. Whether a decimal that is not a number is equal to a
number, or comes before it, may have no defined answer, and a byte string cannot be searched for
a whole number that is no byte. Predicates stop where their comparison or their search comes to
one of these, and nowhere else.
-/

namespace DataContract
namespace Predicate

/-- A whole number, or a truth value, counts as a number. -/
theorem exists_scalar_of_whole?
    {bound : Value}
    {number : Int}
    (whole : bound.whole? = some number) :
    ∃ content, bound = .scalar content ∧ content.number? = some (.ofInt number) := by
  unfold Value.whole? at whole
  split at whole
  · cases whole
    exact ⟨_, rfl, rfl⟩
  · cases whole
    exact ⟨_, rfl, rfl⟩
  · cases whole

/-- Whether two whole numbers are equal is always defined. -/
theorem exists_equals_of_whole?
    {bound : Value}
    {number : Int}
    (size : Int)
    (whole : bound.whole? = some number) :
    ∃ flag, (Value.int size).equals bound = .ok flag := by
  obtain ⟨content, rfl, same⟩ := exists_scalar_of_whole? whole
  have numbers : (Scalar.int size).number? = some (.ofInt size) := rfl
  simp only [Value.equals, Scalar.equals, numbers, same, isSignaling_ofInt]
  exact ⟨_, rfl⟩

/-- The order of two whole numbers is always defined. -/
theorem exists_related_of_whole?
    {bound : Value}
    {number : Int}
    (relation : Relation)
    (size : Int)
    (whole : bound.whole? = some number) :
    ∃ flag, (Value.int size).related relation bound = .ok flag := by
  obtain ⟨content, rfl, same⟩ := exists_scalar_of_whole? whole
  have numbers : (Scalar.int size).number? = some (.ofInt size) := rfl
  simp only [Value.related, Scalar.related, numbers, same]
  cases compared : (Number.Decimal.ofInt size).compare? (.ofInt number) with
  | none =>
      have never := Number.Decimal.compare?_eq_none.mp compared
      simp [Number.Decimal.ofInt, Number.Decimal.isNaN] at never
  | some ordering => exact ⟨_, rfl⟩

/-- What a built-in predicate does with the examined value: it looks at the value alone, asks
whether it is equal to something, asks for an order, measures its size, looks for a pattern in
it, searches it for a part, or searches options for it. -/
inductive Task
  | plain
  | equality
  | order
  | size
  | pattern
  | part
  | option
  deriving DecidableEq, Repr

/-- The tasks of the built-in predicates, other than the type check. -/
def task? : String → Option Task
  | "filled?" | "empty?" | "even?" | "odd?" => some .plain
  | "eql?" | "not_eql?" => some .equality
  | "gt?" | "gteq?" | "lt?" | "lteq?" => some .order
  | "size?" | "min_size?" | "max_size?" => some .size
  | "match?" => some .pattern
  | "includes?" | "excludes?" => some .part
  | "in?" | "not_in?" => some .option
  | _ => none

namespace Task

/-- The arguments that a task is made for, besides the examined value: a whole number for a size,
a readable text for a pattern, and anything for a comparison or a search. -/
def Takes : Task → List Value → Prop
  | .plain, args => args = []
  | .size, args => ∃ bound number, args = [bound] ∧ bound.whole? = some number
  | .pattern, args =>
      ∃ written search, args = [.text written] ∧
        Pattern.read .text written.toList = .ok search
  | _, args => ∃ arg, args = [arg]

/-- The faults with which a task stops at a value: those of its comparison or its search. -/
def Stops : Task → List Value → Value → Fault → Prop
  | .equality, [expected], value, fault =>
      fault = .undefinedDecimal ∧ Inquiry.equality.IsStuck value expected
  | .order, [bound], value, fault =>
      fault = .undefinedDecimal ∧ Inquiry.order.IsStuck value bound
  | .part, [sought], value, fault => value.SearchStops sought fault
  | .option, [options], value, fault => options.SearchStops value fault
  | _, _, _, _ => False

/-- Whether a function does a task: with the arguments of the task it answers with a truth value,
unless it stops with one of the faults of the task. -/
def IsDoneBy (task : Task) (function : PredicateFunction) : Prop :=
  ∀ args value, task.Takes args →
    ∃ attempt : Attempt Bool, function (args ++ [value]) = attempt.map Value.bool ∧
      ∀ fault, attempt = .error fault ↔ task.Stops args value fault

theorem isDoneBy_plain (test : Value → Bool) :
    Task.plain.IsDoneBy (unary fun value => .ok (test value)) := by
  rintro _ value rfl
  exact ⟨.ok (test value), rfl, fun fault => by simp [Stops]⟩

theorem isDoneBy_equality
    {test : Value → Value → Attempt Bool}
    (asks : ∀ expected value fault,
      test expected value = .error fault ↔ value.equals expected = .error fault) :
    Task.equality.IsDoneBy (binary test) := by
  rintro _ value ⟨expected, rfl⟩
  exact ⟨test expected value, rfl, fun fault =>
    (asks expected value fault).trans Value.equals_eq_error_iff⟩

theorem isDoneBy_order (relation : Relation) :
    Task.order.IsDoneBy (binary (compares relation)) := by
  rintro _ value ⟨bound, rfl⟩
  exact ⟨compares relation bound value, rfl, fun fault =>
    Attempt.orIfWrongKind_eq_error.trans Value.related_eq_error_iff⟩

theorem isDoneBy_size
    {test : Value → Value → Attempt Bool}
    (answers : ∀ bound number (size : Int), bound.whole? = some number →
      ∃ flag, test bound (.int size) = .ok flag) :
    Task.size.IsDoneBy (binary fun bound => hasSize (test bound)) := by
  rintro _ value ⟨bound, number, rfl, whole⟩
  obtain ⟨flag, answered⟩ : ∃ flag, hasSize (test bound) value = .ok flag := by
    unfold hasSize
    split
    · exact answers bound number _ whole
    · exact ⟨false, rfl⟩
  exact ⟨.ok flag, by simp [binary, answered], fun fault => by simp [Stops]⟩

theorem isDoneBy_pattern : Task.pattern.IsDoneBy (binary matchesPattern) := by
  rintro _ value ⟨written, search, rfl, readable⟩
  obtain ⟨flag, answered⟩ : ∃ flag, matchesPattern (.text written) value = .ok flag := by
    unfold matchesPattern
    split
    · simp only [matchesPattern.readPattern, readable]
      exact ⟨_, rfl⟩
    · exact ⟨false, rfl⟩
  exact ⟨.ok flag, by simp [binary, answered], fun fault => by simp [Stops]⟩

theorem isPart_eq_error
    {expected : Bool}
    {container value : Value}
    {fault : Fault} :
    isPart expected container value = .error fault ↔ container.SearchStops value fault := by
  rw [isPart, Attempt.orIfWrongKind_eq_error, Attempt.map_eq_error, Value.contains_eq_error_iff]

theorem isDoneBy_part (expected : Bool) :
    Task.part.IsDoneBy (binary fun sought value => isPart expected value sought) := by
  rintro _ value ⟨sought, rfl⟩
  exact ⟨isPart expected value sought, rfl, fun fault => isPart_eq_error⟩

theorem isDoneBy_option (expected : Bool) :
    Task.option.IsDoneBy (binary fun options value => isPart expected options value) := by
  rintro _ value ⟨options, rfl⟩
  exact ⟨isPart expected options value, rfl, fun fault => isPart_eq_error⟩

end Task

/-- Every built-in predicate does its task. -/
theorem isDoneBy_of_lookup
    {name : String}
    {function : PredicateFunction}
    {task : Task}
    (found : builtins.lookup name = some function)
    (known : task? name = some task) :
    task.IsDoneBy function := by
  unfold task? at known
  split at known <;> cases known <;> cases found
  · exact Task.isDoneBy_plain isFilled
  · exact Task.isDoneBy_plain isEmpty
  · exact Task.isDoneBy_plain (hasParity 0)
  · exact Task.isDoneBy_plain (hasParity 1)
  · exact Task.isDoneBy_equality fun _ _ _ => Iff.rfl
  · exact Task.isDoneBy_equality fun _ _ _ => Attempt.map_eq_error
  · exact Task.isDoneBy_order .greater
  · exact Task.isDoneBy_order .greaterOrEqual
  · exact Task.isDoneBy_order .less
  · exact Task.isDoneBy_order .lessOrEqual
  · exact Task.isDoneBy_size fun _ _ => exists_equals_of_whole?
  · exact Task.isDoneBy_size fun _ _ => exists_related_of_whole? .greaterOrEqual
  · exact Task.isDoneBy_size fun _ _ => exists_related_of_whole? .lessOrEqual
  · exact Task.isDoneBy_pattern
  · exact Task.isDoneBy_part true
  · exact Task.isDoneBy_part false
  · exact Task.isDoneBy_option true
  · exact Task.isDoneBy_option false

/-- Every built-in predicate but the type check has a task. -/
theorem exists_task_of_lookup
    {name : String}
    {function : PredicateFunction}
    (found : builtins.lookup name = some function)
    (other : name ≠ "type?") :
    ∃ task, task? name = some task := by
  have listed : ∀ name ∈ builtins.map Prod.fst, name ≠ "type?" → (task? name).isSome = true := by
    decide
  obtain ⟨before, after, split, -⟩ := List.lookup_eq_some_iff.mp found
  exact Option.isSome_iff_exists.mp (listed name (by simp [split]) other)

end Predicate
end DataContract
