import DataContract.Predicate.Custom
import DataContract.Proofs.Schema.WireName

/-!
# The kinds of converted values

Every conversion of the default caster makes values of the kind that its target names, whatever
it is given. A cast between two primitives therefore never fails because its caster made a value
of the wrong kind, as long as the type checks of both sides accept at least the values that their
tags admit, and values that the caster leaves as they are pass on one side as on the other.
-/

namespace DataContract

/-- What a conversion makes is of the kind that its target names. -/
theorem admits_of_conversion
    {source target : Tag}
    {conversion : Value → Entries → Attempt Value}
    (found : conversion? source target = some conversion)
    {value given : Value}
    {options : Entries}
    (made : conversion value options = .ok given) :
    target.admits given = true := by
  unfold conversion? at found
  split at found <;> cases found
  all_goals
    obtain ⟨_, -, rfl⟩ := Attempt.map_eq_ok.mp made
    rfl

/-- What the default caster answers with is the value that it was given, between equal tags, or
else of the kind of its target. -/
theorem convert_eq_ok
    {source target : Tag}
    {value given : Value}
    {options : Entries}
    (made : convert (.text source.name) (.text target.name) value options = .ok given) :
    source = target ∧ given = value ∨ target.admits given = true := by
  obtain ⟨same, compared, made⟩ := Attempt.bind_eq_ok.mp made
  cases same with
  | true =>
      have named : target.name = source.name :=
        by simpa using Value.eq_of_equals_text compared
      have equal : Tag.ofName? target.name = Tag.ofName? source.name := congrArg _ named
      rw [Tag.ofName?_name, Tag.ofName?_name, Option.some.injEq] at equal
      cases made
      exact .inl ⟨equal.symm, rfl⟩
  | false =>
      have looked : findConversion (.text source.name) (.text target.name) =
          .ok (conversion? source target) := by
        simp [findConversion, Value.isKey, Tag.ofName?_name]
      rw [if_neg Bool.false_ne_true, looked, Attempt.ok_bind] at made
      cases found : conversion? source target with
      | none => simp [found] at made
      | some conversion =>
          rw [found] at made
          exact .inr (admits_of_conversion found made)

/-- Whether a predicate has the name and the arguments of the type check of a tag. -/
def Tag.IsCheckedBy
    (tag : Tag)
    (predicate : Predicate) : Prop :=
  predicate.name = Failure.typePredicate ∧ predicate.args = [.text tag.name]

/-- Whether a failure tells that a value did not pass the type check of a tag. -/
def Failure.IsMismatchOf (tag : Tag) : Failure → Prop
  | .predicate _ name args _ =>
      name = typePredicate ∧ ∃ shown, args = [.text tag.name, shown]
  | _ => False

/-- The failure of a predicate is that of a type check only if the predicate is one. -/
theorem Failure.isMismatchOf_failure
    {tag : Tag}
    {predicate : Predicate}
    {value : Value}
    (mismatch : (predicate.failure value).IsMismatchOf tag) :
    tag.IsCheckedBy predicate := by
  obtain ⟨named, shown, bound⟩ := mismatch
  have split : predicate.args ++ [value] = [.text tag.name] ++ [shown] := bound
  exact ⟨named, (List.append_inj' split rfl).1⟩

/-- The predicate that a registry checks a tag with is a type check of it. -/
theorem PredicateRegistry.isCheckedBy_typeCheck
    {registry : PredicateRegistry}
    {tag : Tag}
    {predicate : Predicate}
    (checked : registry.typeCheck tag = .ok predicate) :
    tag.IsCheckedBy predicate := by
  obtain ⟨function, -, made⟩ := Attempt.bind_eq_ok.mp checked
  cases made
  exact ⟨rfl, rfl⟩

namespace Schema

section Sides

variable
  {accepts : Tag → Value → Attempt Bool}
  {tag : Tag}
  {chain : List Predicate}
  {value : Value}

/-- Whether all type checks of a tag in a chain are by a function. -/
def ChecksTypeBy
    (accepts : Tag → Value → Attempt Bool)
    (tag : Tag)
    (chain : List Predicate) : Prop :=
  ∀ predicate ∈ chain, tag.IsCheckedBy predicate →
    ∀ value, predicate.holds value = accepts tag value

/-- What a chain accepts has passed the type check that it begins with. -/
theorem accepts_of_checkChain
    (begins : BeginsWith Tag.IsCheckedBy tag chain)
    (checks : ChecksTypeBy accepts tag chain)
    (passed : checkChain chain value = .ok (.ok value)) :
    accepts tag value = .ok true := by
  obtain ⟨isType, extra, rfl, isCheck⟩ := begins
  rw [← checks isType List.mem_cons_self isCheck value]
  exact (checkChain_eq_accepted.mp passed).2 isType List.mem_cons_self

/-- A chain does not fail with a type check that accepts the value. -/
theorem not_isMismatchOf_of_checkChain
    (checks : ChecksTypeBy accepts tag chain)
    (accepted : accepts tag value = .ok true)
    {failure : Failure}
    (failed : checkChain chain value = .ok (.error failure)) :
    ¬ failure.IsMismatchOf tag := by
  intro mismatch
  obtain ⟨before, predicate, after, rfl, -, fails, rfl⟩ := exists_of_checkChain_failed failed
  have same := checks predicate (by simp) (Failure.isMismatchOf_failure mismatch) value
  rw [fails, accepted] at same
  cases same

end Sides

/-- A cast between primitives with the default caster. -/
def defaultCast
    (source target : Tag)
    (before after : List Predicate)
    (options : Options) : Schema :=
  .cast (.primitive source before) (.primitive target after) .default options

/-- A cast between primitives with the default caster fails as its input does, or stops, or
leaves it to its output to validate a value that passes the type check of the output. It never
fails with that type check. -/
theorem defaultCast_never_mismatches
    (accepts : Tag → Value → Attempt Bool)
    (generous : ∀ tag value, tag.admits value = true → accepts tag value = .ok true)
    (source target : Tag)
    (before after : List Predicate)
    (options : Options)
    (compiled : (defaultCast source target before after options).IsCompiled fun _ => True)
    (inputChecks : ChecksTypeBy accepts source before)
    (outputChecks : ChecksTypeBy accepts target after)
    (value : Value) :
    ((∃ failure, (primitive source before).validate value = .ok (.error failure) ∧
          (defaultCast source target before after options).validate value =
            .ok (.error (.cast failure))) ∨
        (∃ fault, (defaultCast source target before after options).validate value =
          .error fault) ∨
        ∃ given, convert (.text source.name) (.text target.name) value options.entries =
            .ok given ∧
          accepts target given = .ok true ∧
          (defaultCast source target before after options).validate value =
            (primitive target after).validate given) ∧
      ∀ failure, (defaultCast source target before after options).validate value =
          .ok (.error failure) →
        ¬ failure.IsMismatchOf target := by
  have begins : ∀ node ∈ (defaultCast source target before after options).nodes,
      node.ChecksFirst Tag.IsCheckedBy :=
    compiled.checksFirst fun _ _ _ _ made => PredicateRegistry.isCheckedBy_typeCheck made
  rw [defaultCast, forall_nodes_cast] at begins
  have inputBegins : BeginsWith Tag.IsCheckedBy source before := begins.2.1 _ (mem_nodes_self _)
  cases validated : (defaultCast source target before after options).validate value with
  | error fault => exact ⟨.inr (.inl ⟨fault, rfl⟩), fun _ failed => nomatch failed⟩
  | ok outcome =>
      rcases validate_cast_eq_ok.mp validated with
        ⟨failure, failed, rfl⟩ | ⟨accepted, given, passed, made, answered⟩
      · refine ⟨.inl ⟨failure, failed, rfl⟩, ?_⟩
        rintro _ ⟨⟩
        exact id
      · obtain rfl := eq_of_checkChain passed
        have fits : accepts target given = .ok true := by
          rcases convert_eq_ok made with ⟨rfl, rfl⟩ | admitted
          · exact accepts_of_checkChain inputBegins inputChecks passed
          · exact generous target given admitted
        refine ⟨.inr (.inr ⟨given, made, fits, answered.symm⟩), ?_⟩
        rintro failure ⟨⟩
        exact not_isMismatchOf_of_checkChain outputChecks fits answered

/-- The predicates of even numbers. -/
def evenChain : List Predicate :=
  [.typeCheck .integer, .evenCheck]

/-- A chain of the built-in type check, and of predicates with other names, checks types by what
its tag admits. -/
theorem checksTypeBy_admits
    (tag : Tag)
    (extra : List Predicate)
    (other : ∀ predicate ∈ extra, predicate.name ≠ Failure.typePredicate) :
    ChecksTypeBy (fun tag value => .ok (tag.admits value)) tag (.typeCheck tag :: extra) := by
  intro predicate member isCheck value
  rcases List.mem_cons.mp member with rfl | member
  · exact Predicate.holds_typeCheck tag value
  · exact absurd isCheck.1 (other predicate member)

theorem compile_evenText :
    Compiler.standard.compile
        (.tuple
          [.text "cast", .text "string", .tuple [.text "type", .text "integer", .text "even?"]])
        .none =
      .ok (defaultCast .string .integer [.typeCheck .string] evenChain []) := by
  simp [Compiler.compile, Compiler.compileSpec, Compiler.compileName, defaultCast, evenChain]
  rfl

theorem defaultCast_never_mismatches_evenText :
    (defaultCast .string .integer [.typeCheck .string] evenChain []).validate (.text " 13") =
        .ok (.error (.predicate [] "even?" [.int 13] (.int 13))) ∧
      ¬ (Failure.predicate [] "even?" [.int 13] (.int 13)).IsMismatchOf .integer := by
  have compiled : (defaultCast .string .integer [.typeCheck .string] evenChain []).IsCompiled
      fun _ => True :=
    isCompiled_of_standard trivial rfl compile_evenText
  have answered : (defaultCast .string .integer [.typeCheck .string] evenChain []).validate
      (.text " 13") = .ok (.error (.predicate [] "even?" [.int 13] (.int 13))) := rfl
  have conclusion := defaultCast_never_mismatches (fun tag value => .ok (tag.admits value))
    (fun tag value admitted => by rw [admitted]) .string .integer [.typeCheck .string] evenChain []
    compiled (checksTypeBy_admits .string [] (by simp))
    (checksTypeBy_admits .integer _ (by simp [Predicate.evenCheck, Failure.typePredicate]))
    (.text " 13")
  exact ⟨answered, conclusion.2 _ answered⟩

/-- The built-in types and predicates, but with divisibility in the place of the type check. -/
def dividing : Compiler :=
  { Compiler.standard with
    predicates := ⟨PredicateRegistry.put Predicate.builtins Failure.typePredicate
      (Predicate.binary Predicate.isDivisible)⟩ }

/-- A text that is cast to a text, which has to be divisible. -/
def dividedText : Schema :=
  defaultCast .string .string [.typeCheck .string]
    [⟨Failure.typePredicate, [.text "string"], Predicate.binary Predicate.isDivisible⟩] []

/-- If a template for texts does not pass as a text, a cast that leaves it as it is fails with the
type check of the output. -/
theorem divided_text_mismatches :
    Compiler.standard.compile (.text "string") .none =
        .ok (.primitive .string [.typeCheck .string]) ∧
      dividing.compile
        (.tuple
          [.text "cast", .compiled (.primitive .string [.typeCheck .string]), .text "string"])
        .none = .ok dividedText ∧
      convert (.text "string") (.text "string") (.text "%s") [] = .ok (.text "%s") ∧
      dividedText.validate (.text "%s") =
        .ok (.error (.predicate [] "type?" [.text "string", .text "%s"] (.text "%s"))) ∧
      (Failure.predicate [] "type?" [.text "string", .text "%s"] (.text "%s")).IsMismatchOf
        .string := by
  refine ⟨?_, ?_, rfl, rfl, rfl, .text "%s", rfl⟩
  · simp [Compiler.compile, Compiler.compileSpec, Compiler.compileName]
    rfl
  · simp [Compiler.compile, Compiler.compileSpec, Compiler.compileName, dividedText, defaultCast]
    rfl

end Schema
end DataContract
