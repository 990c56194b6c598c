import DataContract.Proofs.Value.Comparison
import DataContract.Predicate.Registry

/-!
# Mistakes that predicates tell

Whatever a built-in predicate is applied to, it stops with a mistake in a definition for one
reason only: a type check was given something that names no tag. All other reasons to stop lie
in the arguments and the value alone.
-/

namespace DataContract

open Attempt

variable {blamed : DefinitionFault → Prop}

namespace Value

theorem blamesOnly_equals (a b : Value) : BlamesOnly blamed (a.equals b) :=
  stops_equals a b fun _ _ same => nomatch same

theorem blamesOnly_equalsAsPart (a b : Value) : BlamesOnly blamed (a.equalsAsPart b) := by
  unfold equalsAsPart
  split
  · exact .ok _
  · exact blamesOnly_equals a b

theorem blamesOnly_memberOf
    (items : List Value)
    (value : Value) :
    BlamesOnly blamed (memberOf items value) := by
  induction items with
  | nil => exact .ok _
  | cons item rest hypothesis =>
      refine .bind (blamesOnly_equalsAsPart item value) fun found _ => ?_
      split
      · exact .ok _
      · exact hypothesis

theorem blamesOnly_contains (container value : Value) :
    BlamesOnly blamed (container.contains value) := by
  unfold contains
  split
  · split
    · exact .ok _
    · exact blamesOnly_error rfl
  · split
    · exact .ok _
    · split
      · split
        · exact .ok _
        · exact blamesOnly_error rfl
      · exact blamesOnly_error rfl
  · exact blamesOnly_memberOf _ value
  · exact blamesOnly_memberOf _ value
  · split
    · exact blamesOnly_error rfl
    · exact blamesOnly_memberOf _ value
  · split
    · exact .ok _
    · exact blamesOnly_error rfl
  · exact blamesOnly_error rfl

theorem blamesOnly_related
    {relation : Relation}
    (a b : Value) :
    BlamesOnly blamed (a.related relation b) :=
  stops_related a b (fun _ same => nomatch same) fun _ same => nomatch same

end Value

namespace Predicate

/-- Whether a value names a tag. -/
def namesTag : Value → Bool
  | .text name => (Tag.ofName? name).isSome
  | _ => false

/-- A type check stops with a mistake only if it was given no name of a tag. -/
theorem blamesOnly_isType (tag value : Value) :
    BlamesOnly (fun cause => namesTag tag = false ∧ cause = .unknownPrimitive tag)
      (isType tag value) := by
  unfold isType
  split
  · exact blamesOnly_error rfl
  · split
    · split
      · exact .ok _
      · rename_i unknown
        exact blamesOnly_refuse ⟨by simp [namesTag, unknown], rfl⟩
    · rename_i other
      refine blamesOnly_refuse ⟨?_, rfl⟩
      unfold namesTag
      split
      · exact absurd rfl (other _)
      · rfl

theorem blamesOnly_unary
    {test : Value → Attempt Bool}
    (blames : ∀ value, BlamesOnly blamed (test value))
    (args : List Value) :
    BlamesOnly blamed (unary test args) := by
  unfold unary
  split
  · exact .map (blames _)
  · exact blamesOnly_error rfl

theorem blamesOnly_binary
    {test : Value → Value → Attempt Bool}
    (blames : ∀ arg value, BlamesOnly blamed (test arg value))
    (args : List Value) :
    BlamesOnly blamed (binary test args) := by
  unfold binary
  split
  · exact .map (blames _ _)
  · exact blamesOnly_error rfl

theorem blamesOnly_hasSize
    {test : Value → Attempt Bool}
    (blames : ∀ size, BlamesOnly blamed (test size))
    (value : Value) :
    BlamesOnly blamed (hasSize test value) := by
  unfold hasSize
  split
  · exact blames _
  · exact .ok _

theorem blamesOnly_matchesPattern (pattern value : Value) :
    BlamesOnly blamed (matchesPattern pattern value) := by
  have read (subject : PatternSubject) (written : List Char) :
      BlamesOnly blamed (matchesPattern.readPattern subject written) := by
    unfold matchesPattern.readPattern
    split
    · exact .ok _
    all_goals exact blamesOnly_error rfl
  unfold matchesPattern
  split
  · split
    · exact .map (read _ _)
    · exact .bind (read _ _) fun _ _ => blamesOnly_error rfl
    · exact blamesOnly_error rfl
  · exact .ok _

theorem blamesOnly_compares
    (relation : Relation)
    (bound value : Value) :
    BlamesOnly blamed (compares relation bound value) :=
  .orIfWrongKind (Value.blamesOnly_related _ _) false

theorem blamesOnly_isPart
    (expected : Bool)
    (container value : Value) :
    BlamesOnly blamed (isPart expected container value) :=
  .orIfWrongKind (.map (Value.blamesOnly_contains _ _)) false

/-- No built-in function but the type check, which is the first, stops with a mistake in a
definition. -/
theorem blamesOnly_builtins :
    ∀ entry ∈ builtins.tail, ∀ args, BlamesOnly blamed (entry.2 args) := by
  simp only [builtins, List.tail_cons, List.forall_mem_cons, List.not_mem_nil, false_imp_iff,
    implies_true, and_true]
  refine ⟨?_, ?_, ?_, ?_, ?_, ?_, ?_, ?_, ?_, ?_, ?_, ?_, ?_, ?_, ?_, ?_, ?_, ?_⟩
  · exact blamesOnly_unary fun _ => .ok _
  · exact blamesOnly_unary fun _ => .ok _
  · exact blamesOnly_binary fun _ _ => Value.blamesOnly_equals _ _
  · exact blamesOnly_binary fun _ _ => .map (Value.blamesOnly_equals _ _)
  · exact blamesOnly_binary (blamesOnly_compares _)
  · exact blamesOnly_binary (blamesOnly_compares _)
  · exact blamesOnly_binary (blamesOnly_compares _)
  · exact blamesOnly_binary (blamesOnly_compares _)
  · exact blamesOnly_unary fun _ => .ok _
  · exact blamesOnly_unary fun _ => .ok _
  · exact blamesOnly_binary fun _ => blamesOnly_hasSize fun _ => Value.blamesOnly_equals _ _
  · exact blamesOnly_binary fun _ => blamesOnly_hasSize fun _ => Value.blamesOnly_related _ _
  · exact blamesOnly_binary fun _ => blamesOnly_hasSize fun _ => Value.blamesOnly_related _ _
  · exact blamesOnly_binary blamesOnly_matchesPattern
  · exact blamesOnly_binary fun _ _ => blamesOnly_isPart _ _ _
  · exact blamesOnly_binary fun _ _ => blamesOnly_isPart _ _ _
  · exact blamesOnly_binary (blamesOnly_isPart _)
  · exact blamesOnly_binary (blamesOnly_isPart _)

/-- Whether a predicate is a built-in type check that was given something that names no tag, so
that it stops with this mistake. -/
def IsMistaken
    (predicate : Predicate)
    (cause : DefinitionFault) : Prop :=
  predicate.function = binary isType ∧
    ∃ tag, predicate.args = [tag] ∧ namesTag tag = false ∧ cause = .unknownPrimitive tag

/-- The function of a predicate from the built-in registry is a built-in one. -/
theorem exists_mem_builtins
    {name : Value}
    {args : List Value}
    {predicate : Predicate}
    (built : PredicateRegistry.standard.predicate name args = .ok predicate) :
    ∃ text, (text, predicate.function) ∈ builtins := by
  obtain ⟨function, got, same⟩ := Attempt.bind_eq_ok.mp built
  cases same
  unfold PredicateRegistry.get at got
  split at got
  · cases got
  · split at got
    · rename_i text _
      split at got
      · rename_i looked
        cases got
        obtain ⟨before, after, split, -⟩ := List.lookup_eq_some_iff.mp looked
        have all : PredicateRegistry.standard.functions = builtins := rfl
        rw [all] at split
        exact ⟨text, by simp [split]⟩
      · simp at got
    · simp at got

/-- A built-in predicate tells no mistake but that it is a type check of no tag. -/
theorem blamesOnly_holds
    {name : Value}
    {args : List Value}
    {predicate : Predicate}
    (built : PredicateRegistry.standard.predicate name args = .ok predicate)
    (value : Value) :
    BlamesOnly predicate.IsMistaken (predicate.holds value) := by
  obtain ⟨text, member⟩ := exists_mem_builtins built
  rw [holds]
  refine .map ?_
  rcases List.mem_cons.mp member with first | later
  · obtain ⟨text, args, function⟩ := predicate
    obtain ⟨-, rfl⟩ := Prod.mk.inj first
    match args with
    | [] => exact blamesOnly_error rfl
    | [tag] =>
        refine .map ((blamesOnly_isType tag value).mono fun cause mistake => ?_)
        exact ⟨rfl, tag, rfl, mistake⟩
    | first :: second :: rest =>
        cases rest <;> exact blamesOnly_error rfl
  · exact blamesOnly_builtins _ later _

end Predicate
end DataContract
