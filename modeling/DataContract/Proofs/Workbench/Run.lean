import DataContract.Proofs.Attempt
import DataContract.Workbench

/-!
# Runs at a workbench

A step either comes to an answer and changes the workbench in one way, or stops with a fault and
leaves it as it was. Over many steps schemas are only added, and a registry in which nothing is
registered stays the same.
-/

namespace DataContract
namespace Workbench

section Sessions

variable {bench : Workbench}

/-- What is done after something that changes nothing is done at the same workbench, if it comes
to that. -/
theorem perform_look_bind
    (attempt : Workbench → Attempt α)
    (next : α → Session β) :
    (look attempt >>= next).perform bench =
      match attempt bench with
      | .ok answer => (next answer).perform bench
      | .error fault => (.error fault, bench) := by
  have looked : (look attempt).run.run bench = (attempt bench, bench) := rfl
  rw [Session.perform, ExceptT.run_bind, StateT.run_bind, looked]
  cases attempt bench with
  | ok answer => rfl
  | error fault => rfl

@[simp] theorem perform_modify (change : Workbench → Workbench) :
    (modify change : Session Unit).perform bench = (.ok (), change bench) := rfl

theorem item_eq_ok
    {items : List α}
    {number : Nat}
    {found : α} :
    item items number = .ok found ↔ items[number]? = some found := by
  unfold item
  cases items[number]? <;> simp

end Sessions

/-- What a step that comes to an answer makes of a workbench. -/
inductive Changes (bench : Workbench) : Step → Workbench → Prop
  | addTypes : Changes bench .addTypes { bench with types := bench.types ++ [.standard] }
  | addPredicates :
      Changes bench .addPredicates { bench with predicates := bench.predicates ++ [.standard] }
  | addCompiler (plan : CompilerPlan) :
      Changes bench (.addCompiler plan) { bench with compilers := bench.compilers ++ [plan] }
  | registerType
      (number : Nat)
      (name : String)
      (spec : Spec)
      (registry next : TypeRegistry)
      (found : bench.types[number]? = some registry)
      (made : registry.register name spec = .ok next) :
      Changes bench (.register (.type number name spec))
        { bench with types := bench.types.set number next }
  | registerPredicate
      (number : Nat)
      (name : String)
      (function : Option PredicateFunction)
      (registry next : PredicateRegistry)
      (found : bench.predicates[number]? = some registry)
      (made : registry.register name function = .ok next) :
      Changes bench (.register (.predicate number name function))
        { bench with predicates := bench.predicates.set number next }
  | compile
      (number : Nat)
      (spec : Spec)
      (options : CompileOptions)
      (schema : Schema)
      (made : bench.compile number spec options = .ok schema) :
      Changes bench (.compile number spec options)
        { bench with schemas := bench.schemas ++ [schema] }

/-- A type is registered if its registry is there and takes it. -/
theorem perform_registerType
    (bench : Workbench)
    (number : Nat)
    (name : String)
    (spec : Spec) :
    (Step.register (.type number name spec)).session.perform bench =
      match item bench.types number with
      | .error fault => (.error fault, bench)
      | .ok registry =>
          match registry.register name spec with
          | .error fault => (.error fault, bench)
          | .ok next => (.ok (), { bench with types := bench.types.set number next }) := by
  rw [Step.session, Registration.session, perform_look_bind]
  cases item bench.types number with
  | error fault => rfl
  | ok registry =>
      dsimp only
      rw [perform_look_bind]
      cases registry.register name spec with
      | error fault => rfl
      | ok next => rfl

/-- A predicate is registered if its registry is there and takes it. -/
theorem perform_registerPredicate
    (bench : Workbench)
    (number : Nat)
    (name : String)
    (function : Option PredicateFunction) :
    (Step.register (.predicate number name function)).session.perform bench =
      match item bench.predicates number with
      | .error fault => (.error fault, bench)
      | .ok registry =>
          match registry.register name function with
          | .error fault => (.error fault, bench)
          | .ok next =>
              (.ok (), { bench with predicates := bench.predicates.set number next }) := by
  rw [Step.session, Registration.session, perform_look_bind]
  cases item bench.predicates number with
  | error fault => rfl
  | ok registry =>
      dsimp only
      rw [perform_look_bind]
      cases registry.register name function with
      | error fault => rfl
      | ok next => rfl

/-- A step changes the workbench in its way, or stops with a fault and leaves it as it was. -/
theorem perform_cases
    (bench : Workbench)
    (step : Step) :
    (∃ next, step.session.perform bench = (.ok (), next) ∧ bench.Changes step next) ∨
      ∃ fault, step.session.perform bench = (.error fault, bench) := by
  cases step with
  | addTypes => exact .inl ⟨_, rfl, .addTypes⟩
  | addPredicates => exact .inl ⟨_, rfl, .addPredicates⟩
  | addCompiler plan => exact .inl ⟨_, rfl, .addCompiler plan⟩
  | register registration =>
      cases registration with
      | type number name spec =>
          rw [perform_registerType]
          cases found : item bench.types number with
          | error fault => exact .inr ⟨fault, rfl⟩
          | ok registry =>
              cases made : registry.register name spec with
              | error fault => exact .inr ⟨fault, by simp [made]⟩
              | ok next =>
                  exact .inl ⟨_, by simp [made], .registerType number name spec registry next
                    (item_eq_ok.mp found) made⟩
      | predicate number name function =>
          rw [perform_registerPredicate]
          cases found : item bench.predicates number with
          | error fault => exact .inr ⟨fault, rfl⟩
          | ok registry =>
              cases made : registry.register name function with
              | error fault => exact .inr ⟨fault, by simp [made]⟩
              | ok next =>
                  exact .inl ⟨_, by simp [made], .registerPredicate number name function registry
                    next (item_eq_ok.mp found) made⟩
  | compile number spec options =>
      rw [Step.session, perform_look_bind]
      cases made : bench.compile number spec options with
      | error fault => exact .inr ⟨fault, rfl⟩
      | ok schema => exact .inl ⟨_, rfl, .compile number spec options schema made⟩

section Runs

variable
  {bench : Workbench}
  {steps : List Step}

theorem after_singleton
    (bench : Workbench)
    (step : Step) :
    bench.after [step] = (step.session.perform bench).2 := rfl

theorem after_cons
    (bench : Workbench)
    (step : Step)
    (rest : List Step) :
    bench.after (step :: rest) = (bench.after [step]).after rest := rfl

/-- What every step of a run keeps, if it changes the workbench, the whole run keeps. -/
theorem holds_after
    (property : Workbench → Prop)
    (kept : ∀ step ∈ steps, ∀ bench next, property bench → Changes bench step next → property next)
    (first : property bench) :
    property (bench.after steps) := by
  induction steps generalizing bench with
  | nil => exact first
  | cons step rest hypothesis =>
      rw [List.forall_mem_cons] at kept
      rw [after_cons]
      refine hypothesis kept.2 ?_
      rw [after_singleton]
      obtain ⟨next, performed, changes⟩ | ⟨fault, performed⟩ := bench.perform_cases step
      · rw [performed]
        exact kept.1 bench next first changes
      · rw [performed]
        exact first

/-- An item keeps its number when others are added at the end. -/
theorem getElem?_append_of_eq_some
    {items : List α}
    {number : Nat}
    {found : α}
    (known : items[number]? = some found)
    (more : List α) :
    (items ++ more)[number]? = some found := by
  obtain ⟨inside, -⟩ := List.getElem?_eq_some_iff.mp known
  rw [List.getElem?_append_left inside, known]

/-- A schema that was compiled stays under its number. -/
theorem schemas_after
    {number : Nat}
    {schema : Schema}
    (stored : bench.schemas[number]? = some schema)
    (steps : List Step) :
    (bench.after steps).schemas[number]? = some schema := by
  refine holds_after (fun bench => bench.schemas[number]? = some schema) ?_ stored
  intro step _ bench next stored changes
  cases changes with
  | compile _ _ _ made _ => exact getElem?_append_of_eq_some stored [made]
  | _ => exact stored

end Runs

/-- A registry of types or of predicates, by its number. -/
inductive RegistryId
  | types (number : Nat)
  | predicates (number : Nat)
  deriving DecidableEq, Repr

/-- The registry of a kind that has a number. -/
def registryOf? (bench : Workbench) : RegistryId → Option (TypeRegistry ⊕ PredicateRegistry)
  | .types number => bench.types[number]?.map .inl
  | .predicates number => bench.predicates[number]?.map .inr

/-- The registry that something is registered in. -/
def Registration.registry : Registration → RegistryId
  | .type number _ _ => .types number
  | .predicate number _ _ => .predicates number

/-- The registry that a step registers something in. -/
def Step.touched? : Step → Option RegistryId
  | .register registration => some registration.registry
  | _ => none

/-- A registry in which nothing is registered stays the same. -/
theorem registryOf_after
    {bench : Workbench}
    {steps : List Step}
    {id : RegistryId}
    {registry : TypeRegistry ⊕ PredicateRegistry}
    (found : bench.registryOf? id = some registry)
    (apart : ∀ step ∈ steps, step.touched? ≠ some id) :
    (bench.after steps).registryOf? id = some registry := by
  refine holds_after (fun bench => bench.registryOf? id = some registry) ?_ found
  intro step member bench next found changes
  have elsewhere := apart step member
  cases changes with
  | addTypes =>
      cases id with
      | types number =>
          obtain ⟨types, known, same⟩ := Option.map_eq_some_iff.mp found
          rw [registryOf?, getElem?_append_of_eq_some known, Option.map_some, same]
      | predicates number => exact found
  | addPredicates =>
      cases id with
      | types number => exact found
      | predicates number =>
          obtain ⟨predicates, known, same⟩ := Option.map_eq_some_iff.mp found
          rw [registryOf?, getElem?_append_of_eq_some known, Option.map_some, same]
  | addCompiler plan => exact found
  | registerType number name spec registry next known made =>
      cases id with
      | types other =>
          have differs : number ≠ other := by
            rintro rfl
            exact elsewhere rfl
          rw [registryOf?, List.getElem?_set_ne differs]
          exact found
      | predicates other => exact found
  | registerPredicate number name function registry next known made =>
      cases id with
      | types other => exact found
      | predicates other =>
          have differs : number ≠ other := by
            rintro rfl
            exact elsewhere rfl
          rw [registryOf?, List.getElem?_set_ne differs]
          exact found
  | compile number spec options schema made => exact found

end Workbench
end DataContract
