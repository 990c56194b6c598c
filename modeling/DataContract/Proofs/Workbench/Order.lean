import DataContract.Proofs.Predicate.TypeCheck
import DataContract.Proofs.Spec.Parallel
import DataContract.Proofs.Workbench.Run

/-!
# The order of registrations

What a registry finds under a name is what was registered there last, and a registration does
not look at what else is registered. Registrations under different names therefore leave the
same to be found in every order, and compilers come to the same with it, also where a definition
refers to a name that was registered after it. What was compiled before is not touched.
-/

namespace DataContract
namespace Workbench

/-- What a registry finds under a name. -/
def find?
    (bench : Workbench)
    (id : RegistryId)
    (name : String) : Option (Spec ⊕ PredicateFunction) :=
  match bench.registryOf? id with
  | some (.inl types) => (types.types.lookup name).map .inl
  | some (.inr predicates) => (predicates.find? name).map .inr
  | none => none

namespace Registration

/-- The name that something is registered under. -/
def name : Registration → String
  | .type _ name _ => name
  | .predicate _ name _ => name

/-- The registry and the name that something is registered under. -/
def target (registration : Registration) : RegistryId × String :=
  (registration.registry, registration.name)

/-- What is found after a registration, if it does not fail. -/
def made? : Registration → Option (Spec ⊕ PredicateFunction)
  | .type _ name spec =>
      match TypeRegistry.entryFor name spec with
      | .ok entry => some (.inl entry)
      | .error _ => none
  | .predicate _ name function => (if name.isEmpty then none else function).map .inr

end Registration

section Entries

variable {bench other : Workbench}

/-- What a registration of a type leaves: the new entry, unless it fails. -/
theorem after_registerType
    (bench : Workbench)
    (number : Nat)
    (name : String)
    (spec : Spec) :
    bench.after [.register (.type number name spec)] =
      match bench.types[number]?, TypeRegistry.entryFor name spec with
      | some registry, .ok entry =>
          { bench with
            types := bench.types.set number ⟨PredicateRegistry.put registry.types name entry⟩ }
      | _, _ => bench := by
  rw [after_singleton, perform_registerType, item]
  cases bench.types[number]? with
  | none => rfl
  | some registry =>
      dsimp only
      rw [TypeRegistry.register]
      cases TypeRegistry.entryFor name spec with
      | error fault => rfl
      | ok entry => rfl

/-- What a registration of a predicate leaves: the new function, unless it fails. -/
theorem after_registerPredicate
    (bench : Workbench)
    (number : Nat)
    (name : String)
    (function : Option PredicateFunction) :
    bench.after [.register (.predicate number name function)] =
      match bench.predicates[number]?, if name.isEmpty then none else function with
      | some registry, some function =>
          { bench with
            predicates :=
              bench.predicates.set number ⟨PredicateRegistry.put registry.functions name function⟩ }
      | _, _ => bench := by
  rw [after_singleton, perform_registerPredicate, item]
  cases bench.predicates[number]? with
  | none => rfl
  | some registry =>
      dsimp only
      unfold PredicateRegistry.register
      cases function with
      | none => cases name.isEmpty <;> rfl
      | some function => cases name.isEmpty <;> rfl

/-- A registry of types that is replaced is found in its place, and every other as before. -/
theorem registryOf_set_types
    {number : Nat}
    {registry : TypeRegistry}
    (known : bench.types[number]? = some registry)
    (next : TypeRegistry)
    (id : RegistryId) :
    ({ bench with types := bench.types.set number next } : Workbench).registryOf? id =
      if id = .types number then some (.inl next) else bench.registryOf? id := by
  cases id with
  | types other =>
      obtain ⟨inside, -⟩ := List.getElem?_eq_some_iff.mp known
      by_cases same : other = number
      · simp [registryOf?, same, inside]
      · simp [registryOf?, same, List.getElem?_set_ne (Ne.symm same)]
  | predicates other => simp [registryOf?]

/-- The same for a registry of predicates. -/
theorem registryOf_set_predicates
    {number : Nat}
    {registry : PredicateRegistry}
    (known : bench.predicates[number]? = some registry)
    (next : PredicateRegistry)
    (id : RegistryId) :
    ({ bench with predicates := bench.predicates.set number next } : Workbench).registryOf? id =
      if id = .predicates number then some (.inr next) else bench.registryOf? id := by
  cases id with
  | types other => simp [registryOf?]
  | predicates other =>
      obtain ⟨inside, -⟩ := List.getElem?_eq_some_iff.mp known
      by_cases same : other = number
      · simp [registryOf?, same, inside]
      · simp [registryOf?, same, List.getElem?_set_ne (Ne.symm same)]

/-- What a registration does not aim at is found as before. -/
theorem find?_register_of_ne
    {registration : Registration}
    {id : RegistryId}
    {name : String}
    (apart : registration.target ≠ (id, name))
    (bench : Workbench) :
    (bench.after [.register registration]).find? id name = bench.find? id name := by
  cases registration with
  | type number own spec =>
      rw [after_registerType]
      split
      · rename_i registry entry known made
        rw [find?, find?, registryOf_set_types known]
        by_cases same : id = .types number
        · subst same
          have differs : name ≠ own := by
            rintro rfl
            exact apart rfl
          rw [if_pos rfl, registryOf?, known]
          simp [PredicateRegistry.lookup_put_of_ne differs]
        · rw [if_neg same]
      · rfl
  | predicate number own function =>
      rw [after_registerPredicate]
      split
      · rename_i registry function known made
        rw [find?, find?, registryOf_set_predicates known]
        by_cases same : id = .predicates number
        · subst same
          have differs : name ≠ own := by
            rintro rfl
            exact apart rfl
          rw [if_pos rfl, registryOf?, known]
          simp [PredicateRegistry.find?, PredicateRegistry.lookup_put_of_ne differs]
        · rw [if_neg same]
      · rfl

/-- What a registration aims at is found if there is its registry: the new entry, or what was
found before if the registration fails. -/
theorem find?_register_self
    (registration : Registration)
    (bench : Workbench) :
    (bench.after [.register registration]).find? registration.registry registration.name =
      if (bench.registryOf? registration.registry).isSome then
        registration.made?.or (bench.find? registration.registry registration.name)
      else none := by
  cases registration with
  | type number own spec =>
      rw [after_registerType, Registration.registry, Registration.name, Registration.made?]
      cases known : bench.types[number]? with
      | none => simp [find?, registryOf?, known]
      | some registry =>
          cases TypeRegistry.entryFor own spec with
          | error fault => simp [registryOf?, known]
          | ok entry =>
              dsimp only
              rw [find?, registryOf_set_types known, if_pos rfl]
              simp [registryOf?, known, PredicateRegistry.lookup_put_self]
  | predicate number own function =>
      rw [after_registerPredicate, Registration.registry, Registration.name, Registration.made?]
      cases known : bench.predicates[number]? with
      | none => simp [find?, registryOf?, known]
      | some registry =>
          cases if own.isEmpty then none else function with
          | none => simp [registryOf?, known]
          | some given =>
              dsimp only
              rw [find?, registryOf_set_predicates known, if_pos rfl]
              simp [registryOf?, known, PredicateRegistry.find?, PredicateRegistry.lookup_put_self]

end Entries

/-- Whether two workbenches have the same compilers, and in every registry the same under every
name. -/
structure SameEntries (bench other : Workbench) : Prop where
  /-- They have the same compilers. -/
  compilers : bench.compilers = other.compilers
  /-- They have as many registries of types. -/
  types : bench.types.length = other.types.length
  /-- They have as many registries of predicates. -/
  predicates : bench.predicates.length = other.predicates.length
  /-- They find the same in every registry under every name. -/
  find? : ∀ id name, bench.find? id name = other.find? id name

section Registrations

variable
  {bench other : Workbench}
  {registrations others : List Registration}

/-- Lists that are equally long have items under the same numbers. -/
theorem getElem?_cases_of_length
    {items others : List α}
    (same : items.length = others.length)
    (number : Nat) :
    (items[number]? = none ∧ others[number]? = none) ∨
      ∃ item other, items[number]? = some item ∧ others[number]? = some other := by
  by_cases inside : number < items.length
  · have otherInside : number < others.length := by omega
    exact .inr ⟨_, _, List.getElem?_eq_getElem inside, List.getElem?_eq_getElem otherInside⟩
  · refine .inl ⟨List.getElem?_eq_none_iff.mpr ?_, List.getElem?_eq_none_iff.mpr ?_⟩
    · omega
    · omega

/-- A registry is there on both sides if there are as many on both sides. -/
theorem isSome_registryOf_congr
    (types : bench.types.length = other.types.length)
    (predicates : bench.predicates.length = other.predicates.length)
    (id : RegistryId) :
    (bench.registryOf? id).isSome = (other.registryOf? id).isSome := by
  cases id with
  | types number =>
      obtain ⟨missing, otherMissing⟩ | ⟨registry, otherRegistry, known, otherKnown⟩ :=
        getElem?_cases_of_length types number
      · rw [registryOf?, registryOf?, missing, otherMissing]
      · rw [registryOf?, registryOf?, known, otherKnown]
        rfl
  | predicates number =>
      obtain ⟨missing, otherMissing⟩ | ⟨registry, otherRegistry, known, otherKnown⟩ :=
        getElem?_cases_of_length predicates number
      · rw [registryOf?, registryOf?, missing, otherMissing]
      · rw [registryOf?, registryOf?, known, otherKnown]
        rfl

/-- Registrations add no registries and no compilers. -/
theorem lengths_after
    (bench : Workbench)
    (registrations : List Registration) :
    (bench.after (registrations.map .register)).compilers = bench.compilers ∧
      (bench.after (registrations.map .register)).types.length = bench.types.length ∧
      (bench.after (registrations.map .register)).predicates.length =
        bench.predicates.length := by
  refine holds_after
    (fun next => next.compilers = bench.compilers ∧ next.types.length = bench.types.length ∧
      next.predicates.length = bench.predicates.length) ?_ ⟨rfl, rfl, rfl⟩
  intro step member before next same changes
  obtain ⟨registration, -, rfl⟩ := List.mem_map.mp member
  cases changes with
  | registerType => exact ⟨same.1, by simpa using same.2.1, same.2.2⟩
  | registerPredicate => exact ⟨same.1, same.2.1, by simpa using same.2.2⟩

/-- What no registration aims at is found as before. -/
theorem find?_after_of_ne
    {id : RegistryId}
    {name : String}
    (apart : ∀ registration ∈ registrations, registration.target ≠ (id, name))
    (bench : Workbench) :
    (bench.after (registrations.map .register)).find? id name = bench.find? id name := by
  induction registrations generalizing bench with
  | nil => rfl
  | cons first rest hypothesis =>
      rw [List.forall_mem_cons] at apart
      rw [List.map_cons, after_cons, hypothesis apart.2, find?_register_of_ne apart.1]

/-- Among registrations under different names, each leaves what it leaves alone. -/
theorem find?_after_of_mem
    {registration : Registration}
    (distinct : (registrations.map Registration.target).Nodup)
    (member : registration ∈ registrations)
    (bench : Workbench) :
    (bench.after (registrations.map .register)).find? registration.registry registration.name =
      (bench.after [.register registration]).find? registration.registry registration.name := by
  induction registrations generalizing bench with
  | nil => cases member
  | cons first rest hypothesis =>
      rw [List.map_cons, List.nodup_cons] at distinct
      rw [List.map_cons, after_cons]
      rcases List.mem_cons.mp member with rfl | member
      · refine find?_after_of_ne (fun other present same => distinct.1 ?_) _
        have aimed : other.target = registration.target := same
        rw [← aimed]
        exact List.mem_map_of_mem present
      · have apart : first.target ≠ registration.target := by
          intro same
          apply distinct.1
          rw [same]
          exact List.mem_map_of_mem member
        obtain ⟨-, types, predicates⟩ := lengths_after bench [first]
        have there := isSome_registryOf_congr types predicates registration.registry
        rw [hypothesis distinct.2 member, find?_register_self, find?_register_self,
          find?_register_of_ne apart]
        rw [List.map_singleton] at there
        rw [there]

/-- Registrations under different names leave the same to be found in every order. -/
theorem sameEntries_of_perm
    (permuted : others.Perm registrations)
    (distinct : (registrations.map Registration.target).Nodup)
    (bench : Workbench) :
    SameEntries (bench.after (others.map .register))
      (bench.after (registrations.map .register)) := by
  have otherDistinct : (others.map Registration.target).Nodup :=
    (permuted.map Registration.target).nodup_iff.mpr distinct
  obtain ⟨compilers, types, predicates⟩ := lengths_after bench registrations
  obtain ⟨otherCompilers, otherTypes, otherPredicates⟩ := lengths_after bench others
  refine ⟨otherCompilers.trans compilers.symm, otherTypes.trans types.symm,
    otherPredicates.trans predicates.symm, fun id name => ?_⟩
  by_cases aimed : ∃ registration ∈ registrations, registration.target = (id, name)
  · obtain ⟨registration, member, same⟩ := aimed
    obtain ⟨rfl, rfl⟩ := Prod.mk.inj same
    rw [find?_after_of_mem otherDistinct (permuted.mem_iff.mpr member),
      find?_after_of_mem distinct member]
  · have apart : ∀ registration ∈ registrations, registration.target ≠ (id, name) :=
      fun registration member same => aimed ⟨registration, member, same⟩
    have otherApart : ∀ registration ∈ others, registration.target ≠ (id, name) :=
      fun registration member => apart registration (permuted.mem_iff.mp member)
    rw [find?_after_of_ne otherApart, find?_after_of_ne apart]

end Registrations

namespace SameEntries

variable {bench other : Workbench}

theorem lookup_eq
    (same : SameEntries bench other)
    {number : Nat}
    {types otherTypes : TypeRegistry}
    (found : bench.types[number]? = some types)
    (otherFound : other.types[number]? = some otherTypes)
    (name : String) :
    types.types.lookup name = otherTypes.types.lookup name := by
  have entries := same.find? (.types number) name
  simp only [Workbench.find?, registryOf?, found, otherFound, Option.map_some] at entries
  exact Option.map_injective (fun _ _ => Sum.inl.inj) entries

theorem find?_eq
    (same : SameEntries bench other)
    {number : Nat}
    {predicates otherPredicates : PredicateRegistry}
    (found : bench.predicates[number]? = some predicates)
    (otherFound : other.predicates[number]? = some otherPredicates)
    (name : String) :
    predicates.find? name = otherPredicates.find? name := by
  have entries := same.find? (.predicates number) name
  simp only [Workbench.find?, registryOf?, found, otherFound, Option.map_some] at entries
  exact Option.map_injective (fun _ _ => Sum.inr.inj) entries

/-- Compilers come to the same with registries in which the same is found. -/
theorem compile_eq
    (same : SameEntries bench other)
    (number : Nat)
    (spec : Spec)
    (options : CompileOptions) :
    bench.compile number spec options = other.compile number spec options := by
  rw [compile, compile, compiler, compiler, same.compilers]
  cases item other.compilers number with
  | error fault => rfl
  | ok plan =>
      rw [Attempt.ok_bind, Attempt.ok_bind]
      obtain ⟨missing, otherMissing⟩ | ⟨types, otherTypes, known, otherKnown⟩ :=
        getElem?_cases_of_length same.types plan.types
      · simp only [item, missing, otherMissing, Attempt.error_bind]
      obtain ⟨missing, otherMissing⟩ | ⟨predicates, otherPredicates, found, otherFound⟩ :=
        getElem?_cases_of_length same.predicates plan.predicates
      · simp only [item, known, otherKnown, missing, otherMissing, Attempt.ok_bind,
          Attempt.error_bind]
      have lookups := same.lookup_eq known otherKnown
      have functions := same.find?_eq found otherFound
      simp only [item, known, otherKnown, found, otherFound, Attempt.ok_bind]
      apply Compiler.compile_eq_of_lookup
      · exact functions
      · exact lookups
      · rfl

end SameEntries

/-- Registrations under different names can be made in any order: every compiler comes to the same
from every specification. What was compiled at some point gives the outcomes that it gave then,
whatever steps follow. A registration that fails changes nothing, and steps change no registry but
those that they register something in. -/
theorem registrations_settle (bench : Workbench) :
    (∀ registrations others : List Registration, others.Perm registrations →
      (registrations.map Registration.target).Nodup →
        ∀ number spec options,
          (bench.after (others.map .register)).compile number spec options =
            (bench.after (registrations.map .register)).compile number spec options) ∧
    (∀ number spec options schema, bench.compile number spec options = .ok schema →
      ∀ steps value,
        ((bench.after [.compile number spec options]).after steps).validate
          bench.schemas.length value = schema.validate value) ∧
    (∀ registration fault,
      ((Step.register registration).session.perform bench).1 = .error fault →
        bench.after [.register registration] = bench) ∧
    ∀ steps id registry, bench.registryOf? id = some registry →
      (∀ step ∈ steps, step.touched? ≠ some id) →
        (bench.after steps).registryOf? id = some registry := by
  refine ⟨fun registrations others permuted distinct number spec options => ?_,
    fun number spec options schema made steps value => ?_, fun registration fault failed => ?_,
    fun steps id registry found apart => registryOf_after found apart⟩
  · exact (sameEntries_of_perm permuted distinct bench).compile_eq number spec options
  · have stored : (bench.after [.compile number spec options]).schemas[bench.schemas.length]? =
        some schema := by
      rw [after_singleton, Step.session, perform_look_bind, made]
      simp
    rw [validate, item_eq_ok.mpr (schemas_after stored steps), Attempt.ok_bind]
  · rw [after_singleton]
    obtain ⟨next, performed, -⟩ | ⟨other, performed⟩ :=
      bench.perform_cases (.register registration)
    · rw [performed] at failed
      cases failed
    · rw [performed]

/-- Homes have an address. -/
def homeSpec : Spec :=
  .map [(.text "at", .text "address")]

/-- Addresses have a short code. -/
def addressSpec : Spec :=
  .map [(.text "zip", .tuple [.text "type", .text "string", .text "short?"])]

/-- Each registration comes before that of the name that it uses. -/
def homeRegistrations : List Registration := [
  .type 0 "home" homeSpec,
  .type 0 "address" addressSpec,
  .predicate 0 "short?" (some fun _ => .ok (.bool true))]

/-- A workbench where all of them are registered. -/
def homeBench : Workbench :=
  (ofCompiler .standard).after (homeRegistrations.map .register)

/-- The compiler of this workbench. -/
def homeCompiler : Compiler where
  types :=
    ⟨[("number", TypeRegistry.numberDefinition), ("home", .definition "home" homeSpec .none),
      ("address", .definition "address" addressSpec .none)]⟩
  predicates := ⟨Predicate.builtins ++ [("short?", fun _ => .ok (.bool true))]⟩
  settings := .standard

/-- Steps of which one fails, another changes the predicate, and a third adds a registry. -/
def laterSteps : List Step := [
  .register (.predicate 0 "short?" none),
  .register (.predicate 0 "short?" (some fun _ => .ok (.bool false))),
  .addTypes]

theorem compile_home : ∃ schema, homeBench.compile 0 (.text "home") .none = .ok schema := by
  have found : homeBench.compiler 0 = .ok homeCompiler := rfl
  have string (types : List (String × Spec)) (scope : Scope) (extra : List Predicate) :
      homeCompiler.compileName types scope "string" extra =
        .ok (.primitive .string (.typeCheck .string :: extra)) := by
    rw [Compiler.compileName]
    rfl
  have address (scope : Scope) :
      homeCompiler.compileName (Compiler.without homeCompiler.types.types "home") scope "address"
        [] = _ :=
    Compiler.compileName_of_lookup (by decide) rfl scope []
  rw [compile, found, Attempt.ok_bind, Compiler.compile, Compiler.compileSpec_text,
    Compiler.compileName_of_lookup (by decide) rfl]
  simp [homeSpec, addressSpec, Compiler.compileSpec, Compiler.compileMap, Compiler.compileKeys,
    Compiler.compileEntry, Compiler.declaredKey, string, address]
  exact ⟨_, rfl⟩

theorem registrations_settle_home :
    ((ofCompiler .standard).after (homeRegistrations.reverse.map .register)).compile 0
        (.text "home") .none = homeBench.compile 0 (.text "home") .none ∧
      (∃ schema, homeBench.compile 0 (.text "home") .none = .ok schema ∧
        ∀ value, ((homeBench.after [.compile 0 (.text "home") .none]).after laterSteps).validate 0
          value = schema.validate value) ∧
      homeBench.after [.register (.predicate 0 "short?" none)] = homeBench ∧
      (homeBench.after laterSteps).registryOf? (.types 0) = homeBench.registryOf? (.types 0) := by
  obtain ⟨ordered, -⟩ := registrations_settle (ofCompiler .standard)
  obtain ⟨-, kept, failing, apart⟩ := registrations_settle homeBench
  refine ⟨ordered _ _ (List.reverse_perm homeRegistrations) (by decide) 0 _ _, ?_, ?_, ?_⟩
  · obtain ⟨schema, made⟩ := compile_home
    exact ⟨schema, made, kept 0 _ _ schema made laterSteps⟩
  · exact failing _ _ rfl
  · exact apart laterSteps (.types 0) _ rfl (by decide)

end Workbench
end DataContract
