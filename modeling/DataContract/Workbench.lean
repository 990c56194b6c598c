import DataContract.Spec.Compile

/-!
# Workbenches

A workbench holds registries, compilers that look names up in them, and the schemas that were
compiled so far, each known by its number in the order of making. A compiler sees what its
registries hold when it compiles; a schema that was compiled holds the functions of its
predicates itself. What is done at a workbench can stop with a fault, and what was changed until
then stays changed.
-/

namespace DataContract

/-- The registries that a compiler looks names up in, by their numbers, and its settings. -/
structure CompilerPlan where
  /-- The registry of types. -/
  types : Nat
  /-- The registry of predicates. -/
  predicates : Nat
  /-- What holds where no option says anything else. -/
  settings : Settings

/-- Registries, compilers and compiled schemas that are in use together. -/
structure Workbench where
  /-- The registries of types, by number. -/
  types : List TypeRegistry
  /-- The registries of predicates, by number. -/
  predicates : List PredicateRegistry
  /-- The compilers, by number. -/
  compilers : List CompilerPlan
  /-- The schemas that have been compiled. -/
  schemas : List Schema

namespace Workbench

/-- A workbench with one compiler and its registries. -/
def ofCompiler (compiler : Compiler) : Workbench :=
  ⟨[compiler.types], [compiler.predicates], [⟨0, 0, compiler.settings⟩], []⟩

/-- Something to register under a name, in the registry with a number. For a predicate, `none`
stands for something that cannot be applied. -/
inductive Registration
  | type
      (registry : Nat)
      (name : String)
      (spec : Spec)
  | predicate
      (registry : Nat)
      (name : String)
      (function : Option PredicateFunction)

/-- Something to do at a workbench. -/
inductive Step
  | addTypes
  | addPredicates
  | addCompiler (plan : CompilerPlan)
  | register (registration : Registration)
  | compile
      (compiler : Nat)
      (spec : Spec)
      (options : CompileOptions)

/-- The item with a number; a fault if there is none. -/
def item
    (items : List α)
    (number : Nat) : Attempt α :=
  match items[number]? with
  | some item => .ok item
  | none => .error .missingKey

/-- The compiler with a number, with what its registries hold at present. -/
def compiler
    (bench : Workbench)
    (number : Nat) : Attempt Compiler := do
  let plan ← item bench.compilers number
  .ok ⟨← item bench.types plan.types, ← item bench.predicates plan.predicates, plan.settings⟩

/-- What the compiler with a number makes of a specification at present. -/
def compile
    (bench : Workbench)
    (number : Nat)
    (spec : Spec)
    (options : CompileOptions) : Attempt Schema := do
  (← bench.compiler number).compile spec options

/-- The outcome of a value under the schema with a number. -/
def validate
    (bench : Workbench)
    (number : Nat)
    (value : Value) : Attempt Outcome := do
  (← item bench.schemas number).validate value

/-- Something done at a workbench. Changes stay, also where a fault follows. -/
abbrev Session := ExceptT Fault (StateM Workbench)

/-- What something done at a workbench comes to, and the workbench after it. -/
def Session.perform
    (session : Session α)
    (bench : Workbench) : Attempt α × Workbench :=
  session.run.run bench

/-- Try something that changes nothing. -/
def look (attempt : Workbench → Attempt α) : Session α :=
  ExceptT.mk fun bench => pure (attempt bench, bench)

/-- Register a type or a predicate. -/
def Registration.session : Registration → Session Unit
  | .type number name spec => do
      let registry ← look fun bench => item bench.types number
      let next ← look fun _ => registry.register name spec
      modify fun bench => { bench with types := bench.types.set number next }
  | .predicate number name function => do
      let registry ← look fun bench => item bench.predicates number
      let next ← look fun _ => registry.register name function
      modify fun bench => { bench with predicates := bench.predicates.set number next }

/-- Do one step. New registries know what is built in, and what was compiled is kept. -/
def Step.session : Step → Session Unit
  | .addTypes => modify fun bench => { bench with types := bench.types ++ [.standard] }
  | .addPredicates =>
      modify fun bench => { bench with predicates := bench.predicates ++ [.standard] }
  | .addCompiler plan => modify fun bench => { bench with compilers := bench.compilers ++ [plan] }
  | .register registration => registration.session
  | .compile number spec options => do
      let schema ← look fun bench => bench.compile number spec options
      modify fun bench => { bench with schemas := bench.schemas ++ [schema] }

/-- The workbench after several steps, whether or not they come to an answer. -/
def after
    (bench : Workbench)
    (steps : List Step) : Workbench :=
  steps.foldl (fun bench step => (step.session.perform bench).2) bench

end Workbench
end DataContract
