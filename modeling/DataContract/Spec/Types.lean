import DataContract.Spec.Basic

/-!
# Type registries

A registry maps names to definitions and compiled schemas. It starts with the
type of numbers, a union of whole and floating-point numbers that goes by one
name.
-/

namespace DataContract

/-- Definitions and compiled schemas by name, in order of first registration. -/
structure TypeRegistry where
  /-- The definitions and compiled schemas, each under its name. -/
  types : List (String × Spec)

namespace TypeRegistry

/-- The definition of the type of numbers. -/
def numberDefinition : Spec :=
  .definition "number"
    (.tuple
      [.text "union", .text "integer", .text "float",
        .map [(.text "name", .text "number")]])
    .none

/-- The registry that knows only the type of numbers. -/
def standard : TypeRegistry := ⟨[("number", numberDefinition)]⟩

/-- The definition or schema under a name; a fault if there is none. -/
def get
    (registry : TypeRegistry)
    (name : String) : Attempt Spec :=
  match registry.types.lookup name with
  | some type => .ok type
  | none => refuse (.unknownType (.text name))

/-- Whether there is a type under a name. -/
def isRegistered
    (registry : TypeRegistry)
    (name : String) : Bool :=
  (registry.types.lookup name).isSome

/-- A named definition; the name must not be empty. -/
def define
    (name : String)
    (spec : Spec)
    (options : CompileOptions) : Attempt Spec :=
  if name.isEmpty then .error .invalidField else .ok (.definition name spec options)

/-- What is registered for a specification: definitions and schemas as they
are, anything else as a definition of the name. A schema must be able to show
its constraints. -/
def entryFor
    (name : String)
    (spec : Spec) : Attempt Spec :=
  match spec with
  | .definition .. => .ok spec
  | .compiled type => do
      let _ ← type.constraints
      .ok spec
  | _ => define name spec .none

/-- The registry after registering a type; a name that is registered again
keeps its place. -/
def register
    (registry : TypeRegistry)
    (name : String)
    (spec : Spec) : Attempt TypeRegistry := do
  let entry ← entryFor name spec
  .ok ⟨PredicateRegistry.put registry.types name entry⟩

/-- All names in order of first registration. -/
def names (registry : TypeRegistry) : List String :=
  registry.types.map Prod.fst

end TypeRegistry
end DataContract
