import DataContract.Predicate.Builtin

/-!
# Predicate registries

A registry maps names to functions. It starts with the built-in ones; a name
that is registered again keeps its place and takes the new function.
-/

namespace DataContract

/-- Functions by name, in order of first registration. -/
structure PredicateRegistry where
  /-- The functions, each under its name. -/
  functions : List (String × PredicateFunction)

namespace PredicateRegistry

/-- The registry of the built-in predicates. -/
def standard : PredicateRegistry := ⟨Predicate.builtins⟩

/-- The function under a name. -/
def find?
    (registry : PredicateRegistry)
    (name : String) : Option PredicateFunction :=
  registry.functions.lookup name

/-- The function under a name; a fault if there is none. -/
def get
    (registry : PredicateRegistry)
    (name : Value) : Attempt PredicateFunction :=
  if !name.isKey then .error .wrongKind
  else
    match name with
    | .text text =>
        match registry.find? text with
        | some function => .ok function
        | none => refuse (.unknownPredicate name)
    | _ => refuse (.unknownPredicate name)

/-- Whether there is a function under a name. -/
def isRegistered
    (registry : PredicateRegistry)
    (name : String) : Bool :=
  (registry.find? name).isSome

/-- The pairs after putting a function under a name. -/
def put {α : Type}
    (pairs : List (String × α))
    (name : String)
    (item : α) : List (String × α) :=
  match pairs with
  | [] => [(name, item)]
  | pair :: rest => if pair.1 == name then (name, item) :: rest else pair :: put rest name item

/-- The registry after registering a function, which needs a name; `none` in
the place of the function stands for something that cannot be applied. -/
def register
    (registry : PredicateRegistry)
    (name : String)
    (function : Option PredicateFunction) : Attempt PredicateRegistry :=
  match function with
  | some function =>
      if name.isEmpty then refuse (.unusablePredicate (.text name))
      else .ok ⟨put registry.functions name function⟩
  | none => refuse (.unusablePredicate (.text name))

/-- All names in the order of texts. -/
def names (registry : PredicateRegistry) : List String :=
  (registry.functions.map Prod.fst).mergeSort fun a b => decide (a ≤ b)

/-- The predicate that binds arguments to the function under a name. -/
def predicate
    (registry : PredicateRegistry)
    (name : Value)
    (args : List Value) : Attempt Predicate := do
  let function ← registry.get name
  .ok ⟨name.plain, args, function⟩

end PredicateRegistry
end DataContract
