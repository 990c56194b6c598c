import DataContract.Settings
import DataContract.Spec.Types

/-!
# Compilation

Compiling turns a specification into a schema or tells what is wrong with it.
The options of the innermost definition around a map decide how the map names
its keys on the wire; names of types are looked up in the registry, and a name
that occurs in its own definition is a fault, because its schema would have no
end.
-/

namespace DataContract

/-- What a compilation depends on besides the specification. -/
structure Compiler where
  /-- Where names of types are looked up. -/
  types : TypeRegistry
  /-- Where names of predicates are looked up. -/
  predicates : PredicateRegistry
  /-- What holds where no option says anything else. -/
  settings : Settings

/-- The options in force at a place of a specification. -/
structure Scope where
  /-- Whether maps rename their keys, as a value that counts as true or false. -/
  atomize : Value
  /-- How keys are named on the wire. -/
  style : KeyStyle

/-- The options in force inside a definition. -/
def Scope.enter
    (scope : Scope)
    (options : CompileOptions) : Scope :=
  ⟨options.atomize.getD scope.atomize, options.style.getD scope.style⟩

/-- The options in force where only the settings count. -/
def Settings.scope (settings : Settings) : Scope :=
  ⟨.bool settings.atomize, settings.keyStyle⟩

namespace Compiler

/-- The compiler with the built-in types and predicates. -/
def standard : Compiler := ⟨.standard, .standard, .standard⟩

/-- The predicates that one item of a list of predicates stands for. -/
def predicatesOf
    (registry : PredicateRegistry)
    (item : Spec) : Attempt (List Predicate) :=
  match item with
  | .predicate single => .ok [single]
  | .text name => do .ok [← registry.predicate (.text name) []]
  | .tuple (.text name :: args) => do
      .ok [← registry.predicate (.text name) (Spec.toValues args)]
  | .map entries => entries.mapM fun entry => registry.predicate entry.1 [entry.2.toValue]
  | _ => refuse (.malformedPredicate item.toValue)

/-- The items of a list of predicates. A text or a map alone is one item, and
what counts as false has none. -/
def predicateItems (list : Spec) : Attempt (List Spec) :=
  match list with
  | .text _ => .ok [list]
  | .map _ => .ok [list]
  | _ =>
      if list.toValue.truthy then
        match list.items? with
        | some items => .ok items
        | none => .error .wrongKind
      else .ok []

/-- The predicates of a list of predicates. -/
def readPredicates
    (registry : PredicateRegistry)
    (list : Spec) : Attempt (List Predicate) := do
  let found ← (← predicateItems list).mapM (predicatesOf registry)
  .ok found.flatten

/-- The predicate that a value is of a kind, followed by others. -/
def chain
    (registry : PredicateRegistry)
    (tag : Tag)
    (extra : List Predicate) : Attempt (List Predicate) := do
  let isType ← registry.predicate (.text Failure.typePredicate) [.text tag.name]
  .ok (isType :: extra)

/-- The predicates of a node whose own come with its kind first. -/
def chainWith
    (registry : PredicateRegistry)
    (tag : Tag)
    (list : Spec) : Attempt (List Predicate) := do
  let isType ← registry.predicate (.text Failure.typePredicate) [.text tag.name]
  .ok (isType :: (← readPredicates registry list))

/-- The presence and the name that a key of a map specification declares. A
bare name is required. -/
def declaredKey (key : Value) : Presence × Value :=
  match key with
  | .tuple [.text word, name] =>
      match Presence.ofName? word with
      | some presence => (presence, name)
      | none => (.required, key)
  | _ => (.required, key)

/-- The names of the forms that a tuple can start with. -/
def forms : List String := ["type", "list", "map", "union", "cast"]

/-- The part of a form at an index, or else an empty tuple. -/
def optionalPart (parts : List Spec) (index : Nat) : Spec :=
  parts.getD index (.tuple [])

/-- The part of a form at an index, or else an empty map. -/
def optionalMap (parts : List Spec) (index : Nat) : Spec :=
  parts.getD index (.map [])

/-- The caster that an option of a cast stands for: the default one if the
option is absent. -/
def casterOf (option : Option Spec) : Attempt Caster :=
  match option with
  | none => .ok .default
  | some .null => .ok .default
  | some (.caster function) => .ok function
  | some other => refuse (.unusableCaster other.toValue)

/-- Whether an option of a cast leaves the default caster in place. -/
def usesDefault (option : Option Spec) : Bool :=
  match option with
  | none => true
  | some .null => true
  | _ => false

/-- The entry named `caster`, and the entries without it. -/
def takeCaster (entries : List (Value × Spec)) : Option Spec × List (Value × Spec) :=
  ((entries.find? fun entry => entry.1 == .text "caster").map Prod.snd,
    entries.filter fun entry => entry.1 != .text "caster")

/-- A cast between two compiled schemas. The default caster must convert
between their tags. -/
def castOf
    (input output : Schema)
    (entries : List (Value × Spec)) : Attempt Schema := do
  let (option, rest) := takeCaster entries
  let possible ← if usesDefault option then hasConversion input.tag output.tag else .ok true
  if possible then
    let caster ← casterOf option
    .ok (.cast input output caster (← Spec.namedOptions rest))
  else refuse (.noDefaultCaster input.tag output.tag)

/-- The types that remain after taking one out. -/
def without
    (types : List (String × Spec))
    (name : String) : List (String × Spec) :=
  types.filter fun type => type.1 != name

theorem length_without_lt
    (types : List (String × Spec))
    (name : String)
    (spec : Spec)
    (found : types.lookup name = some spec) :
    (without types name).length < types.length := by
  induction types with
  | nil => simp at found
  | cons type rest hypothesis =>
      by_cases same : name = type.1
      · have shorter : (without rest name).length ≤ rest.length :=
          List.length_filter_le _ rest
        simp only [without, List.filter_cons, same, bne_self_eq_false, Bool.false_eq_true,
          if_false, List.length_cons]
        simp only [without, same] at shorter
        omega
      · have differs : (type.1 != name) = true := by
          simpa [bne_iff_ne] using fun equal => same equal.symm
        have unequal : (name == type.1) = false := by simpa using same
        rw [List.lookup_cons, unequal] at found
        simp only [without, List.filter_cons, differs, if_true, List.length_cons]
        have shorter := hypothesis found
        simp only [without] at shorter
        omega

mutual

/-- Compile a specification. `types` are those that may still be looked up,
`scope` the options in force, and `root` the names of the keys around a map. -/
def compileSpec
    (compiler : Compiler)
    (types : List (String × Spec))
    (scope : Scope)
    (root : Path)
    (spec : Spec) : Attempt Schema :=
  match spec with
  | .definition _ inner options => compileSpec compiler types (scope.enter options) [] inner
  | .compiled type => do
      let _ ← type.constraints
      .ok type
  | .text name => compileName compiler types scope name []
  | .map entries => compileMap compiler types scope root entries (.tuple [])
  | .list specs =>
      if specs.length < 2 then refuse (.tooFewAlternatives (.list (Spec.toValues specs)))
      else compileAlternatives compiler types scope specs
  | .tuple (.text tag :: parts) =>
      if tag == "type" then
        match parts with
        | [] => refuse (.incompleteSpec tag spec.toValue)
        | name :: _ => do
            let extra ← readPredicates compiler.predicates (optionalPart parts 1)
            match name with
            | .text name => compileName compiler types scope name extra
            | _ => refuse (.unknownType name.toValue)
      else if tag == "list" then
        match parts with
        | [] => refuse (.incompleteSpec tag spec.toValue)
        | member :: _ => do
            let chain ← chainWith compiler.predicates .list (optionalPart parts 1)
            .ok (.list chain (← compileSpec compiler types scope [] member))
      else if tag == "map" then
        match parts with
        | [] => refuse (.incompleteSpec tag spec.toValue)
        | .map entries :: _ =>
            compileMap compiler types scope root entries (optionalPart parts 1)
        | keys :: _ => refuse (.keysNotMapped keys.toValue)
      else if tag == "union" then
        match parts with
        | left :: right :: _ => do
            let left ← compileSpec compiler types scope [] left
            let right ← compileSpec compiler types scope [] right
            let entries ← (optionalMap parts 2).toOptionEntries
            .ok (.union left right (← Spec.namedOptions entries))
        | _ => refuse (.incompleteSpec tag spec.toValue)
      else if tag == "cast" then
        match parts with
        | input :: output :: _ => do
            let entries ← (optionalMap parts 2).toOptionEntries
            let input ← compileSpec compiler types scope [] input
            let output ← compileSpec compiler types scope [] output
            castOf input output entries
        | _ => refuse (.incompleteSpec tag spec.toValue)
      else refuse (.malformedSpec spec.toValue)
  | _ => refuse (.malformedSpec spec.toValue)
termination_by (types.length, sizeOf spec, 0)

/-- Compile the name of a type with further predicates. -/
def compileName
    (compiler : Compiler)
    (types : List (String × Spec))
    (scope : Scope)
    (name : String)
    (extra : List Predicate) : Attempt Schema :=
  match Tag.ofName? name with
  | some tag => do .ok (.primitive tag (← chain compiler.predicates tag extra))
  | none =>
      match found : types.lookup name with
      | some type => do
          have _shorter := length_without_lt types name type found
          (← compileSpec compiler (without types name) scope [] type).constrain extra
      | none =>
          if compiler.types.isRegistered name then .error .endlessDefinition
          else refuse (.unknownType (.text name))
termination_by (types.length, 0, 0)

/-- Compile a map of keys with further predicates. -/
def compileMap
    (compiler : Compiler)
    (types : List (String × Spec))
    (scope : Scope)
    (root : Path)
    (entries : List (Value × Spec))
    (list : Spec) : Attempt Schema := do
  let keys ← compileKeys compiler types scope root [] entries
  let chain ← chainWith compiler.predicates .map list
  .ok (.map chain keys scope.atomize.truthy scope.style)
termination_by (types.length, sizeOf entries, 1)

/-- Compile the keys of a map. A name that was declared before is refused. -/
def compileKeys
    (compiler : Compiler)
    (types : List (String × Spec))
    (scope : Scope)
    (root : Path)
    (seen : List Value)
    (entries : List (Value × Spec)) : Attempt (List Key) :=
  match entries with
  | [] => .ok []
  | (key, spec) :: rest => do
      let declared := declaredKey key
      let name := declared.2
      if seen.any (name.sameKey ·) then refuse (.duplicateKey name)
      else
        let path := root ++ [name]
        let (type, inline) ← compileEntry compiler types scope path spec
        let others ← compileKeys compiler types scope root (name :: seen) rest
        .ok (.mk root name declared.1 type inline :: others)
termination_by (types.length, sizeOf entries, 0)

/-- Compile the value of the key with a path, and tell whether it is a map given
in place, whose keys then continue the path. -/
def compileEntry
    (compiler : Compiler)
    (types : List (String × Spec))
    (scope : Scope)
    (path : Path)
    (spec : Spec) : Attempt (Schema × Bool) :=
  match spec with
  | .map entries => do
      .ok (← compileMap compiler types scope path entries (.tuple []), true)
  | .tuple (.text "map" :: .map entries :: parts) => do
      .ok (← compileMap compiler types scope path entries (optionalPart parts 0), true)
  | other => do .ok (← compileSpec compiler types scope [] other, false)
termination_by (types.length, sizeOf spec, 1)

/-- Compile a list of at least two alternatives, which nest to the right. -/
def compileAlternatives
    (compiler : Compiler)
    (types : List (String × Spec))
    (scope : Scope)
    (specs : List Spec) : Attempt Schema :=
  match specs with
  | [] => refuse (.tooFewAlternatives (.list []))
  | [only] => compileSpec compiler types scope [] only
  | first :: second :: rest => do
      let left ← compileSpec compiler types scope [] first
      let right ← compileAlternatives compiler types scope (second :: rest)
      .ok (.union left right [])
termination_by (types.length, sizeOf specs, 0)

end

/-- Compile a specification with options of its own. -/
def compile
    (compiler : Compiler)
    (spec : Spec)
    (options : CompileOptions) : Attempt Schema :=
  compileSpec compiler compiler.types.types (compiler.settings.scope.enter options) [] spec

end Compiler
end DataContract
