import DataContract.Casting.Default
import DataContract.Predicate.Registry
import DataContract.Schema.Record
import DataContract.Value.Name

/-!
# Specifications

What a schema is compiled from: plain values, in which texts name types,
tuples start with the name of a form, lists are unions and maps are maps of
keys, and, wherever a specification is expected, named definitions and schemas
that are compiled already. Predicates and casters may appear where the forms
take them.
-/

namespace DataContract

/-- Options that a definition or a compilation sets. An option that is not set
is taken from further out. -/
structure CompileOptions where
  /-- Whether maps rename their keys. -/
  atomize : Option Value
  /-- How keys are named on the wire. It is a function: what cannot be called is no style. -/
  style : Option KeyStyle
  /-- Whatever else is set. -/
  others : Options

/-- No options. -/
def CompileOptions.none : CompileOptions := ⟨.none, .none, []⟩

/-- A specification. -/
inductive Spec
  | scalar (content : Scalar)
  | member
      (enumeration name : String)
      (content : Value)
  | list (items : List Spec)
  | tuple (items : List Spec)
  | map (entries : List (Value × Spec))
  | other (value : Value)
  | definition
      (name : String)
      (spec : Spec)
      (options : CompileOptions)
  | compiled (type : Schema)
  | predicate (single : Predicate)
  | caster (function : Caster)

namespace Spec

/-- A text. -/
@[match_pattern] abbrev text (content : String) : Spec := .scalar (.text content)

/-- The absent value. -/
@[match_pattern] abbrev null : Spec := .scalar .null

mutual

/-- A plain value as a specification. -/
def ofValue : Value → Spec
  | .scalar content => .scalar content
  | .member enumeration name content => .member enumeration name content
  | .list items => .list (ofValues items)
  | .tuple items => .tuple (ofValues items)
  | .map entries => .map (ofEntries entries)
  | .record form parts => .other (.record form parts)
  | .handle label => .other (.handle label)

/-- Plain values as specifications. -/
def ofValues : List Value → List Spec
  | [] => []
  | value :: rest => ofValue value :: ofValues rest

/-- Plain entries as entries of specifications. -/
def ofEntries : List (Value × Value) → List (Value × Spec)
  | [] => []
  | (key, value) :: rest => (key, ofValue value) :: ofEntries rest

end

/-- Compile options as a map. -/
def optionsValue (options : CompileOptions) : Value :=
  let atomize := options.atomize.toList.map fun value => (Value.text "atomize", value)
  let style := options.style.toList.map fun style =>
    (Value.text "external_key", Value.handle style.name)
  .map (atomize ++ style ++ options.others.entries)

mutual

/-- A specification as a value. Definitions, schemas and predicates become
records, and casters handles. -/
def toValue : Spec → Value
  | .scalar content => .scalar content
  | .member enumeration name content => .member enumeration name content
  | .list items => .list (toValues items)
  | .tuple items => .tuple (toValues items)
  | .map entries => .map (toEntries entries)
  | .other value => value
  | .definition name spec options =>
      .record .definition [.text name, toValue spec, optionsValue options]
  | .compiled type => type.toValue
  | .predicate single => single.toValue
  | .caster function => .handle function.name

/-- Specifications as values. -/
def toValues : List Spec → List Value
  | [] => []
  | spec :: rest => toValue spec :: toValues rest

/-- Entries of specifications as entries of a map. -/
def toEntries : List (Value × Spec) → List (Value × Value)
  | [] => []
  | (key, spec) :: rest => (key, toValue spec) :: toEntries rest

end

/-- A field as a pair of its name and its value. -/
def field (name : String) (value : Spec) : Spec :=
  .tuple [.text name, value]

/-- The parts of a specification one after another. The parts of a definition,
a schema or a predicate are its fields. -/
def items? : Spec → Option (List Spec)
  | .list items => some items
  | .tuple items => some items
  | .map entries => some (entries.map fun entry => ofValue entry.1)
  | .definition name spec options =>
      some
        [field "name" (.text name), field "spec" spec,
          field "opts" (ofValue (optionsValue options))]
  | whole => whole.toValue.items?.map ofValues

/-- The map of a sequence of entries, later ones replacing equal earlier ones;
a fault if a key cannot be one. -/
def mapOf (entries : List (Value × Spec)) : Attempt (List (Value × Spec)) :=
  entries.foldlM
    (fun made entry =>
      if entry.1.isKey then .ok (Entries.put made entry.1 entry.2) else .error .wrongKind)
    []

/-- The pair that a part of a sequence of entries stands for. -/
def pairOf (part : Spec) : Attempt (Value × Spec) :=
  match part.items? with
  | some [key, value] => .ok (key.toValue, value)
  | some _ => .error .badContent
  | none => .error .wrongKind

/-- A specification of options as entries: a map, or a sequence of pairs. The
keys of a compiled map are no options. -/
def toOptionEntries (spec : Spec) : Attempt (List (Value × Spec)) :=
  match spec with
  | .map entries => .ok entries
  | .compiled (.map ..) => .error .wrongKind
  | _ =>
      match spec.items? with
      | none => .error .wrongKind
      | some parts =>
          parts.foldlM
            (fun made part => do
              let pair ← pairOf part
              if pair.1.isKey then .ok (Entries.put made pair.1 pair.2) else .error .wrongKind)
            []

/-- Entries as named options. Of several options with one name the first gives
the place and the last the value. -/
def namedOptions (entries : List (Value × Spec)) : Attempt Options := do
  let named ← entries.mapM fun entry => do .ok (← entry.1.asName, entry.2.toValue)
  .ok (named.foldl (fun made option => PredicateRegistry.put made option.1 option.2) [])

end Spec
end DataContract
