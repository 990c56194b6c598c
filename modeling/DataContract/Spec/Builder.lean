import DataContract.Spec.Basic

/-!
# Builders

Functions that write specifications. Predicates are given in order, or by name
with one argument, the question mark at the end of the name being optional.
Every builder checks the number and the names of its arguments.
-/

namespace DataContract
namespace Builder

/-- What a builder is called with. -/
structure Arguments where
  /-- The arguments without a name, in order. -/
  positional : List Spec
  /-- The arguments with a name, in order. -/
  named : List (String × Spec)

/-- The name of the predicate that a named argument stands for: low lines at
the end are dropped, and a question mark is added if there is none. -/
def predicateName (keyword : String) : String :=
  let name := String.ofList ((keyword.toList.reverse.dropWhile (· == '_')).reverse)
  if name.endsWith "?" then name else name ++ "?"

/-- The predicates given in order, followed by those given by name. -/
def predicateList (args : Arguments) : Spec :=
  .list
    (args.positional ++
      args.named.map fun given => .tuple [.text (predicateName given.1), given.2])

/-- Take an argument that may be given in order or by name, but not in both
ways. -/
def take?
    (args : Arguments)
    (name : String) : Attempt (Option Spec × Arguments) :=
  match args.positional, args.named.lookup name with
  | _ :: _, some _ => .error .wrongKind
  | first :: rest, none => .ok (some first, { args with positional := rest })
  | [], some given =>
      .ok (some given, { args with named := args.named.filter fun other => other.1 != name })
  | [], none => .ok (none, args)

/-- Take an argument that must be given. -/
def takeOne
    (args : Arguments)
    (name : String) : Attempt (Spec × Arguments) := do
  match ← take? args name with
  | (some given, rest) => .ok (given, rest)
  | (none, _) => .error .wrongKind

/-- Refuse arguments that are left over. -/
def finish (args : Arguments) : Attempt Unit :=
  if args.positional.isEmpty && args.named.isEmpty then .ok () else .error .wrongKind

/-- A type by name with predicates. -/
def typeOf (tag : Spec) (args : Arguments) : Spec :=
  .tuple [.text "type", tag, predicateList args]

/-- A type with a given name and with predicates, none of which may be called
like the argument for the name. -/
def namedType (tag : String) (args : Arguments) : Attempt Spec :=
  if (args.named.lookup "tag").isSome then .error .wrongKind
  else .ok (typeOf (.text tag) args)

/-- The specification of the absent value. -/
def noneType : Spec := typeOf (.text "none") ⟨[], []⟩

/-- A form with one part, given under a name, and with predicates. -/
def formOf
    (form part : String)
    (args : Arguments) : Attempt Spec := do
  let (given, rest) ← takeOne args part
  .ok (.tuple [.text form, given, predicateList rest])

/-- A union that nests to the right, with options for the outermost one. -/
def unionOf (options : Spec) (left right : Spec) : List Spec → Spec
  | [] => .tuple [.text "union", left, right, options]
  | next :: more => .tuple [.text "union", left, unionOf (.map []) right next more, options]

/-- The options of a union with a name, which must count as true. -/
def unionOptions (name : Option Spec) : Spec :=
  match name with
  | some name => if name.toValue.truthy then .map [(.text "name", name)] else .map []
  | none => .map []

/-- A union of two or more alternatives. -/
def union (args : Arguments) : Attempt Spec := do
  let name := args.named.lookup "name"
  let unnamed : Arguments :=
    { args with named := args.named.filter fun other => other.1 != "name" }
  let (left, rest) ← takeOne unnamed "left"
  let (right, rest) ← takeOne rest "right"
  if rest.named.isEmpty then .ok (unionOf (unionOptions name) left right rest.positional)
  else .error .wrongKind

/-- A cast with its options, the caster, unless absent, being the last. -/
def cast (args : Arguments) : Attempt Spec := do
  let (source, rest) ← takeOne args "source"
  let (output, rest) ← takeOne rest "output"
  let (caster, rest) ← take? rest "caster"
  if !rest.positional.isEmpty then .error .wrongKind
  else
    let options := rest.named.map fun option => (Value.text option.1, option.2)
    let all :=
      match caster with
      | none => options
      | some .null => options
      | some caster => Entries.put options (.text "caster") caster
    .ok (.tuple [.text "cast", source, output, .map all])

/-- A key with a presence. -/
def keyOf
    (presence : String)
    (args : Arguments) : Attempt Spec := do
  let (name, rest) ← takeOne args "name"
  finish rest
  .ok (.tuple [.text presence, name])

/-- The types that have a builder of their own. -/
def typeBuilders : List (String × String) := [
  ("any_", "any"), ("string", "string"), ("integer", "integer"), ("float_", "float"),
  ("boolean", "boolean"), ("number", "number"), ("date", "date"), ("date_time", "date_time"),
  ("time", "time")]

/-- A type by a name that is the first argument. -/
def typeByName (args : Arguments) : Attempt Spec := do
  let (tag, rest) ← takeOne args "tag"
  .ok (typeOf tag rest)

/-- The absent value, which takes no arguments. -/
def absent (args : Arguments) : Attempt Spec := do
  finish args
  .ok noneType

/-- The absent value or a value of a type. -/
def maybe (args : Arguments) : Attempt Spec := do
  let (spec, rest) ← takeOne args "spec"
  finish rest
  .ok (unionOf (.map []) noneType spec [])

/-- The builders by name. -/
def builders : List (String × (Arguments → Attempt Spec)) :=
  typeBuilders.map (fun entry => (entry.1, namedType entry.2)) ++ [
    ("required", keyOf "required"), ("optional", keyOf "optional"), ("type_", typeByName),
    ("none", absent), ("list_", formOf "list" "member"), ("map_", formOf "map" "keys"),
    ("union", union), ("maybe", maybe), ("cast", cast)]

/-- Call the builder with a name. No argument may be named twice. -/
def call
    (function : String)
    (args : Arguments) : Attempt Spec :=
  match builders.lookup function with
  | none => .error .missingOperation
  | some build =>
      if (args.named.map fun given => given.1).Nodup then build args else .error .wrongKind

end Builder
end DataContract
