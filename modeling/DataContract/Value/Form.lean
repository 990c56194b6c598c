/-!
# Forms of records

A record is an object with named fields. Definitions, predicates, schemas and
the failures of rules are records where they occur among values. The form of a
record names its fields; functions among them are left out when the record is
displayed.
-/

namespace DataContract

/-- The form of a record. -/
inductive RecordForm
  | definition
  | predicate
  | conjunction
  | alternative
  | key
  | primitive
  | list
  | map
  | union
  | cast
  | custom
  | brokenRule
  /-- A sign in the place of a value, with its text instead of fields. -/
  | sign
  deriving DecidableEq, Repr

namespace RecordForm

/-- The name of a form. -/
def name : RecordForm → String
  | .definition => "TypeDefinition"
  | .predicate => "Predicate"
  | .conjunction => "And"
  | .alternative => "Or"
  | .key => "Key"
  | .primitive => "Primitive"
  | .list => "ListType"
  | .map => "MapType"
  | .union => "UnionType"
  | .cast => "Cast"
  | .custom => "CustomType"
  | .brokenRule => "RuleError"
  | .sign => "sign"

/-- The names of the fields, in order. A custom schema and a sign have none that
others can see. -/
def fields : RecordForm → List String
  | .definition => ["name", "spec", "opts"]
  | .predicate => ["name", "args", "func"]
  | .conjunction => ["items"]
  | .alternative => ["left", "right", "opts"]
  | .key => ["path", "presence", "type", "children"]
  | .primitive => ["tag", "constraints"]
  | .list => ["tag", "constraints", "member"]
  | .map => ["tag", "constraints", "keys", "atomize", "external_key"]
  | .union => ["left", "right", "opts"]
  | .cast => ["input", "output", "caster", "opts"]
  | .custom | .sign => []
  | .brokenRule => ["kind", "path", "text"]

/-- The fields that hold functions. -/
def functionFields : List String := ["func", "external_key", "caster"]

end RecordForm
end DataContract
