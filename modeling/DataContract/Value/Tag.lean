import DataContract.Value.Basic

/-!
# Tags

Every kind of value has a tag with a name. The tag `any` admits all values,
the tag for lists also admits tuples, and truth values are no whole numbers.
-/

namespace DataContract

/-- The tag of a kind of values. -/
inductive Tag
  | any
  | none
  | boolean
  | integer
  | float
  | string
  | bytes
  | list
  | map
  | date
  | dateTime
  | time
  | decimal
  deriving DecidableEq, Repr

namespace Tag

/-- All tags. -/
def all : List Tag :=
  [.any, .none, .boolean, .integer, .float, .string, .bytes, .list, .map, .date, .dateTime,
    .time, .decimal]

/-- The name of a tag. -/
def name : Tag → String
  | .any => "any"
  | .none => "none"
  | .boolean => "boolean"
  | .integer => "integer"
  | .float => "float"
  | .string => "string"
  | .bytes => "bytes"
  | .list => "list"
  | .map => "map"
  | .date => "date"
  | .dateTime => "date_time"
  | .time => "time"
  | .decimal => "decimal"

/-- The tag with a name. -/
def ofName? (name : String) : Option Tag :=
  all.find? (·.name == name)

theorem mem_all (tag : Tag) : tag ∈ all := by
  cases tag <;> decide

theorem name_injective
    (a b : Tag)
    (same : a.name = b.name) :
    a = b := by
  cases a <;> cases b <;> first | rfl | (simp [name] at same)

/-- Whether a value is of the tag's kind. -/
def admits : Tag → Value → Bool
  | .any, _ => true
  | .none, .null => true
  | .boolean, .bool _ => true
  | .integer, .int _ => true
  | .float, .float _ => true
  | .string, .text _ => true
  | .bytes, .bytes _ => true
  | .list, .list _ => true
  | .list, .tuple _ => true
  | .map, .map _ => true
  | .date, .date _ => true
  | .dateTime, .dateTime _ => true
  | .time, .time _ => true
  | .decimal, .decimal _ => true
  | _, _ => false

end Tag
end DataContract
