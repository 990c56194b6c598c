import DataContract.Schema.Constraint

/-!
# Schemas as values

Predicates, constraints and schemas as records, as which they occur among
values. A function stands there by its name, so that a record tells everything
about a schema that can be shown.
-/

namespace DataContract

/-- A predicate as a record. -/
def Predicate.toValue (predicate : Predicate) : Value :=
  .record .predicate
    [.text predicate.name, .tuple predicate.args, .handle predicate.name]

/-- A conjunction of parts as a record. -/
def conjunctionRecord (items : List Value) : Value :=
  .record .conjunction [.tuple items]

/-- A chain of predicates as a record. -/
def chainRecord (chain : List Predicate) : Value :=
  conjunctionRecord (chain.map Predicate.toValue)

mutual

/-- A schema as a record. -/
def Schema.toValue : Schema → Value
  | .primitive tag chain => .record .primitive [.text tag.name, chainRecord chain]
  | .list chain member =>
      .record .list [.text Tag.list.name, chainRecord chain, member.toValue]
  | .map chain keys atomize style =>
      .record .map
        [.text Tag.map.name, chainRecord chain, .tuple (keyRecords keys), .bool atomize,
          .handle style.name]
  | .union left right options =>
      .record .union [left.toValue, right.toValue, .map options.entries]
  | .cast input output caster options =>
      .record .cast
        [input.toValue, output.toValue, .handle caster.name, .map options.entries]
  | .custom type =>
      .record .custom [.text type.now.tag, chainRecord type.now.chain, .int type.now.mark]

/-- The keys of a map as records. -/
def Schema.childRecords : Schema → List Value
  | .map _ keys _ _ => keyRecords keys
  | _ => []

/-- Keys as records. -/
def keyRecords : List Key → List Value
  | [] => []
  | .mk around name presence type inline :: rest =>
      .record .key
        [.tuple (around ++ [name]), .text presence.name, type.toValue,
          .tuple (if inline then type.childRecords else [])] ::
        keyRecords rest

end

mutual

/-- A constraint as a record. -/
def Constraint.toValue : Constraint → Value
  | .predicate single => single.toValue
  | .all items => conjunctionRecord (constraintRecords items)
  | .either left right options =>
      .record .alternative [left.toValue, right.toValue, .map options.entries]
  | .schema type => type.toValue

/-- Constraints as records. -/
def constraintRecords : List Constraint → List Value
  | [] => []
  | constraint :: rest => constraint.toValue :: constraintRecords rest

end

end DataContract
