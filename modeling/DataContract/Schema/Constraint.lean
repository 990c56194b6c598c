import DataContract.Schema.Validate

/-!
# Constraints

Constraints combine predicates and schemas. A conjunction hands the value from
one item to the next and stops at the first failure; an alternative tries its
right side only if the left one fails. Conjunctions are kept flat.
-/

namespace DataContract

/-- A constraint on a value. -/
inductive Constraint
  | predicate (single : Predicate)
  | all (items : List Constraint)
  | either
      (left right : Constraint)
      (options : Options)
  | schema (type : Schema)

namespace Constraint

/-- The items that a constraint contributes to a conjunction. -/
def conjuncts : Constraint → List Constraint
  | .all items => items
  | other => [other]

/-- The conjunction of constraints, the items of conjunctions among them being
taken one by one. -/
def conjunction (items : List Constraint) : Constraint :=
  .all (items.flatMap conjuncts)

/-- A constraint followed by others; nothing changes if there are none. -/
def extend
    (constraint : Constraint)
    (extra : List Constraint) : Constraint :=
  if extra.isEmpty then constraint else conjunction (constraint :: extra)

/-- The conjunction of a chain of predicates. -/
def ofChain (chain : List Predicate) : Constraint :=
  .all (chain.map .predicate)

/-- The names that options of an alternative may not have, being the names of
its two sides. -/
def reservedOptions : List String := ["left", "right"]

/-- An alternative, whose options may not be named like its sides. -/
def alternative
    (left right : Constraint)
    (options : Options) : Attempt Constraint :=
  if options.any fun option => reservedOptions.contains option.1 then .error .wrongKind
  else .ok (.either left right options)

mutual

/-- Apply a constraint to a value. -/
def apply : Constraint → Value → Attempt Outcome
  | .predicate single, value => single.check value
  | .all items, value => applyAll items value
  | .either left right options, value => do
      match ← left.apply value with
      | .ok accepted => .ok (.ok accepted)
      | .error failure => do
          match ← right.apply value with
          | .ok accepted => .ok (.ok accepted)
          | .error other => .ok (.error (.either [] failure other options))
  | .schema type, value => type.validate value

/-- Apply constraints one after another, each to what the one before answered. -/
def applyAll : List Constraint → Value → Attempt Outcome
  | [], value => .ok (.ok value)
  | constraint :: rest, value => do
      match ← constraint.apply value with
      | .ok accepted => applyAll rest accepted
      | .error failure => .ok (.error failure)

end

end Constraint

namespace CustomType

/-- A custom schema with further predicates, if it has a way to take them. -/
def constrain
    (type : CustomType)
    (extra : List Predicate) : Attempt CustomType :=
  match type.now.take? with
  | some take => (take extra).map fun _ => type.after extra
  | none => refuse (.fixedConstraints ("<" ++ type.now.tag ++ ">"))

/-- A custom schema that accepts the texts that all predicates of a chain hold
of. It puts further predicates at the end of the chain, or has no way to take
them. -/
def ofTexts
    (tag : String)
    (extensible : Bool)
    (mark : Nat)
    (chain : List Predicate) : CustomType :=
  .ofState
    (fun chain => {
      tag, chain, mark
      isPrimitive := false
      take? := if extensible then some fun _ => .ok () else none
      validate := fun value =>
        match value with
        | .text _ => checkChain chain value
        | _ => .ok (.error (.predicate [] "plain?" [value] value)) })
    (fun chain extra => chain ++ extra)
    chain

end CustomType

namespace Schema

/-- The constraints that a schema shows: of a union the alternative of both
sides, of a cast those of its output. -/
def constraints : Schema → Attempt Constraint
  | .primitive _ chain => .ok (.ofChain chain)
  | .list chain _ => .ok (.ofChain chain)
  | .map chain _ _ _ => .ok (.ofChain chain)
  | .union left right options => do
      Constraint.alternative (← left.constraints) (← right.constraints) options
  | .cast _ output _ _ => output.constraints
  | .custom type => .ok (.ofChain type.now.chain)

/-- A schema with further predicates. Both alternatives of a union and the
output of a cast take them, and so does a custom schema in its own way. -/
def constrain (extra : List Predicate) : Schema → Attempt Schema
  | .primitive tag chain => .ok (.primitive tag (chain ++ extra))
  | .list chain member => .ok (.list (chain ++ extra) member)
  | .map chain keys atomize style => .ok (.map (chain ++ extra) keys atomize style)
  | .union left right options => do
      .ok (.union (← left.constrain extra) (← right.constrain extra) options)
  | .cast input output caster options => do
      .ok (.cast input (← output.constrain extra) caster options)
  | .custom type =>
      if extra.isEmpty then .ok (.custom type) else (type.constrain extra).map .custom

end Schema
end DataContract
