import DataContract.Schema.Basic

/-!
# Validation

Validating a value against a schema comes to an outcome, the validated value
or a failure, unless a predicate or a caster stops it with a fault. Lists and
maps report the failures of all their parts; a map answers with the entries of
its declared keys in declaration order. A map that atomizes first renames the
entries that have the name of a key on the wire.
-/

namespace DataContract

/-- The outcome of a predicate on a value. -/
def Predicate.check
    (predicate : Predicate)
    (value : Value) : Attempt Outcome := do
  if ← predicate.holds value then .ok (.ok value)
  else .ok (.error (.predicate [] predicate.name (predicate.args ++ [value]) value))

/-- The outcome of a chain of predicates: that of the first that does not
hold. -/
def checkChain : List Predicate → Value → Attempt Outcome
  | [], value => .ok (.ok value)
  | predicate :: rest, value => do
      match ← predicate.check value with
      | .ok value => checkChain rest value
      | .error failure => .ok (.error failure)

namespace Value

/-- The part of a value under a key, if it is there. -/
def entry? (data key : Value) : Attempt (Option Value) := do
  if ← data.contains key then (data.pick key).map some else .ok none

end Value

/-- What the parts of a list or a map come to: the validated parts and the
failures, both in order. -/
structure Parts (α : Type) where
  /-- The validated parts, in order. -/
  valid : List α
  /-- The failures, in order. -/
  failures : List Failure

namespace Parts

/-- Nothing validated yet. -/
def none {α : Type} : Parts α := ⟨[], []⟩

/-- Put the outcome of one part in front of those of the parts after it. -/
def cons {α : Type}
    (outcome : Except Failure α)
    (rest : Parts α) : Parts α :=
  match outcome with
  | .ok part => { rest with valid := part :: rest.valid }
  | .error failure => { rest with failures := failure :: rest.failures }

/-- The outcome of the whole. -/
def outcome {α : Type}
    (parts : Parts α)
    (whole : List α → Value) : Outcome :=
  if parts.failures.isEmpty then .ok (whole parts.valid) else .error (.several parts.failures)

end Parts

/-- Validate the items of a list from an index on. -/
def validateItems
    (validate : Value → Attempt Outcome) : Nat → List Value → Attempt (Parts Value)
  | _, [] => .ok .none
  | index, item :: rest => do
      let outcome ← validate item
      let others ← validateItems validate (index + 1) rest
      .ok (.cons (outcome.nest [.int index]) others)

mutual

/-- The value of an inline key, its entries renamed. -/
def Schema.atomizeInline
    (style : KeyStyle) : Schema → Value → Attempt Value
  | .map _ keys _ _, .map entries =>
      if keys.isEmpty then .ok (.map entries)
      else (atomizeKeys style keys (.map entries)).map .map
  | _, value => .ok value

/-- The entries of the declared keys under their own names. An entry under the
own name wins over one under the name on the wire. -/
def atomizeKeys
    (style : KeyStyle) : List Key → Value → Attempt Entries
  | [], _ => .ok []
  | .mk _ name _ type inline :: rest, data => do
      let own ← data.entry? name
      let found ←
        match own with
        | some value => .ok (some value)
        | none => data.entry? (style.external name)
      match found with
      | some value => do
          let value ← if inline then type.atomizeInline style value else .ok value
          let others ← atomizeKeys style rest data
          .ok ((name, value) :: others)
      | none => atomizeKeys style rest data

end

mutual

/-- Validate a value against a schema. -/
def Schema.validate : Schema → Value → Attempt Outcome
  | .primitive _ chain, value => checkChain chain value
  | .list chain member, value => do
      match ← checkChain chain value with
      | .error failure => .ok (.error failure)
      | .ok value =>
          match value.items? with
          | none => .error .wrongKind
          | some items => do
              let parts ← validateItems member.validate 0 items
              .ok (parts.outcome .list)
  | .map chain keys atomize style, value => do
      match ← checkChain chain value with
      | .error failure => .ok (.error failure)
      | .ok value => do
          let data ← if atomize then (atomizeKeys style keys value).map .map else .ok value
          let parts ← validateKeys keys data
          .ok (parts.outcome .map)
  | .union left right options, value => do
      match ← left.validate value with
      | .ok accepted => .ok (.ok accepted)
      | .error failure =>
          if left.isPrimitive && failure.isPastTypeCheck then .ok (.error failure)
          else do
            match ← right.validate value with
            | .ok accepted => .ok (.ok accepted)
            | .error other => .ok (.error (.either [] failure other options))
  | .cast input output caster options, value => do
      match ← input.validate value with
      | .error failure => .ok (.error (.cast failure))
      | .ok accepted => do
          output.validate (← caster.run input.tag output.tag accepted options.entries)
  | .custom type, value => type.now.validate value

/-- Validate the entries of keys. An absent entry is a failure if it is
required and nothing otherwise. -/
def validateKeys : List Key → Value → Attempt (Parts (Value × Value))
  | [], _ => .ok .none
  | .mk _ name presence type _ :: rest, data => do
      match ← data.entry? name with
      | some value => do
          let outcome ← type.validate value
          let others ← validateKeys rest data
          .ok (.cons ((outcome.nest [name]).map fun valid => (name, valid)) others)
      | none => do
          let others ← validateKeys rest data
          match presence with
          | .required => .ok (.cons (.error (.missing [name])) others)
          | .optional => .ok others

end

end DataContract
