import DataContract.Value.Display

/-!
# Faults

A value that does not satisfy a contract is no fault: it is an answer. Faults
are what stops an operation without an answer. Mistakes in a definition have a
cause and a message; the other faults are told apart by their kind, and two of
them have a message too.
-/

namespace DataContract

/-- What is wrong with a definition. -/
inductive DefinitionFault
  | unknownPrimitive (tag : Value)
  | unknownPredicate (name : Value)
  | unusablePredicate (name : Value)
  | unknownType (name : Value)
  | malformedSpec (spec : Value)
  | incompleteSpec
      (tag : String)
      (spec : Value)
  | keysNotMapped (spec : Value)
  | duplicateKey (name : Value)
  | tooFewAlternatives (specs : Value)
  | malformedPredicate (item : Value)
  | fixedConstraints (type : String)
  | noConversion (source target : Value)
  | noDefaultCaster (source target : Value)
  | unknownTimeUnit (unit : Value)
  | unusableCaster (caster : Value)
  | unusableRuleBody (body : Value)
  | unusableRuleGuard
      (rule : String)
      (guard : Value)
  | unsupportedRuleResult
      (rule : String)
      (result : Value)
  | unsupportedEntry
      (location : String)
      (entry : Value)
  | mapEntryNotMapped (location : String)
  | unionEntryTooShort (location : String)
  | castEntryIncomplete (location : String)
  | entryWithoutType (location : String)
  | malformedEntryPredicate
      (location : String)
      (item : Value)
  | unconstrainableEntry
      (location : String)
      (spec : Value)
  | schemaFileMissing (location : String)
  | schemaFileUnreadable (location : String)
  | schemaFileNotMapped (location : String)
  | invalidSettings
  deriving DecidableEq, Inhabited

namespace DefinitionFault

/-- The message of a definition fault. -/
def message : DefinitionFault → String
  | .unknownPrimitive tag => "Unknown primitive type: " ++ tag.display
  | .unknownPredicate name => "Unknown predicate: " ++ name.display
  | .unusablePredicate name =>
      "Predicate registration needs a name and a callable, got " ++ name.display
  | .unknownType name => "Unknown type: " ++ name.display
  | .malformedSpec spec => "Malformed type spec: " ++ spec.display
  | .incompleteSpec tag spec =>
      "Incomplete " ++ (Value.text tag).display ++ " spec: " ++ spec.display
  | .keysNotMapped spec => "Map spec must be a mapping of keys, got " ++ spec.display
  | .duplicateKey name => "Duplicate key " ++ name.display ++ " in map spec"
  | .tooFewAlternatives specs =>
      "A union needs at least two alternatives, got " ++ specs.display
  | .malformedPredicate item => "Malformed predicate: " ++ item.display
  | .fixedConstraints type => "Type " ++ type ++ " does not accept extra predicates"
  | .noConversion source target =>
      "No caster from " ++ source.display ++ " to " ++ target.display
  | .noDefaultCaster source target =>
      "No caster from " ++ source.display ++ " to " ++ target.display ++
        "; pass a custom caster"
  | .unknownTimeUnit unit =>
      "Unknown unix time unit " ++ unit.display ++
        "; expected one of ['microsecond', 'millisecond', 'second']"
  | .unusableCaster caster =>
      "Caster must be callable or define cast(), got " ++ caster.display
  | .unusableRuleBody body => "Rule body must be callable, got " ++ body.display
  | .unusableRuleGuard rule guard =>
      "Rule " ++ (Value.text rule).display ++ " guard must be a mapping or a callable, got " ++
        guard.display
  | .unsupportedRuleResult rule result =>
      "Rule " ++ (Value.text rule).display ++ " returned an unsupported value: " ++
        result.display
  | .unsupportedEntry location entry =>
      "Unsupported type entry at " ++ location ++ ": " ++ entry.display
  | .mapEntryNotMapped location => "'map' entry at " ++ location ++ " must be a mapping"
  | .unionEntryTooShort location =>
      "'union' entry at " ++ location ++ " needs a list of two or more types"
  | .castEntryIncomplete location =>
      "'cast' entry at " ++ location ++ " needs 'from' and 'to'"
  | .entryWithoutType location =>
      "Type entry at " ++ location ++ " has predicates but no type"
  | .malformedEntryPredicate location item =>
      "Malformed predicate at " ++ location ++ ": " ++ item.display
  | .unconstrainableEntry location spec =>
      "Cannot apply predicates to the type entry at " ++ location ++ ": " ++ spec.display
  | .schemaFileMissing location => "Schema file not found: " ++ location
  | .schemaFileUnreadable _ => "Schema file is not valid YAML"
  | .schemaFileNotMapped location => "Schema file must be a mapping: " ++ location
  | .invalidSettings => "Invalid contract settings in environment"

/-- The values that the message of a definition fault displays. -/
def values : DefinitionFault → List Value
  | .unknownPrimitive value | .unknownPredicate value | .unusablePredicate value
  | .unknownType value | .malformedSpec value | .incompleteSpec _ value | .keysNotMapped value
  | .duplicateKey value | .tooFewAlternatives value | .malformedPredicate value
  | .unknownTimeUnit value | .unusableCaster value | .unusableRuleBody value
  | .unusableRuleGuard _ value | .unsupportedRuleResult _ value | .unsupportedEntry _ value
  | .malformedEntryPredicate _ value | .unconstrainableEntry _ value => [value]
  | .noConversion source target | .noDefaultCaster source target => [source, target]
  | .fixedConstraints _ | .mapEntryNotMapped _ | .unionEntryTooShort _
  | .castEntryIncomplete _ | .entryWithoutType _ | .schemaFileMissing _
  | .schemaFileUnreadable _ | .schemaFileNotMapped _ | .invalidSettings => []

end DefinitionFault

/-- Why an operation stopped without an answer. -/
inductive Fault
  /-- A mistake in a definition. -/
  | definition (cause : DefinitionFault)
  /-- A value of the right kind that has no meaning for the operation. -/
  | badContent
  /-- A text that names no truth value. -/
  | noTruthValue (value : Value)
  /-- A value of a kind that the operation is not made for. -/
  | wrongKind
  /-- Something that is no validation failure was to be reported. -/
  | notRenderable (value : Value)
  /-- A number beyond the range of its target. -/
  | overflow
  /-- A map without an entry for the key. -/
  | missingKey
  /-- An index beyond the end of a sequence. -/
  | missingIndex
  /-- An operation that the value's kind does not have. -/
  | missingOperation
  /-- A user-supplied function that gave up. -/
  | functionFailed
  /-- A division by zero. -/
  | divisionByZero
  /-- A decimal operation without a defined result. -/
  | undefinedDecimal
  /-- A decimal operation with a result beyond the greatest power of ten. -/
  | decimalOverflow
  /-- A field that does not have the declared type. -/
  | invalidField
  /-- Bytes that are no text. -/
  | undecodable
  /-- A text that is no pattern. -/
  | malformedPattern
  /-- A moment that the clock of the system cannot represent. -/
  | clockRange
  /-- A type definition that refers to itself. -/
  | endlessDefinition
  deriving DecidableEq, Inhabited

namespace Fault

/-- The message of the faults that have one. -/
def message? : Fault → Option String
  | .definition cause => some cause.message
  | .noTruthValue value => some ("Cannot cast " ++ value.display ++ " to boolean")
  | .notRenderable value => some ("Cannot render " ++ value.display)
  | _ => none

/-- Whether the fault is a mistake in a definition. -/
def isDefinition : Fault → Bool
  | .definition _ => true
  | _ => false

end Fault

/-- The answer of an operation, or the fault that stopped it. -/
abbrev Attempt := Except Fault

/-- Stop with a mistake in a definition. It cannot be told if its message would
display something that has no text. -/
def refuse {α : Type} (cause : DefinitionFault) : Attempt α :=
  .error (if cause.values.all Value.isWritable then .definition cause else .badContent)

/-- The plain text of a value that has one. -/
def Value.write (value : Value) : Attempt String :=
  if value.hasPlain then .ok value.plain else .error .badContent

/-- Take `fallback` as the answer where the operation is not made for the kind
of its arguments. -/
def orIfWrongKind {α : Type} (attempt : Attempt α) (fallback : α) : Attempt α :=
  match attempt with
  | .error .wrongKind => .ok fallback
  | other => other

end DataContract
