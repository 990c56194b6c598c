import DataContract.Proofs.Schema.Constraining
import DataContract.Schema.Validate

/-!
# Where keys stand

Every key of a schema tells the names of the keys around it and whether its value was given in
place, but only maps that rename their entries read this. Taken out of all other maps, it
leaves a schema that validates every value as before, has the same tag and is constrained in
the same way. Two schemas are alike if they differ in nothing else.
-/

namespace DataContract

mutual

/-- A schema in which the keys of maps that rename nothing do not tell where they stand. -/
def Schema.unplaced : Schema → Schema
  | .primitive tag chain => .primitive tag chain
  | .list chain member => .list chain member.unplaced
  | .map chain keys true style => .map chain keys true style
  | .map chain keys false style => .map chain (unplacedKeys keys) false style
  | .union left right options => .union left.unplaced right.unplaced options
  | .cast input output caster options => .cast input.unplaced output.unplaced caster options
  | .custom type => .custom type

/-- Keys that do not tell where they stand. -/
def unplacedKeys : List Key → List Key
  | [] => []
  | .mk _ name presence type _ :: rest =>
      .mk [] name presence type.unplaced false :: unplacedKeys rest

end

namespace Schema

@[simp] theorem tag_unplaced (schema : Schema) : schema.unplaced.tag = schema.tag := by
  induction schema with
  | primitive tag chain => rfl
  | list chain member _ => rfl
  | map chain keys atomize style _ => cases atomize <;> rfl
  | union left right options _ _ => rfl
  | cast input output caster options _ outputHypothesis => exact outputHypothesis
  | custom type => rfl

@[simp] theorem isPrimitive_unplaced (schema : Schema) :
    schema.unplaced.isPrimitive = schema.isPrimitive := by
  cases schema with
  | map chain keys atomize style => cases atomize <;> rfl
  | _ => rfl

/-- Keys are validated without a look at where they stand. -/
theorem validateKeys_unplaced
    {keys : List Key}
    (same : ∀ key ∈ keys, key.type.unplaced.validate = key.type.validate)
    (data : Value) :
    validateKeys (unplacedKeys keys) data = validateKeys keys data := by
  induction keys with
  | nil => rfl
  | cons key rest hypothesis =>
      obtain ⟨around, name, presence, type, inline⟩ := key
      rw [List.forall_mem_cons] at same
      obtain ⟨first, others⟩ := same
      rw [Key.type_mk] at first
      simp only [unplacedKeys, validateKeys, first, hypothesis others]

/-- Validation does not depend on where the keys of maps that rename nothing stand. -/
@[simp] theorem validate_unplaced (schema : Schema) :
    schema.unplaced.validate = schema.validate := by
  induction schema with
  | primitive tag chain => rfl
  | list chain member hypothesis =>
      funext value
      simp only [unplaced, validate, hypothesis]
  | map chain keys atomize style hypothesis =>
      cases atomize with
      | true => rfl
      | false =>
          funext value
          simp only [unplaced, validate, Bool.false_eq_true, if_false,
            validateKeys_unplaced hypothesis]
  | union left right options leftHypothesis rightHypothesis =>
      funext value
      simp only [unplaced, validate, leftHypothesis, rightHypothesis, isPrimitive_unplaced]
  | cast input output caster options inputHypothesis outputHypothesis =>
      funext value
      simp only [unplaced, validate, inputHypothesis, outputHypothesis, tag_unplaced]
  | custom type => rfl

/-- Constraining does not depend on where keys stand. -/
theorem constrain_unplaced
    (schema : Schema)
    (extra : List Predicate) :
    schema.unplaced.constrain extra = (schema.constrain extra).map unplaced := by
  induction schema with
  | primitive tag chain => rfl
  | list chain member _ => rfl
  | map chain keys atomize style _ => cases atomize <;> rfl
  | union left right options leftHypothesis rightHypothesis =>
      simp only [unplaced, constrain, leftHypothesis, rightHypothesis]
      cases left.constrain extra with
      | error fault => rfl
      | ok first =>
          cases right.constrain extra with
          | error fault => rfl
          | ok second => rfl
  | cast input output caster options _ outputHypothesis =>
      simp only [unplaced, constrain, outputHypothesis]
      cases output.constrain extra with
      | error fault => rfl
      | ok second => rfl
  | custom type =>
      simp only [unplaced, constrain]
      split
      · rfl
      · cases type.constrain extra <;> rfl

/-- Whether two schemas differ at most in where the keys of maps that rename nothing stand. -/
def Alike (schema other : Schema) : Prop :=
  schema.unplaced = other.unplaced

namespace Alike

variable {schema other third : Schema}

theorem trans
    (first : schema.Alike other)
    (second : other.Alike third) :
    schema.Alike third :=
  Eq.trans first second

/-- Alike schemas validate alike. -/
theorem validate_eq (alike : schema.Alike other) : schema.validate = other.validate := by
  rw [← validate_unplaced schema, alike, validate_unplaced]

theorem tag_eq (alike : schema.Alike other) : schema.tag = other.tag := by
  rw [← tag_unplaced schema, alike, tag_unplaced]

/-- Alike schemas take the same further predicates and are alike with them. -/
theorem constrain
    (alike : schema.Alike other)
    (extra : List Predicate) :
    Attempt.Agree Alike (schema.constrain extra) (other.constrain extra) := by
  refine .of_map_eq ?_
  rw [← constrain_unplaced, alike, constrain_unplaced]

end Alike

end Schema
end DataContract
