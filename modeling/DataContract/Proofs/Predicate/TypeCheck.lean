import DataContract.Predicate.Registry
import DataContract.Failure
import DataContract.Proofs.Attempt

/-!
# Type checks

The first predicate of every compiled node is the one under the name of the type
check, bound to a tag. In the registry that everything starts from it tells
whether the tag admits a value. A registry may put another function under the
name; what lists and maps rely on is only that nothing but a sequence passes as a
list and nothing but a map as a map.
-/

namespace DataContract

theorem Tag.ofName?_name (tag : Tag) : Tag.ofName? tag.name = some tag := by
  cases tag <;> rfl

theorem Tag.name_of_ofName?
    {name : String}
    {tag : Tag}
    (found : Tag.ofName? name = some tag) :
    tag.name = name := by
  simpa using List.find?_some found

namespace Predicate

/-- The built-in type check of a tag. -/
def typeCheck (tag : Tag) : Predicate :=
  ⟨Failure.typePredicate, [.text tag.name], binary isType⟩

/-- The built-in type check of a tag holds of the values that the tag admits. -/
@[simp] theorem holds_typeCheck
    (tag : Tag)
    (value : Value) :
    (typeCheck tag).holds value = .ok (tag.admits value) := by
  have named : isType (.text tag.name) value = .ok (tag.admits value) := by
    simp [isType, Value.isKey, Tag.ofName?_name]
  simp [holds, typeCheck, binary, named, Except.map, Value.truthy]

/-- A type check of a tag that gives every value one answer. -/
def blindCheck
    (answer : Bool)
    (tag : Tag) : Predicate :=
  ⟨Failure.typePredicate, [.text tag.name], binary fun _ _ => .ok answer⟩

@[simp] theorem holds_blindCheck
    (answer : Bool)
    (tag : Tag)
    (value : Value) :
    (blindCheck answer tag).holds value = .ok answer := rfl

/-- The check that a value is not empty. -/
def filledCheck : Predicate :=
  ⟨"filled?", [], unary fun value => .ok (isFilled value)⟩

/-- Any value can be checked for being empty. -/
@[simp] theorem holds_filledCheck (value : Value) :
    filledCheck.holds value = .ok (isFilled value) := rfl

/-- The check that a value is an even number. -/
def evenCheck : Predicate :=
  ⟨"even?", [], unary fun value => .ok (hasParity 0 value)⟩

/-- Any value can be checked for being an even number. -/
@[simp] theorem holds_evenCheck (value : Value) :
    evenCheck.holds value = .ok (hasParity 0 value) := rfl

/-- The check that a value is greater than a number. -/
def aboveCheck (bound : Int) : Predicate :=
  ⟨"gt?", [.int bound], binary (compares .greater)⟩

/-- The check that a value has a size. -/
def sizeCheck (size : Int) : Predicate :=
  ⟨"size?", [.int size], binary fun expected => hasSize fun size => size.equals expected⟩

end Predicate

namespace PredicateRegistry

/-- The predicate that a registry checks a tag with. -/
def typeCheck
    (registry : PredicateRegistry)
    (tag : Tag) : Attempt Predicate :=
  registry.predicate (.text Failure.typePredicate) [.text tag.name]

/-- Whether the type check of a registry accepts as lists only values that are
sequences, and as maps only maps. -/
def ChecksKinds (registry : PredicateRegistry) : Prop :=
  ∀ tag ∈ [Tag.list, Tag.map], ∀ predicate value,
    registry.typeCheck tag = .ok predicate → predicate.holds value = .ok true →
      tag.admits value = true

@[simp] theorem typeCheck_standard (tag : Tag) :
    standard.typeCheck tag = .ok (Predicate.typeCheck tag) := rfl

theorem checksKinds_standard : standard.ChecksKinds := by
  intro tag _ predicate value checked holds
  rw [typeCheck_standard, Except.ok.injEq] at checked
  rw [← checked, Predicate.holds_typeCheck] at holds
  exact Except.ok.inj holds

/-- What is registered under a name is found under it. -/
theorem lookup_put_self
    (pairs : List (String × α))
    (name : String)
    (item : α) :
    (put pairs name item).lookup name = some item := by
  induction pairs with
  | nil => simp [put]
  | cons pair rest hypothesis =>
      obtain ⟨first, found⟩ := pair
      by_cases same : first = name
      · simp [put, same]
      · have unequal : (name == first) = false := by simpa using Ne.symm same
        simp [put, same, List.lookup_cons, unequal, hypothesis]

/-- What a registry finds under other names is not touched by a registration. -/
theorem lookup_put_of_ne
    {pairs : List (String × α)}
    {name other : String}
    {item : α}
    (differs : other ≠ name) :
    (put pairs name item).lookup other = pairs.lookup other := by
  have unequal : (other == name) = false := by simpa using differs
  induction pairs with
  | nil => simp [put, differs]
  | cons pair rest hypothesis =>
      obtain ⟨first, found⟩ := pair
      by_cases same : first = name
      · simp [put, same, List.lookup_cons, unequal]
      · simp [put, same, List.lookup_cons, hypothesis]

/-- Registering any other predicate leaves the type check as it is. -/
theorem checksKinds_register
    {registry extended : PredicateRegistry}
    {name : String}
    {function : Option PredicateFunction}
    (checks : registry.ChecksKinds)
    (differs : Failure.typePredicate ≠ name)
    (registered : registry.register name function = .ok extended) :
    extended.ChecksKinds := by
  have kept (tag : Tag) : extended.typeCheck tag = registry.typeCheck tag := by
    cases function with
    | none => simp [register] at registered
    | some function =>
        by_cases empty : name = ""
        · simp [register, empty] at registered
        · have made : extended = ⟨put registry.functions name function⟩ := by
            have given : register registry name (some function) =
                .ok ⟨put registry.functions name function⟩ := by
              simp [register, empty]
            exact (Except.ok.inj (given.symm.trans registered)).symm
          simp [made, typeCheck, predicate, get, find?, lookup_put_of_ne differs]
  intro tag kind predicate value checked holds
  exact checks tag kind predicate value (kept tag ▸ checked) holds

end PredicateRegistry
end DataContract
