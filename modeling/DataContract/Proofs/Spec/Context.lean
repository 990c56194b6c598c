import DataContract.Proofs.Spec.Position

/-!
# Specifications with a gap

A specification can have a gap wherever it has a specification inside it. What fills the gap is
compiled on its own, and its schema stands in the schema of the whole at the place that belongs
to the gap. A filler that is compiled to one schema everywhere can take the place of any other,
except that a cast that leaves the conversion to the default caster asks for the tags of its
sides.
-/

namespace DataContract

namespace Schema

/-- A step from a schema to one of its parts. -/
inductive Step
  | member
  | key (index : Nat)
  | left
  | right
  | input
  | output
  deriving DecidableEq, Repr

/-- The part of a schema that a step leads to. -/
def part? : Schema → Step → Option Schema
  | .list _ member, .member => some member
  | .map _ keys _ _, .key index => keys[index]?.map Key.type
  | .union left _ _, .left => some left
  | .union _ right _, .right => some right
  | .cast input _ _ _, .input => some input
  | .cast _ output _ _, .output => some output
  | _, _ => none

/-- The part of a schema that several steps lead to. -/
def at? : Schema → List Step → Option Schema
  | schema, [] => some schema
  | schema, step :: rest => (schema.part? step).bind fun part => part.at? rest

@[simp] theorem at?_nil (schema : Schema) : schema.at? [] = some schema := rfl

@[simp] theorem at?_cons
    (schema : Schema)
    (step : Step)
    (rest : List Step) :
    schema.at? (step :: rest) = (schema.part? step).bind fun part => part.at? rest := rfl

theorem at?_append
    (schema : Schema)
    (steps rest : List Step) :
    schema.at? (steps ++ rest) = (schema.at? steps).bind fun part => part.at? rest := by
  induction steps generalizing schema with
  | nil => rfl
  | cons step others hypothesis =>
      rw [List.cons_append, at?_cons, at?_cons]
      cases schema.part? step with
      | none => rfl
      | some part => exact hypothesis part

end Schema

/-- A form of a specification with a gap in the place of one specification inside it. -/
inductive SpecFrame
  | definition
      (name : String)
      (options : CompileOptions)
  | alternative (before after : List Spec)
  | entry
      (before : List (Value × Spec))
      (name : Value)
      (after : List (Value × Spec))
  | key
      (before : List (Value × Spec))
      (name : Value)
      (after : List (Value × Spec))
      (rest : List Spec)
  | member (rest : List Spec)
  | left
      (other : Spec)
      (rest : List Spec)
  | right
      (other : Spec)
      (rest : List Spec)
  | input
      (other : Spec)
      (rest : List Spec)
  | output
      (other : Spec)
      (rest : List Spec)

namespace SpecFrame

/-- The form with its gap filled. -/
def fill (filler : Spec) : SpecFrame → Spec
  | .definition name options => .definition name filler options
  | .alternative before after => .list (before ++ filler :: after)
  | .entry before name after => .map (before ++ (name, filler) :: after)
  | .key before name after rest =>
      .tuple (.text "map" :: .map (before ++ (name, filler) :: after) :: rest)
  | .member rest => .tuple (.text "list" :: filler :: rest)
  | .left other rest => .tuple (.text "union" :: filler :: other :: rest)
  | .right other rest => .tuple (.text "union" :: other :: filler :: rest)
  | .input other rest => .tuple (.text "cast" :: filler :: other :: rest)
  | .output other rest => .tuple (.text "cast" :: other :: filler :: rest)

/-- The options in force at the gap. -/
def scope (scope : Scope) : SpecFrame → Scope
  | .definition _ options => scope.enter options
  | _ => scope

/-- The names of the keys around what fills the gap: a map of keys continues the path of the key
that it is given for. -/
def root
    (root : Path)
    (filler : Spec) : SpecFrame → Path
  | .entry _ name _ | .key _ name _ _ =>
      if filler.isKeyed then root ++ [(Compiler.declaredKey name).2] else []
  | _ => []

/-- The steps to an alternative: alternatives nest to the right, and the last one stands on the
right itself. -/
def alternativeSteps (before after : List Spec) : List Schema.Step :=
  List.replicate before.length .right ++ if after.isEmpty then [] else [.left]

/-- The steps from the schema of the whole to the schema of what fills the gap. -/
def steps : SpecFrame → List Schema.Step
  | .definition .. => []
  | .alternative before after => alternativeSteps before after
  | .entry before .. => [.key before.length]
  | .key before .. => [.key before.length]
  | .member _ => [.member]
  | .left .. => [.left]
  | .right .. => [.right]
  | .input .. => [.input]
  | .output .. => [.output]

/-- Whether the tag of the whole is that of what fills the gap. -/
def passesTag : SpecFrame → Bool
  | .definition .. => true
  | .output .. => true
  | _ => false

/-- Whether a cast around the gap leaves the conversion to the default caster, which depends on
the tags of both sides. -/
def readsTag : SpecFrame → Bool
  | .input _ rest | .output _ rest =>
      match (Compiler.optionalMap rest 0).toOptionEntries with
      | .ok entries => Compiler.usesDefault (Compiler.takeCaster entries).1
      | .error _ => false
  | _ => false

/-- Whether a filled form is a map of keys is not up to what fills it. -/
theorem isKeyed_fill
    (frame : SpecFrame)
    (filler other : Spec) :
    (frame.fill filler).isKeyed = (frame.fill other).isKeyed := by
  cases frame <;> simp [fill, Spec.isKeyed]

/-- The names around what fills a gap depend on it only as far as it is a map of keys. -/
theorem root_eq_of_isKeyed
    {frame : SpecFrame}
    {filler other : Spec}
    (keyed : filler.isKeyed = other.isKeyed)
    (root : Path) :
    frame.root root filler = frame.root root other := by
  cases frame <;> simp [SpecFrame.root, keyed]

/-- Forms inside each other, the outermost first, with the innermost gap filled. -/
def fillAll
    (frames : List SpecFrame)
    (filler : Spec) : Spec :=
  frames.foldr (fun frame inner => frame.fill inner) filler

/-- The steps to the innermost gap. -/
def allSteps (frames : List SpecFrame) : List Schema.Step :=
  frames.flatMap steps

/-- Whether the tag of the whole is that of what fills the innermost gap. -/
def allPassTag (frames : List SpecFrame) : Bool :=
  frames.all passesTag

/-- Whether some cast looks at the tag of what fills the innermost gap. -/
def someReadsTag : List SpecFrame → Bool
  | [] => false
  | frame :: rest => (frame.readsTag && allPassTag rest) || someReadsTag rest

end SpecFrame

namespace Compiler

section Parts

variable
  {compiler : Compiler}
  {types : List (String × Spec)}
  {scope : Scope}
  {root : Path}

/-- The value of a key among others is compiled on its own, and any other value that is compiled
can be put in its place. -/
theorem exists_type_of_compileKeys
    {before after : List (Value × Spec)}
    {key : Value}
    {spec : Spec}
    {seen : List Value}
    {keys : List Key}
    (made : compileKeys compiler types scope root seen (before ++ (key, spec) :: after) =
      .ok keys) :
    ∃ type, compileSpec compiler types scope
        (if spec.isKeyed then root ++ [(declaredKey key).2] else []) spec = .ok type ∧
      keys[before.length]?.map Key.type = some type ∧
      ∀ other otherType, compileSpec compiler types scope
          (if other.isKeyed then root ++ [(declaredKey key).2] else []) other = .ok otherType →
        ∃ others, compileKeys compiler types scope root seen
            (before ++ (key, other) :: after) = .ok others ∧
          others[before.length]?.map Key.type = some otherType := by
  induction before generalizing seen keys with
  | nil =>
      obtain ⟨type, inline, later, fresh, entry, remaining, rfl⟩ :=
        compileKeys_cons_eq_ok.mp made
      rw [compileEntry_eq] at entry
      obtain ⟨_, compiled, same⟩ := Attempt.bind_eq_ok.mp entry
      cases same
      refine ⟨type, compiled, rfl, fun other otherType otherCompiled => ?_⟩
      refine ⟨_, compileKeys_cons_eq_ok.mpr
        ⟨otherType, other.isKeyed, later, fresh, ?_, remaining, rfl⟩, rfl⟩
      rw [compileEntry_eq, otherCompiled]
      rfl
  | cons entry rest hypothesis =>
      obtain ⟨first, inline, later, fresh, firstMade, remaining, rfl⟩ :=
        compileKeys_cons_eq_ok.mp made
      obtain ⟨type, compiled, found, exchange⟩ := hypothesis remaining
      refine ⟨type, compiled, by simpa using found, fun other otherType otherCompiled => ?_⟩
      obtain ⟨others, otherMade, otherFound⟩ := exchange other otherType otherCompiled
      exact ⟨_, compileKeys_cons_eq_ok.mpr
        ⟨first, inline, others, fresh, firstMade, otherMade, rfl⟩, by simpa using otherFound⟩

/-- The same for a map. -/
theorem exists_type_of_compileMap
    {before after : List (Value × Spec)}
    {key : Value}
    {spec list : Spec}
    {schema : Schema}
    (made : compileMap compiler types scope root (before ++ (key, spec) :: after) list =
      .ok schema) :
    ∃ type, compileSpec compiler types scope
        (if spec.isKeyed then root ++ [(declaredKey key).2] else []) spec = .ok type ∧
      schema.part? (.key before.length) = some type ∧
      ∀ other otherType, compileSpec compiler types scope
          (if other.isKeyed then root ++ [(declaredKey key).2] else []) other = .ok otherType →
        ∃ others, compileMap compiler types scope root (before ++ (key, other) :: after) list =
            .ok others ∧
          others.part? (.key before.length) = some otherType ∧ others.tag = schema.tag := by
  obtain ⟨keys, chain, keysMade, checked, rfl⟩ := compileMap_eq_ok.mp made
  obtain ⟨type, compiled, found, exchange⟩ := exists_type_of_compileKeys keysMade
  refine ⟨type, compiled, found, fun other otherType otherCompiled => ?_⟩
  obtain ⟨others, otherMade, otherFound⟩ := exchange other otherType otherCompiled
  exact ⟨_, compileMap_eq_ok.mpr ⟨others, chain, otherMade, checked, rfl⟩, otherFound, rfl⟩

/-- An alternative is compiled on its own, and any other that is compiled can be put in its
place. -/
theorem exists_type_of_compileAlternatives
    {before after : List Spec}
    {spec : Spec}
    {schema : Schema}
    (made : compileAlternatives compiler types scope (before ++ spec :: after) = .ok schema) :
    ∃ type, compileSpec compiler types scope [] spec = .ok type ∧
      schema.at? (SpecFrame.alternativeSteps before after) = some type ∧
      ∀ other otherType, compileSpec compiler types scope [] other = .ok otherType →
        ∃ others, compileAlternatives compiler types scope (before ++ other :: after) =
            .ok others ∧
          others.at? (SpecFrame.alternativeSteps before after) = some otherType := by
  induction before generalizing schema with
  | nil =>
      cases after with
      | nil =>
          rw [List.nil_append, compileAlternatives] at made
          refine ⟨schema, made, rfl, fun other otherType otherMade => ?_⟩
          exact ⟨otherType, by rwa [List.nil_append, compileAlternatives], rfl⟩
      | cons second rest =>
          rw [List.nil_append, compileAlternatives] at made
          obtain ⟨left, leftMade, made⟩ := Attempt.bind_eq_ok.mp made
          obtain ⟨right, rightMade, same⟩ := Attempt.bind_eq_ok.mp made
          cases same
          refine ⟨left, leftMade, rfl, fun other otherType otherMade => ?_⟩
          refine ⟨.union otherType right [], ?_, rfl⟩
          rw [List.nil_append, compileAlternatives, otherMade, rightMade]
          rfl
  | cons first rest hypothesis =>
      have split (spec : Spec) :
          compileAlternatives compiler types scope (first :: rest ++ spec :: after) = (do
            let left ← compileSpec compiler types scope [] first
            let right ← compileAlternatives compiler types scope (rest ++ spec :: after)
            .ok (.union left right [])) := by
        cases rest with
        | nil => rw [List.cons_append, List.nil_append, compileAlternatives]
        | cons second others => rw [List.cons_append, List.cons_append, compileAlternatives]
      rw [split] at made
      obtain ⟨left, leftMade, made⟩ := Attempt.bind_eq_ok.mp made
      obtain ⟨right, rightMade, same⟩ := Attempt.bind_eq_ok.mp made
      cases same
      obtain ⟨type, compiled, found, exchange⟩ := hypothesis rightMade
      refine ⟨type, compiled, found, fun other otherType otherMade => ?_⟩
      obtain ⟨others, otherRight, otherFound⟩ := exchange other otherType otherMade
      refine ⟨.union left others [], ?_, otherFound⟩
      rw [split, leftMade, otherRight]
      rfl

/-- A list of alternatives is compiled if there are several and each of them is. -/
theorem compileSpec_listing_eq_ok
    {specs : List Spec}
    {schema : Schema} :
    compileSpec compiler types scope root (.list specs) = .ok schema ↔
      2 ≤ specs.length ∧ compileAlternatives compiler types scope specs = .ok schema := by
  rw [compileSpec]
  split
  · rename_i few
    simp [Nat.not_le.mpr few]
  · rename_i several
    simp [Nat.not_lt.mp several]

/-- Several alternatives are a union without a name. -/
theorem tag_of_compileAlternatives
    {specs : List Spec}
    {schema : Schema}
    (several : 2 ≤ specs.length)
    (made : compileAlternatives compiler types scope specs = .ok schema) :
    schema.tag = .text "union" := by
  cases specs with
  | nil => simp at several
  | cons first rest =>
      cases rest with
      | nil => simp at several
      | cons second rest =>
          rw [compileAlternatives] at made
          obtain ⟨left, -, made⟩ := Attempt.bind_eq_ok.mp made
          obtain ⟨right, -, same⟩ := Attempt.bind_eq_ok.mp made
          cases same
          rfl

/-- A cast can be made between other schemas, with the same tags if the default caster looks at
them. -/
theorem exists_castOf_of_tags
    {entries : List (Value × Spec)}
    {input output first second schema : Schema}
    (made : castOf input output entries = .ok schema)
    (tags : usesDefault (takeCaster entries).1 = true →
      first.tag = input.tag ∧ second.tag = output.tag) :
    ∃ caster options, schema = .cast input output caster options ∧
      castOf first second entries = .ok (.cast first second caster options) := by
  obtain ⟨convertible, caster, options, called, named, rfl⟩ := castOf_eq_ok.mp made
  refine ⟨caster, options, rfl, castOf_eq_ok.mpr ⟨?_, caster, options, called, named, rfl⟩⟩
  intro default
  rw [(tags default).1, (tags default).2]
  exact convertible default

/-- What fills a form is compiled on its own and stands in the schema of the whole where the form
puts it. Any other specification that is compiled can fill the form instead, with the same tag
if a cast looks at it. -/
theorem exists_inner_of_fill
    {frame : SpecFrame}
    {filler : Spec}
    {whole : Schema}
    (made : compileSpec compiler types scope root (frame.fill filler) = .ok whole) :
    ∃ inner, compileSpec compiler types (frame.scope scope) (frame.root root filler) filler =
        .ok inner ∧
      whole.at? frame.steps = some inner ∧
      ∀ other otherInner,
        compileSpec compiler types (frame.scope scope) (frame.root root other) other =
          .ok otherInner →
        (frame.readsTag = true → otherInner.tag = inner.tag) →
          ∃ others, compileSpec compiler types scope root (frame.fill other) = .ok others ∧
            others.at? frame.steps = some otherInner ∧
            ((frame.passesTag = true → otherInner.tag = inner.tag) →
              others.tag = whole.tag) := by
  cases frame with
  | definition name options =>
      rw [SpecFrame.fill, compileSpec_definition] at made
      refine ⟨whole, made, rfl, fun other otherInner otherMade _ => ?_⟩
      exact ⟨otherInner, by rwa [SpecFrame.fill, compileSpec_definition], rfl,
        fun same => same rfl⟩
  | alternative before after =>
      obtain ⟨several, compiled⟩ := compileSpec_listing_eq_ok.mp made
      obtain ⟨inner, innerMade, found, exchange⟩ := exists_type_of_compileAlternatives compiled
      refine ⟨inner, innerMade, found, fun other otherInner otherMade _ => ?_⟩
      obtain ⟨others, otherCompiled, otherFound⟩ := exchange other otherInner otherMade
      have many : 2 ≤ (before ++ other :: after).length := by simpa using several
      refine ⟨others, compileSpec_listing_eq_ok.mpr ⟨many, otherCompiled⟩, otherFound, fun _ => ?_⟩
      rw [tag_of_compileAlternatives several compiled,
        tag_of_compileAlternatives many otherCompiled]
  | entry before name after =>
      rw [SpecFrame.fill, compileSpec_keys] at made
      obtain ⟨inner, compiled, found, exchange⟩ := exists_type_of_compileMap made
      refine ⟨inner, compiled, by simp [SpecFrame.steps, found], ?_⟩
      intro other otherInner otherCompiled _
      obtain ⟨others, otherMade, otherFound, tag⟩ := exchange other otherInner otherCompiled
      exact ⟨others, by rwa [SpecFrame.fill, compileSpec_keys],
        by simp [SpecFrame.steps, otherFound], fun _ => tag⟩
  | key before name after rest =>
      rw [SpecFrame.fill, compileSpec_map] at made
      obtain ⟨inner, compiled, found, exchange⟩ := exists_type_of_compileMap made
      refine ⟨inner, compiled, by simp [SpecFrame.steps, found], ?_⟩
      intro other otherInner otherCompiled _
      obtain ⟨others, otherMade, otherFound, tag⟩ := exchange other otherInner otherCompiled
      exact ⟨others, by rwa [SpecFrame.fill, compileSpec_map],
        by simp [SpecFrame.steps, otherFound], fun _ => tag⟩
  | member rest =>
      obtain ⟨chain, inner, checked, compiled, rfl⟩ := compileSpec_list_eq_ok.mp made
      refine ⟨inner, compiled, rfl, fun other otherInner otherMade _ => ?_⟩
      exact ⟨_, compileSpec_list_eq_ok.mpr ⟨chain, otherInner, checked, otherMade, rfl⟩, rfl,
        fun _ => rfl⟩
  | left second rest =>
      obtain ⟨inner, right, entries, options, compiled, rightMade, read, named, rfl⟩ :=
        compileSpec_union_eq_ok.mp made
      refine ⟨inner, compiled, rfl, fun other otherInner otherMade _ => ?_⟩
      exact ⟨_, compileSpec_union_eq_ok.mpr
        ⟨otherInner, right, entries, options, otherMade, rightMade, read, named, rfl⟩, rfl,
        fun _ => rfl⟩
  | right first rest =>
      obtain ⟨left, inner, entries, options, leftMade, compiled, read, named, rfl⟩ :=
        compileSpec_union_eq_ok.mp made
      refine ⟨inner, compiled, rfl, fun other otherInner otherMade _ => ?_⟩
      exact ⟨_, compileSpec_union_eq_ok.mpr
        ⟨left, otherInner, entries, options, leftMade, otherMade, read, named, rfl⟩, rfl,
        fun _ => rfl⟩
  | input second rest =>
      obtain ⟨entries, inner, output, read, compiled, outputMade, cast⟩ :=
        compileSpec_cast_eq_ok.mp made
      refine ⟨inner, compiled, ?_, fun other otherInner otherMade same => ?_⟩
      · obtain ⟨-, caster, options, -, -, rfl⟩ := castOf_eq_ok.mp cast
        rfl
      · simp only [SpecFrame.readsTag, read] at same
        obtain ⟨caster, options, rfl, otherCast⟩ :=
          exists_castOf_of_tags cast fun default => ⟨same default, rfl⟩
        exact ⟨_, compileSpec_cast_eq_ok.mpr
          ⟨entries, otherInner, output, read, otherMade, outputMade, otherCast⟩, rfl,
          fun _ => rfl⟩
  | output first rest =>
      obtain ⟨entries, input, inner, read, inputMade, compiled, cast⟩ :=
        compileSpec_cast_eq_ok.mp made
      refine ⟨inner, compiled, ?_, fun other otherInner otherMade same => ?_⟩
      · obtain ⟨-, caster, options, -, -, rfl⟩ := castOf_eq_ok.mp cast
        rfl
      · simp only [SpecFrame.readsTag, read] at same
        obtain ⟨caster, options, rfl, otherCast⟩ :=
          exists_castOf_of_tags cast fun default => ⟨rfl, same default⟩
        exact ⟨_, compileSpec_cast_eq_ok.mpr
          ⟨entries, input, otherInner, read, inputMade, otherMade, otherCast⟩, rfl,
          fun passed => passed rfl⟩

/-- What fills the innermost gap is compiled on its own and stands in the schema of the whole at
the steps to the gap. A specification that is compiled to one schema everywhere can be there
instead, with the same tag if a cast looks at it. -/
theorem exists_part_of_fillAll
    {frames : List SpecFrame}
    {filler : Spec}
    {whole : Schema}
    (made : compileSpec compiler types scope root (SpecFrame.fillAll frames filler) =
      .ok whole) :
    ∃ part, whole.at? (SpecFrame.allSteps frames) = some part ∧
      (∃ inner place, compileSpec compiler types inner place filler = .ok part) ∧
      ∀ other type,
        (∀ inner place, compileSpec compiler types inner place other = .ok type) →
        (SpecFrame.someReadsTag frames = true → type.tag = part.tag) →
          ∀ otherRoot, frames = [] ∨ otherRoot = root →
            ∃ others, compileSpec compiler types scope otherRoot
                (SpecFrame.fillAll frames other) = .ok others ∧
              ((SpecFrame.allPassTag frames = true → type.tag = part.tag) →
                others.tag = whole.tag) := by
  induction frames generalizing scope root whole with
  | nil =>
      refine ⟨whole, rfl, ⟨scope, root, made⟩, fun other type fixed _ otherRoot _ => ?_⟩
      exact ⟨type, fixed scope otherRoot, fun same => same rfl⟩
  | cons frame rest hypothesis =>
      obtain ⟨inner, compiled, found, exchange⟩ := exists_inner_of_fill made
      obtain ⟨part, reached, own, others⟩ := hypothesis compiled
      refine ⟨part, ?_, own, fun other type fixed read otherRoot same => ?_⟩
      · rw [SpecFrame.allSteps, List.flatMap_cons, Schema.at?_append, found]
        exact reached
      · obtain rfl : otherRoot = root := same.resolve_left (List.cons_ne_nil _ _)
        have deeper : SpecFrame.someReadsTag rest = true → type.tag = part.tag :=
          fun reads => read (by simp [SpecFrame.someReadsTag, reads])
        have placed : rest = [] ∨
            frame.root otherRoot (SpecFrame.fillAll rest other) =
              frame.root otherRoot (SpecFrame.fillAll rest filler) := by
          cases rest with
          | nil => exact .inl rfl
          | cons next more =>
              have keyed := next.isKeyed_fill (SpecFrame.fillAll more other)
                (SpecFrame.fillAll more filler)
              exact .inr (SpecFrame.root_eq_of_isKeyed keyed otherRoot)
        obtain ⟨otherInner, innerMade, innerTag⟩ := others other type fixed deeper _ placed
        have passed : frame.readsTag = true → otherInner.tag = inner.tag := fun reads =>
          innerTag fun passes => read (by simp [SpecFrame.someReadsTag, reads, passes])
        obtain ⟨wholes, wholeMade, -, wholeTag⟩ := exchange _ otherInner innerMade passed
        refine ⟨wholes, wholeMade, fun passes => wholeTag fun framePasses => ?_⟩
        exact innerTag fun inside =>
          passes (by simpa [SpecFrame.allPassTag, framePasses] using inside)

end Parts

end Compiler
end DataContract
