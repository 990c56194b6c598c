import DataContract.Proofs.Predicate.TypeCheck
import DataContract.Proofs.Schema.Node
import DataContract.Spec.Compile

/-!
# Reading compilation

There is one equation for each form of a specification, and that a specification
was compiled says what its parts were compiled to. The lemmas here read this off
for every form, for the keys of a map and for the values under them.

The keys of a compiled map have different names, and a map that was given in place
treats its keys as the map around it does.
-/

namespace DataContract

/-- Whether the keys of a map have different names, and the maps given in place
under them treat their keys as the map does. -/
structure Key.AreDeclared
    (keys : List Key)
    (atomize : Bool)
    (style : KeyStyle) : Prop where
  /-- No name is declared again later. -/
  distinct : keys.Pairwise fun earlier later => later.name.sameKey earlier.name = false
  /-- A map given in place has the same options as the map around it. -/
  inPlace : ∀ key ∈ keys, key.inline = true →
    ∃ chain inner, key.type = .map chain inner atomize style

namespace Compiler

@[simp] theorem optionalPart_cons_zero
    (part : Spec)
    (rest : List Spec) :
    optionalPart (part :: rest) 0 = part := rfl

/-- A chain that begins with a type check has the predicates of its list after
it. -/
theorem chainWith_eq_ok
    {registry : PredicateRegistry}
    {tag : Tag}
    {list : Spec}
    {chain : List Predicate} :
    chainWith registry tag list = .ok chain ↔
      ∃ isType extra, registry.typeCheck tag = .ok isType ∧
        readPredicates registry list = .ok extra ∧ chain = isType :: extra := by
  simp only [chainWith, Attempt.bind_eq_ok, Except.ok.injEq]
  constructor
  · rintro ⟨isType, checked, extra, read, rfl⟩
    exact ⟨isType, extra, checked, read, rfl⟩
  · rintro ⟨isType, extra, checked, read, rfl⟩
    exact ⟨isType, checked, extra, read, rfl⟩

/-- A compiled map has compiled keys and a chain that begins with a type check. -/
theorem compileMap_eq_ok
    {compiler : Compiler}
    {types : List (String × Spec)}
    {scope : Scope}
    {root : Path}
    {entries : List (Value × Spec)}
    {list : Spec}
    {schema : Schema} :
    compileMap compiler types scope root entries list = .ok schema ↔
      ∃ keys chain, compileKeys compiler types scope root [] entries = .ok keys ∧
        chainWith compiler.predicates .map list = .ok chain ∧
        schema = .map chain keys scope.atomize.truthy scope.style := by
  rw [compileMap]
  simp only [Attempt.bind_eq_ok, Except.ok.injEq]
  constructor
  · rintro ⟨keys, made, chain, checked, rfl⟩
    exact ⟨keys, chain, made, checked, rfl⟩
  · rintro ⟨keys, chain, made, checked, rfl⟩
    exact ⟨keys, made, chain, checked, rfl⟩

/-- The keys of an entry come first, if its name was not seen before. -/
theorem compileKeys_cons_eq_ok
    {compiler : Compiler}
    {types : List (String × Spec)}
    {scope : Scope}
    {root : Path}
    {seen : List Value}
    {key : Value}
    {spec : Spec}
    {rest : List (Value × Spec)}
    {keys : List Key} :
    compileKeys compiler types scope root seen ((key, spec) :: rest) = .ok keys ↔
      ∃ type inline others,
        (∀ earlier ∈ seen, (declaredKey key).2.sameKey earlier = false) ∧
        compileEntry compiler types scope (root ++ [(declaredKey key).2]) spec =
          .ok (type, inline) ∧
        compileKeys compiler types scope root ((declaredKey key).2 :: seen) rest =
          .ok others ∧
        keys = .mk root (declaredKey key).2 (declaredKey key).1 type inline :: others := by
  rw [compileKeys]
  by_cases repeated : seen.any ((declaredKey key).2.sameKey ·) = true
  · obtain ⟨earlier, member, same⟩ := List.any_eq_true.mp repeated
    simp only [repeated, if_true, Attempt.refuse_ne_ok, false_iff]
    rintro ⟨type, inline, others, fresh, -⟩
    simp [fresh earlier member] at same
  · have fresh : ∀ earlier ∈ seen, (declaredKey key).2.sameKey earlier = false := by
      simpa using repeated
    simp only [repeated, Bool.false_eq_true, if_false, Attempt.bind_eq_ok, Except.ok.injEq,
      Prod.exists]
    constructor
    · rintro ⟨type, inline, made, others, remaining, rfl⟩
      exact ⟨type, inline, others, fresh, made, remaining, rfl⟩
    · rintro ⟨type, inline, others, -, made, remaining, rfl⟩
      exact ⟨type, inline, made, others, remaining, rfl⟩

/-- The value of a key is a map given in place, or compiled on its own. -/
theorem compileEntry_cases
    {compiler : Compiler}
    {types : List (String × Spec)}
    {scope : Scope}
    {path : Path}
    {spec : Spec}
    {type : Schema}
    {inline : Bool}
    (compiled : compileEntry compiler types scope path spec = .ok (type, inline)) :
    (∃ entries list, inline = true ∧
      compileMap compiler types scope path entries list = .ok type ∧
      (spec = .map entries ∨ ∃ parts, spec = .tuple (.text "map" :: .map entries :: parts))) ∨
    (inline = false ∧ compileSpec compiler types scope [] spec = .ok type) := by
  unfold compileEntry at compiled
  split at compiled
  · rename_i entries
    obtain ⟨made, mapped, same⟩ := Attempt.bind_eq_ok.mp compiled
    cases same
    exact Or.inl ⟨entries, _, rfl, mapped, Or.inl rfl⟩
  · rename_i entries parts
    obtain ⟨made, mapped, same⟩ := Attempt.bind_eq_ok.mp compiled
    cases same
    exact Or.inl ⟨entries, _, rfl, mapped, Or.inr ⟨parts, rfl⟩⟩
  · obtain ⟨made, mapped, same⟩ := Attempt.bind_eq_ok.mp compiled
    cases same
    exact Or.inr ⟨rfl, mapped⟩

section Names

variable
  {compiler : Compiler}
  {types : List (String × Spec)}
  {scope : Scope}
  {root : Path}
  {entries : List (Value × Spec)}

/-- The name of a compiled key is none of those seen before. -/
theorem sameKey_eq_false_of_seen
    {seen : List Value}
    {keys : List Key}
    (compiled : compileKeys compiler types scope root seen entries = .ok keys)
    {key : Key}
    (member : key ∈ keys)
    {earlier : Value}
    (known : earlier ∈ seen) :
    key.name.sameKey earlier = false := by
  induction entries generalizing seen keys with
  | nil =>
      rw [compileKeys] at compiled
      cases compiled
      simp at member
  | cons entry rest hypothesis =>
      obtain ⟨type, inline, others, fresh, -, remaining, rfl⟩ :=
        compileKeys_cons_eq_ok.mp compiled
      rcases List.mem_cons.mp member with rfl | member
      · exact fresh earlier known
      · exact hypothesis remaining member (List.mem_cons_of_mem _ known)

/-- Compiled keys have different names, and what is given in place under them has
the options in force. -/
theorem areDeclared_of_compileKeys
    {seen : List Value}
    {keys : List Key}
    (compiled : compileKeys compiler types scope root seen entries = .ok keys) :
    Key.AreDeclared keys scope.atomize.truthy scope.style := by
  induction entries generalizing seen keys with
  | nil =>
      rw [compileKeys] at compiled
      cases compiled
      exact ⟨List.Pairwise.nil, by simp⟩
  | cons entry rest hypothesis =>
      obtain ⟨type, inline, others, -, made, remaining, rfl⟩ :=
        compileKeys_cons_eq_ok.mp compiled
      have later := hypothesis remaining
      constructor
      · refine List.Pairwise.cons ?_ later.distinct
        intro other member
        exact sameKey_eq_false_of_seen remaining member List.mem_cons_self
      · intro key member given
        rcases List.mem_cons.mp member with rfl | member
        · rcases compileEntry_cases made with ⟨inner, list, -, mapped, -⟩ | ⟨apart, -⟩
          · obtain ⟨keys, chain, -, -, rfl⟩ := compileMap_eq_ok.mp mapped
            exact ⟨chain, keys, rfl⟩
          · rw [Key.inline_mk, apart] at given
            cases given
        · exact later.inPlace key member given

end Names

/-- A cast between two schemas is made from both of them, if the default caster, where
it is used, converts between their tags. -/
theorem castOf_eq_ok
    {input output schema : Schema}
    {entries : List (Value × Spec)} :
    castOf input output entries = .ok schema ↔
      (usesDefault (takeCaster entries).1 = true →
        hasConversion input.tag output.tag = .ok true) ∧
      ∃ caster options, casterOf (takeCaster entries).1 = .ok caster ∧
        Spec.namedOptions (takeCaster entries).2 = .ok options ∧
        schema = .cast input output caster options := by
  simp only [castOf]
  split
  · rename_i default
    simp only [default, true_imp_iff, Attempt.bind_eq_ok]
    constructor
    · rintro ⟨possible, convertible, made⟩
      cases possible with
      | false => simp at made
      | true =>
          simp only [if_true, Attempt.bind_eq_ok, Except.ok.injEq] at made
          obtain ⟨caster, called, options, named, rfl⟩ := made
          exact ⟨convertible, caster, options, called, named, rfl⟩
    · rintro ⟨convertible, caster, options, called, named, rfl⟩
      refine ⟨true, convertible, ?_⟩
      simp only [if_true, Attempt.bind_eq_ok, Except.ok.injEq]
      exact ⟨caster, called, options, named, rfl⟩
  · rename_i custom
    simp only [custom, Attempt.ok_bind, if_true, Attempt.bind_eq_ok, Except.ok.injEq]
    constructor
    · rintro ⟨caster, called, options, named, rfl⟩
      exact ⟨fun default => absurd default Bool.false_ne_true, caster, options, called, named, rfl⟩
    · rintro ⟨-, caster, options, called, named, rfl⟩
      exact ⟨caster, called, options, named, rfl⟩

section Equations

variable
  (compiler : Compiler)
  (types : List (String × Spec))
  (scope : Scope)
  (root : Path)

attribute [local simp] compileSpec

theorem compileSpec_definition
    (name : String)
    (inner : Spec)
    (options : CompileOptions) :
    compileSpec compiler types scope root (.definition name inner options) =
      compileSpec compiler types (scope.enter options) [] inner := by
  simp

theorem compileSpec_text (name : String) :
    compileSpec compiler types scope root (.text name) =
      compileName compiler types scope name [] := by
  simp

theorem compileSpec_keys (entries : List (Value × Spec)) :
    compileSpec compiler types scope root (.map entries) =
      compileMap compiler types scope root entries (.tuple []) := by
  simp

theorem compileSpec_alternatives
    (first second : Spec)
    (rest : List Spec) :
    compileSpec compiler types scope root (.list (first :: second :: rest)) =
      compileAlternatives compiler types scope (first :: second :: rest) := by
  rw [compileSpec]
  have enough : ¬ (first :: second :: rest).length < 2 := by simp
  rw [if_neg enough]

theorem compileSpec_type
    (name : Spec)
    (rest : List Spec) :
    compileSpec compiler types scope root (.tuple (.text "type" :: name :: rest)) = (do
      let extra ← readPredicates compiler.predicates (optionalPart rest 0)
      match name with
      | .text name => compileName compiler types scope name extra
      | _ => refuse (.unknownType name.toValue)) := by
  rw [compileSpec]
  rfl

theorem compileSpec_list
    (member : Spec)
    (rest : List Spec) :
    compileSpec compiler types scope root (.tuple (.text "list" :: member :: rest)) = (do
      let chain ← chainWith compiler.predicates .list (optionalPart rest 0)
      .ok (.list chain (← compileSpec compiler types scope [] member))) := by
  rw [compileSpec]
  rfl

theorem compileSpec_map
    (entries : List (Value × Spec))
    (rest : List Spec) :
    compileSpec compiler types scope root (.tuple (.text "map" :: .map entries :: rest)) =
      compileMap compiler types scope root entries (optionalPart rest 0) := by
  rw [compileSpec]
  rfl

theorem compileSpec_union
    (left right : Spec)
    (rest : List Spec) :
    compileSpec compiler types scope root (.tuple (.text "union" :: left :: right :: rest)) = (do
      let left ← compileSpec compiler types scope [] left
      let right ← compileSpec compiler types scope [] right
      let entries ← (optionalMap rest 0).toOptionEntries
      .ok (.union left right (← Spec.namedOptions entries))) := by
  rw [compileSpec]
  rfl

theorem compileSpec_cast
    (input output : Spec)
    (rest : List Spec) :
    compileSpec compiler types scope root (.tuple (.text "cast" :: input :: output :: rest)) = (do
      let entries ← (optionalMap rest 0).toOptionEntries
      let input ← compileSpec compiler types scope [] input
      let output ← compileSpec compiler types scope [] output
      castOf input output entries) := by
  rw [compileSpec]
  rfl

end Equations

section Forms

variable
  {compiler : Compiler}
  {types : List (String × Spec)}
  {scope : Scope}
  {root : Path}
  {rest : List Spec}
  {schema : Schema}

theorem compileSpec_type_eq_ok
    {name : Spec} :
    compileSpec compiler types scope root (.tuple (.text "type" :: name :: rest)) =
        .ok schema ↔
      ∃ text extra, name = .text text ∧
        readPredicates compiler.predicates (optionalPart rest 0) = .ok extra ∧
        compileName compiler types scope text extra = .ok schema := by
  rw [compileSpec_type]
  simp only [Attempt.bind_eq_ok]
  constructor
  · rintro ⟨extra, read, compiled⟩
    split at compiled
    · exact ⟨_, extra, rfl, read, compiled⟩
    · simp at compiled
  · rintro ⟨text, extra, rfl, read, compiled⟩
    exact ⟨extra, read, compiled⟩

theorem compileSpec_list_eq_ok
    {member : Spec} :
    compileSpec compiler types scope root (.tuple (.text "list" :: member :: rest)) =
        .ok schema ↔
      ∃ chain type, chainWith compiler.predicates .list (optionalPart rest 0) = .ok chain ∧
        compileSpec compiler types scope [] member = .ok type ∧
        schema = .list chain type := by
  rw [compileSpec_list]
  simp only [Attempt.bind_eq_ok, Except.ok.injEq]
  constructor
  · rintro ⟨chain, read, type, made, rfl⟩
    exact ⟨chain, type, read, made, rfl⟩
  · rintro ⟨chain, type, read, made, rfl⟩
    exact ⟨chain, read, type, made, rfl⟩

theorem compileSpec_union_eq_ok
    {left right : Spec} :
    compileSpec compiler types scope root (.tuple (.text "union" :: left :: right :: rest)) =
        .ok schema ↔
      ∃ first second entries options, compileSpec compiler types scope [] left = .ok first ∧
        compileSpec compiler types scope [] right = .ok second ∧
        (optionalMap rest 0).toOptionEntries = .ok entries ∧
        Spec.namedOptions entries = .ok options ∧
        schema = .union first second options := by
  rw [compileSpec_union]
  simp only [Attempt.bind_eq_ok, Except.ok.injEq]
  constructor
  · rintro ⟨first, firstMade, second, secondMade, entries, read, options, named, rfl⟩
    exact ⟨first, second, entries, options, firstMade, secondMade, read, named, rfl⟩
  · rintro ⟨first, second, entries, options, firstMade, secondMade, read, named, rfl⟩
    exact ⟨first, firstMade, second, secondMade, entries, read, options, named, rfl⟩

theorem compileSpec_cast_eq_ok
    {input output : Spec} :
    compileSpec compiler types scope root (.tuple (.text "cast" :: input :: output :: rest)) =
        .ok schema ↔
      ∃ entries first second, (optionalMap rest 0).toOptionEntries = .ok entries ∧
        compileSpec compiler types scope [] input = .ok first ∧
        compileSpec compiler types scope [] output = .ok second ∧
        castOf first second entries = .ok schema := by
  rw [compileSpec_cast]
  simp only [Attempt.bind_eq_ok]
  constructor
  · rintro ⟨entries, read, first, firstMade, second, secondMade, made⟩
    exact ⟨entries, first, second, read, firstMade, secondMade, made⟩
  · rintro ⟨entries, first, second, read, firstMade, secondMade, made⟩
    exact ⟨entries, read, first, firstMade, second, secondMade, made⟩

end Forms

end Compiler

end DataContract
