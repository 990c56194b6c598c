import DataContract.Proofs.Schema.Entries
import DataContract.Proofs.Schema.ErrorPath
import DataContract.Proofs.Schema.KeyStyle
import DataContract.Proofs.Schema.TypeCheck

/-!
# Validated values

What validation answers with is accepted as it is: sequences have become lists, maps have
lost their undeclared keys and the others have their own names, and all of that is left
alone when the answer is validated again.

Two things could go wrong. An optional key that found no entry might find one under its
name on the wire, now that other keys have their own names; it does not, because that name
is its own name on the wire, so that the key would have found the entry before. And a union
might turn to another alternative; it does not, because the type check of its left side
only looks at the kind of a value, which validation does not change.
-/

namespace DataContract

/-! ## Type checks that look at kinds -/

/-- Whether a registry checks every tag by a function. -/
def PredicateRegistry.ChecksBy
    (accepts : Tag → Value → Attempt Bool)
    (registry : PredicateRegistry) : Prop :=
  ∀ tag predicate, registry.typeCheck tag = .ok predicate →
    ∀ value, predicate.holds value = accepts tag value

/-- Whether a function treats what it accepts as a list like any list, and what it accepts
as a map like any map. -/
structure Tag.SeesKinds (accepts : Tag → Value → Attempt Bool) : Prop where
  /-- What passes as a list is to every check as any list. -/
  list : ∀ value, accepts .list value = .ok true →
    ∀ tag items, accepts tag (.list items) = accepts tag value
  /-- What passes as a map is to every check as any map. -/
  map : ∀ value, accepts .map value = .ok true →
    ∀ tag entries, accepts tag (.map entries) = accepts tag value

theorem PredicateRegistry.checksBy_standard :
    standard.ChecksBy fun tag value => .ok (tag.admits value) := by
  intro tag predicate checked value
  rw [typeCheck_standard, Except.ok.injEq] at checked
  rw [← checked, Predicate.holds_typeCheck]

theorem Tag.seesKinds_admits : SeesKinds fun tag value => .ok (tag.admits value) where
  list value accepted tag items := by
    cases value with
    | list others => cases tag <;> rfl
    | tuple others => cases tag <;> rfl
    | _ => simp [admits] at accepted
  map value accepted tag entries := by
    cases value with
    | map others => cases tag <;> rfl
    | _ => simp [admits] at accepted

namespace Schema

section Settled

variable
  {accepts : Tag → Value → Attempt Bool}
  {schema : Schema}

/-- Whether a predicate is the type check of a tag by a function. -/
def IsTypeCheck
    (accepts : Tag → Value → Attempt Bool)
    (tag : Tag)
    (predicate : Predicate) : Prop :=
  predicate.name = Failure.typePredicate ∧ ∀ value, predicate.holds value = accepts tag value

/-- Whether a node of a schema leaves validated values alone: a list or a map has no
predicates but its type check, the keys of a map are named by texts and, if the map renames
them, have the names on the wire that they have by default, and the left side of a union is
a primitive with one type check. -/
def IsStable : Schema → Prop
  | .primitive .. => True
  | .list chain _ => chain.tail = []
  | .map chain keys atomize style =>
      chain.tail = [] ∧ Key.AreNamed keys ∧ (atomize = true → style = .camel)
  | .union left _ _ =>
      ∃ tag chain, left = .primitive tag chain ∧
        ∀ predicate ∈ chain.tail, predicate.name ≠ Failure.typePredicate
  | .cast .. => False
  | .custom .. => False

/-- Whether a schema is a map that renames its keys. -/
def renames : Schema → Bool
  | .map _ _ atomize _ => atomize
  | _ => false

/-- Whether a validated value is accepted as it is, is to type checks as the value was, and
keeps its names. -/
structure Settles
    (accepts : Tag → Value → Attempt Bool)
    (schema : Schema)
    (value output : Value) : Prop where
  /-- The output is accepted as it is. -/
  again : schema.validate output = .ok (.ok output)
  /-- The output is to type checks as the value was. -/
  alike : ∀ tag, accepts tag output = accepts tag value
  /-- The output keeps its names. -/
  renamed : schema.renames = true → schema.atomizeInline .camel output = .ok output

/-- A chain that consists of a type check accepts what the type check accepts. -/
theorem checkChain_of_isTypeCheck
    {tag : Tag}
    {chain : List Predicate}
    (begins : BeginsWith (IsTypeCheck accepts) tag chain)
    (alone : chain.tail = [])
    (value : Value) :
    checkChain chain value = .ok (.ok value) ↔ accepts tag value = .ok true := by
  obtain ⟨isType, extra, rfl, -, checks⟩ := begins
  obtain rfl : extra = [] := alone
  rw [checkChain_eq_accepted, ← checks value]
  simp

/-- Validated lists settle if validated members do. -/
theorem settles_list
    (kinds : Tag.SeesKinds accepts)
    {chain : List Predicate}
    {member : Schema}
    (begins : BeginsWith (IsTypeCheck accepts) .list chain)
    (alone : chain.tail = [])
    (settled : ∀ value output, member.validate value = .ok (.ok output) →
      member.Settles accepts value output)
    {value output : Value}
    (validated : (list chain member).validate value = .ok (.ok output)) :
    (list chain member).Settles accepts value output := by
  obtain ⟨passed, items, outputs, -, rfl, each⟩ := validate_list_eq_accepted.mp validated
  have accepted := (checkChain_of_isTypeCheck begins alone value).mp passed
  refine ⟨?_, fun tag => kinds.list value accepted tag outputs, fun renamed => nomatch renamed⟩
  refine validate_list_eq_accepted.mpr ⟨?_, outputs, outputs, rfl, rfl, ?_⟩
  · rw [checkChain_of_isTypeCheck begins alone, kinds.list value accepted, accepted]
  · rw [List.forall₂_same]
    have both := each.flip.imp fun output item validated =>
      And.intro (settled item output validated).again validated
    exact ((List.forall₂_and_left _ _).mp both).1

section Maps

variable
  {chain : List Predicate}
  {keys : List Key}
  {atomize : Bool}
  {style : KeyStyle}
  {found : Key → Option Value}
  {value data : Value}

/-- A key without an entry finds none under its name on the wire among the validated
entries: that name is its own name on the wire, so the key that found it would have left it
to the other before. -/
theorem external_absent
    (declared : Key.AreDeclared keys true .camel)
    (named : Key.AreNamed keys)
    (read : mapData keys true .camel value = .ok data)
    (each : ∀ key ∈ keys,
      key.report data = .ok ((found key).map fun valid => .ok (key.name, valid)))
    {key : Key}
    (member : key ∈ keys)
    (absent : found key = none) :
    Value.entry? (.map (Key.entries keys found)) (KeyStyle.camel.external key.name) =
      .ok none := by
  obtain ⟨name, called⟩ := named key member
  obtain ⟨collected, made, rfl⟩ := Attempt.map_eq_ok.mp read
  obtain ⟨taken, collects, rfl⟩ := exists_collect_of_atomizeKeys made
  have lookup (other : Key) (present : other ∈ keys) :
      Value.entry? (.map (Key.entries keys taken)) other.name = .ok (taken other) :=
    Key.entry?_entries declared.distinct named.isName present
  have unseen : value.entry? (.text (camelize name)) = .ok none := by
    have reported := each key member
    rw [absent] at reported
    have missing := (Key.report_eq_none.mp reported).1
    rw [lookup key member, Except.ok.injEq] at missing
    have nothing := collects key member
    rw [missing, Key.collect_eq_none, called] at nothing
    exact nothing.2
  rw [called]
  change Value.entry? (.map _) (.text (camelize name)) = _
  rw [Value.entry?_map rfl, Except.ok.injEq]
  by_contra present
  obtain ⟨output, looked⟩ := Option.ne_none_iff_exists'.mp present
  obtain ⟨other, inside, same, finds⟩ := Key.exists_of_get?_entries looked
  rw [Value.sameKey_text] at same
  have reported := each other inside
  rw [finds] at reported
  obtain ⟨-, entry, entered, -⟩ := Key.report_eq_accepted.mp reported
  rw [lookup other inside, Except.ok.injEq] at entered
  have nothing : other.collect .camel value = .ok none := by
    refine Key.collect_eq_none.mpr ⟨same ▸ unseen, ?_⟩
    have external : KeyStyle.camel.external other.name = .text (camelize name) := by
      rw [same]
      exact congrArg Value.text (camelize_camelize name)
    exact external ▸ unseen
  rw [collects other inside, entered] at nothing
  cases nothing

/-- Validated entries have the names of their keys already. -/
theorem mapData_entries
    (declared : Key.AreDeclared keys atomize style)
    (named : Key.AreNamed keys)
    (styled : atomize = true → style = .camel)
    (settled : ∀ key ∈ keys, ∀ value output, key.type.validate value = .ok (.ok output) →
      key.type.Settles accepts value output)
    (read : mapData keys atomize style value = .ok data)
    (each : ∀ key ∈ keys,
      key.report data = .ok ((found key).map fun valid => .ok (key.name, valid))) :
    mapData keys atomize style (.map (Key.entries keys found)) =
      .ok (.map (Key.entries keys found)) := by
  cases atomize with
  | false => rfl
  | true =>
      obtain rfl := styled rfl
      refine Attempt.map_eq_ok.mpr ⟨_, atomizeKeys_of_collect fun key member => ?_, rfl⟩
      have lookup : Value.entry? (.map (Key.entries keys found)) key.name = .ok (found key) :=
        Key.entry?_entries declared.distinct named.isName member
      cases there : found key with
      | none =>
          rw [there] at lookup
          exact Key.collect_eq_none.mpr
            ⟨lookup, external_absent declared named read each member there⟩
      | some output =>
          have reported := each key member
          rw [there] at reported lookup
          obtain ⟨-, entry, -, validated⟩ := Key.report_eq_accepted.mp reported
          have settles := settled key member entry output validated
          rw [Key.collect_of_entry lookup, Attempt.map_eq_ok]
          refine ⟨output, ?_, rfl⟩
          rw [Key.rename]
          split
          · rename_i inPlace
            obtain ⟨inner, parts, shape⟩ := declared.inPlace key member inPlace
            exact settles.renamed (by rw [shape]; rfl)
          · rfl

/-- Validated maps settle if the validated values of their keys do. -/
theorem settles_map
    (kinds : Tag.SeesKinds accepts)
    (begins : BeginsWith (IsTypeCheck accepts) .map chain)
    (alone : chain.tail = [])
    (declared : Key.AreDeclared keys atomize style)
    (named : Key.AreNamed keys)
    (styled : atomize = true → style = .camel)
    (settled : ∀ key ∈ keys, ∀ value output, key.type.validate value = .ok (.ok output) →
      key.type.Settles accepts value output)
    {output : Value}
    (validated : (map chain keys atomize style).validate value = .ok (.ok output)) :
    (map chain keys atomize style).Settles accepts value output := by
  rcases validate_map_eq_ok.mp validated with ⟨failure, -, failed⟩ | ⟨passed, answered⟩
  · cases failed
  · obtain ⟨data, found, read, each, rfl⟩ := exists_reports_of_keysOutcome answered
    have accepted := (checkChain_of_isTypeCheck begins alone value).mp passed
    have reread := mapData_entries declared named styled settled read each
    refine ⟨?_, fun tag => kinds.map value accepted tag _, ?_⟩
    · refine validate_map_eq_ok.mpr (.inr ⟨?_, ?_⟩)
      · rw [checkChain_of_isTypeCheck begins alone, kinds.map value accepted, accepted]
      · refine keysOutcome_of_reports reread fun key member => ?_
        have lookup : Value.entry? (.map (Key.entries keys found)) key.name = .ok (found key) :=
          Key.entry?_entries declared.distinct named.isName member
        have reported := each key member
        cases there : found key with
        | none =>
            rw [there] at reported lookup
            exact Key.report_eq_none.mpr ⟨lookup, (Key.report_eq_none.mp reported).2⟩
        | some output =>
            rw [there] at reported lookup
            obtain ⟨-, entry, -, validated⟩ := Key.report_eq_accepted.mp reported
            exact Key.report_eq_accepted.mpr
              ⟨rfl, output, lookup, (settled key member entry output validated).again⟩
    · intro renames
      obtain rfl : atomize = true := renames
      obtain rfl := styled rfl
      rw [atomizeInline]
      split
      · rfl
      · exact reread

end Maps

/-- A primitive that fails no later than with its type check does not accept the type. -/
theorem accepts_eq_false_of_failed
    {tag : Tag}
    {chain : List Predicate}
    {value : Value}
    {failure : Failure}
    (begins : BeginsWith (IsTypeCheck accepts) tag chain)
    (only : ∀ predicate ∈ chain.tail, predicate.name ≠ Failure.typePredicate)
    (failed : checkChain chain value = .ok (.error failure))
    (early : failure.isPastTypeCheck = false) :
    accepts tag value = .ok false := by
  obtain ⟨isType, extra, rfl, -, checks⟩ := begins
  obtain ⟨before, predicate, after, split, -, fails, rfl⟩ := exists_of_checkChain_failed failed
  cases before with
  | nil =>
      cases split
      exact (checks value).symm.trans fails
  | cons first before =>
      obtain ⟨rfl, rfl⟩ := List.cons.inj split
      have named : predicate.name = Failure.typePredicate := by
        simpa [Predicate.failure, Failure.isPastTypeCheck] using early
      exact absurd named (only predicate (by simp))

/-- Validated values of a union settle if those of its right side do: the left side, a
primitive, takes values as they are, and leaves the same values to the right side as
before. -/
theorem settles_union
    {tag : Tag}
    {chain : List Predicate}
    {right : Schema}
    {options : Options}
    (begins : BeginsWith (IsTypeCheck accepts) tag chain)
    (only : ∀ predicate ∈ chain.tail, predicate.name ≠ Failure.typePredicate)
    (settled : ∀ value output, right.validate value = .ok (.ok output) →
      right.Settles accepts value output)
    {value output : Value}
    (validated : (union (primitive tag chain) right options).validate value =
      .ok (.ok output)) :
    (union (primitive tag chain) right options).Settles accepts value output := by
  rcases validate_union_eq_ok.mp validated with
    ⟨accepted, first, same⟩ | ⟨failure, failed, ⟨-, stopped⟩ | ⟨uncommitted, second⟩⟩
  · cases same
    obtain rfl := eq_of_checkChain first
    exact ⟨validated, fun _ => rfl, fun renamed => nomatch renamed⟩
  · cases stopped
  · rcases second with ⟨accepted, second, same⟩ | ⟨other, -, stopped⟩
    · cases same
      have settles := settled value output second
      refine ⟨?_, settles.alike, fun renamed => nomatch renamed⟩
      have refused := accepts_eq_false_of_failed begins only failed uncommitted
      rw [← settles.alike] at refused
      obtain ⟨isType, extra, rfl, named, checks⟩ := begins
      refine validate_union_eq_ok.mpr (.inr ⟨isType.failure output, ?_, .inr ⟨?_, .inl ?_⟩⟩)
      · exact checkChain_cons_of_not_holds ((checks output).trans refused)
      · simp [commitsTo, isPrimitive, Predicate.failure, Failure.isPastTypeCheck, named]
      · exact ⟨output, settles.again, rfl⟩
    · cases stopped

/-- Validated values settle. -/
theorem settles_of_validate
    (kinds : Tag.SeesKinds accepts)
    (checks : ∀ node ∈ schema.nodes, node.ChecksFirst (IsTypeCheck accepts))
    (stable : ∀ node ∈ schema.nodes, node.IsStable)
    (value output : Value)
    (validated : schema.validate value = .ok (.ok output)) :
    schema.Settles accepts value output := by
  induction schema generalizing value output with
  | primitive tag chain =>
      obtain rfl := eq_of_checkChain validated
      exact ⟨validated, fun _ => rfl, fun renamed => nomatch renamed⟩
  | list chain member hypothesis =>
      rw [forall_nodes_list] at checks stable
      exact settles_list kinds checks.1 stable.1 (hypothesis checks.2 stable.2) validated
  | map chain keys atomize style hypothesis =>
      rw [forall_nodes_map] at checks stable
      obtain ⟨⟨begins, declared⟩, keysCheck⟩ := checks
      obtain ⟨⟨alone, named, styled⟩, keysStable⟩ := stable
      exact settles_map kinds begins alone declared named styled
        (fun key member => hypothesis key member (keysCheck key member) (keysStable key member))
        validated
  | union left right options _ rightHypothesis =>
      rw [forall_nodes_union] at checks stable
      obtain ⟨tag, chain, rfl, only⟩ := stable.1
      exact settles_union (checks.2.1 _ (mem_nodes_self _)) only
        (rightHypothesis checks.2.2 stable.2.2) validated
  | cast input output caster options _ _ => exact (stable _ (mem_nodes_self _)).elim
  | custom type => exact (stable _ (mem_nodes_self _)).elim

end Settled

/-- What a schema answers with, it accepts as it is, if all its type checks are by one
function that sees only the kinds of lists and maps. -/
theorem validate_output
    (accepts : Tag → Value → Attempt Bool)
    (kinds : Tag.SeesKinds accepts)
    (schema : Schema)
    (compiled : schema.IsCompiled (PredicateRegistry.ChecksBy accepts))
    (stable : ∀ node ∈ schema.nodes, node.IsStable)
    (value output : Value)
    (validated : schema.validate value = .ok (.ok output)) :
    schema.validate output = .ok (.ok output) := by
  have checks : ∀ node ∈ schema.nodes, node.ChecksFirst (IsTypeCheck accepts) :=
    compiled.checksFirst fun registry checks tag isType made =>
      ⟨PredicateRegistry.name_of_typeCheck made, checks tag isType made⟩
  exact (settles_of_validate kinds checks stable value output validated).again

/-- A name, and tags with gaps, which may be missing. -/
def authorSpec : Spec :=
  .map
    [(.text "pen_name", .text "string"),
    (.tuple [.text "optional", .text "all_tags"],
      .tuple [.text "list", .list [.text "string", .text "none"]])]

/-- What is compiled from `authorSpec`, with names on the wire. -/
def author : Schema :=
  .map [.typeCheck .map]
    [.mk [] (.text "pen_name") .required (.primitive .string [.typeCheck .string]) false,
    .mk [] (.text "all_tags") .optional
      (.list [.typeCheck .list]
        (.union (.primitive .string [.typeCheck .string])
          (.primitive .none [.typeCheck .none]) []))
      false]
    true .camel

theorem compile_author :
    Compiler.standard.compile authorSpec ⟨some (.bool true), none, []⟩ = .ok author := by
  simp [authorSpec, Compiler.compile, Compiler.compileSpec, Compiler.compileMap,
    Compiler.compileKeys, Compiler.compileEntry, Compiler.compileName,
    Compiler.compileAlternatives, Compiler.declaredKey]
  rfl

/-- An author under names on the wire, with a tuple of tags and an undeclared entry. -/
def givenAuthor : Value :=
  .map
    [(.text "allTags", .tuple [.null, .text "a"]), (.text "penName", .text "B"),
    (.text "x", .null)]

/-- What `author` answers with for `givenAuthor`. -/
def validAuthor : Value :=
  .map [(.text "pen_name", .text "B"), (.text "all_tags", .list [.null, .text "a"])]

theorem validate_output_author :
    author.validate givenAuthor = .ok (.ok validAuthor) ∧
      author.validate validAuthor = .ok (.ok validAuthor) := by
  have compiled : author.IsCompiled
      (PredicateRegistry.ChecksBy fun tag value => .ok (tag.admits value)) :=
    isCompiled_of_standard PredicateRegistry.checksBy_standard rfl compile_author
  have stable : ∀ node ∈ author.nodes, node.IsStable := by
    simp [author, nodes, keyNodes, IsStable, Key.AreNamed]
  have validated : author.validate givenAuthor = .ok (.ok validAuthor) := rfl
  exact ⟨validated,
    validate_output _ Tag.seesKinds_admits author compiled stable givenAuthor validAuthor
      validated⟩

/-- Lists of five items. -/
def fiveItems : Schema :=
  .primitive .list [.typeCheck .list, .sizeCheck 5]

/-- Five items, or anything, as everything passes as a list. -/
def fiveOrMore : Schema :=
  .union fiveItems
    (.list [.blindCheck true .list] (.primitive .any [.blindCheck true .any])) []

/-- If maps pass as lists on one side of a union and not on the other, a map may be
answered with a list that the other side lays claim to and rejects. -/
theorem lenient_output_rejected :
    Compiler.standard.compile
        (.tuple
          [.text "type", .text "list",
          .list [.tuple [.text "size?", .scalar (.int 5)]]]) .none = .ok fiveItems ∧
      (Compiler.blind true).compile
        (.tuple [.text "union", .compiled fiveItems, .tuple [.text "list", .text "any"]])
        .none = .ok fiveOrMore ∧
      (∀ node ∈ fiveOrMore.nodes, node.IsStable) ∧
      fiveOrMore.validate (.map [(.text "a", .int 1)]) = .ok (.ok (.list [.text "a"])) ∧
      fiveOrMore.validate (.list [.text "a"]) =
        .ok (.error (.predicate [] "size?" [.int 5, .list [.text "a"]] (.list [.text "a"]))) := by
  refine ⟨?_, ?_, ?_, rfl, rfl⟩
  · simp [Compiler.compile, Compiler.compileSpec, Compiler.compileName]
    rfl
  · simp [Compiler.compile, Compiler.compileSpec, Compiler.compileName]
    rfl
  · simp [fiveOrMore, fiveItems, nodes, IsStable, Predicate.sizeCheck, Failure.typePredicate]

end Schema
end DataContract
