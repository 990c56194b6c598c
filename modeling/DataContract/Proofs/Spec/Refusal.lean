import DataContract.Proofs.Schema.Constraining
import DataContract.Proofs.Spec.Registered
import DataContract.Proofs.Spec.Writing
import DataContract.Proofs.Value.Comparison

/-!
# Refused specifications

A specification that cannot be compiled is refused with a message, whatever is wrong with its
forms, names and keys. What the forms take besides is not looked at before it is used: a list of
predicates must be something to go through, options must be pairs under names, and the names of
unions are looked up by the default caster. A specification in which these places are filled in
this way, and which can be written at all, is compiled or refused with a message.
-/

namespace DataContract

open Attempt

namespace Spec

/-- Whether the predicates of a specification can be gone through, and looked up where they
stand as keys of a map. -/
def ListsPredicates (list : Spec) : Prop :=
  ∃ items, Compiler.predicateItems list = .ok items ∧
    ∀ entries, .map entries ∈ items → ∀ entry ∈ entries, entry.1.isKey = true

/-- Whether a specification gives options under names. -/
def GivesOptions (options : Spec) : Prop :=
  ∃ entries named, options.toOptionEntries = .ok entries ∧ namedOptions entries = .ok named

/-- The name that the options of a union give it. -/
def unionName? (options : Spec) : Option Value :=
  match options.toOptionEntries >>= namedOptions with
  | .ok named => named.lookup "name"
  | .error _ => none

/-- The tag that a specification brings along: the name of a union or the tag of a schema, and
for a definition or a cast that of the inner specification or the output. -/
def ownTag? : Spec → Option Value
  | .definition _ inner _ => inner.ownTag?
  | .compiled type => some type.tag
  | .tuple (.text "union" :: _ :: _ :: rest) => unionName? (Compiler.optionalMap rest 0)
  | .tuple (.text "cast" :: _ :: output :: _) => output.ownTag?
  | _ => none

/-- Whether a cast gives options under names besides its caster, and leaves the default caster
only tags that can be looked up. -/
def GivesCaster (options input output : Spec) : Prop :=
  ∃ entries named, options.toOptionEntries = .ok entries ∧
    namedOptions (Compiler.takeCaster entries).2 = .ok named ∧
    (Compiler.usesDefault (Compiler.takeCaster entries).1 = true →
      (∀ tag ∈ input.ownTag?, tag.isKey = true) ∧ ∀ tag ∈ output.ownTag?, tag.isKey = true)

/-- Whether a specification has in the places of its predicates and options what can be read
there, or is a schema that shows its constraints. -/
def IsReadable : Spec → Prop
  | .compiled type => ∃ shown, type.constraints = .ok shown
  | .tuple (.text "type" :: _ :: rest) => (Compiler.optionalPart rest 0).ListsPredicates
  | .tuple (.text "list" :: _ :: rest) => (Compiler.optionalPart rest 0).ListsPredicates
  | .tuple (.text "map" :: .map _ :: rest) => (Compiler.optionalPart rest 0).ListsPredicates
  | .tuple (.text "union" :: _ :: _ :: rest) => (Compiler.optionalMap rest 0).GivesOptions
  | .tuple (.text "cast" :: input :: output :: rest) =>
      GivesCaster (Compiler.optionalMap rest 0) input output
  | _ => True

end Spec

namespace Compiler

section Predicates

/-- The name of a predicate is looked up in the built-in registry, or refused. -/
theorem tellsMistakes_predicate
    {name : Value}
    (usable : name.isKey = true)
    (writable : name.isWritable = true)
    (args : List Value) :
    TellsMistakes (PredicateRegistry.standard.predicate name args) := by
  refine .bind ?_ fun function _ => .ok _
  have unknown : TellsMistakes (refuse (.unknownPredicate name) : Attempt PredicateFunction) :=
    tellsMistakes_refuse (by simpa [DefinitionFault.values] using writable)
  unfold PredicateRegistry.get
  rw [usable, if_neg (by decide)]
  split
  · split
    · exact .ok _
    · exact unknown
  · exact unknown

/-- A list of predicates that can be gone through is read, or refused. -/
theorem tellsMistakes_readPredicates
    {list : Spec}
    (lists : list.ListsPredicates)
    (writable : list.IsWritable) :
    TellsMistakes (readPredicates PredicateRegistry.standard list) := by
  obtain ⟨items, read, usable⟩ := lists
  have parts := Spec.isInherited_isWritable.predicates writable read
  rw [readPredicates, read, Attempt.ok_bind]
  refine .bind (.mapM fun item member => ?_) fun found _ => .ok _
  have written := parts item member
  unfold predicatesOf
  split
  · exact .ok _
  · exact .bind (tellsMistakes_predicate rfl rfl []) fun predicate _ => .ok _
  · exact .bind (tellsMistakes_predicate rfl rfl _) fun predicate _ => .ok _
  · rename_i entries
    rw [Spec.isWritable_map] at written
    refine .mapM fun entry inside => ?_
    exact tellsMistakes_predicate (usable entries member entry inside) (written entry inside).1 _
  · exact tellsMistakes_refuse (by simpa [DefinitionFault.values] using show _ = _ from written)

theorem tellsMistakes_chainWith
    {list : Spec}
    (lists : list.ListsPredicates)
    (writable : list.IsWritable)
    (tag : Tag) :
    TellsMistakes (chainWith PredicateRegistry.standard tag list) := by
  refine .bind (tellsMistakes_predicate rfl rfl _) fun isType _ => ?_
  exact .bind (tellsMistakes_readPredicates lists writable) fun extra _ => .ok _

/-- A form without predicates has nothing to go through. -/
theorem listsPredicates_absent : (Spec.tuple []).ListsPredicates :=
  ⟨[], rfl, by simp⟩

end Predicates

section Names

/-- The built-in type of numbers, without the name of which it is compiled. -/
theorem compile_number (scope : Scope) :
    compileSpec .standard (without TypeRegistry.standard.types "number") scope []
        TypeRegistry.numberDefinition =
      .ok (.union (.primitive .integer [.typeCheck .integer])
        (.primitive .float [.typeCheck .float]) [("name", .text "number")]) := by
  rw [TypeRegistry.numberDefinition, compileSpec_definition, compileSpec_union,
    compileSpec_text, compileSpec_text, compileName, compileName]
  rfl

/-- A name is compiled with the built-in types, or refused. -/
theorem tellsMistakes_compileName
    (scope : Scope)
    (name : String)
    (extra : List Predicate) :
    TellsMistakes (compileName .standard TypeRegistry.standard.types scope name extra) := by
  cases named : Tag.ofName? name with
  | some tag =>
      rw [compileName, named]
      exact .bind (.bind (tellsMistakes_predicate rfl rfl _) fun _ _ => .ok _) fun _ _ => .ok _
  | none =>
      by_cases number : name = "number"
      · subst number
        rw [compileName_of_lookup named rfl, compile_number]
        exact .ok _
      · have missing : TypeRegistry.standard.types.lookup name = none := by
          simp [TypeRegistry.standard, number]
        rw [compileName_of_missing named missing, Compiler.standard, TypeRegistry.isRegistered,
          missing]
        exact tellsMistakes_refuse (by simp [DefinitionFault.values, Value.isWritable])

theorem isWritable_optionalMap
    {form left right : Spec}
    {rest : List Spec}
    (writable : (Spec.tuple (form :: left :: right :: rest)).IsWritable) :
    (optionalMap rest 0).IsWritable := by
  cases rest with
  | nil => simp [optionalMap]
  | cons options rest => exact Spec.isWritable_tuple.mp writable options (by simp)

theorem isWritable_optionalPart
    {form part : Spec}
    {rest : List Spec}
    (writable : (Spec.tuple (form :: part :: rest)).IsWritable) :
    (optionalPart rest 0).IsWritable := by
  cases rest with
  | nil => simp [optionalPart]
  | cons list rest => exact Spec.isWritable_tuple.mp writable list (by simp)

/-- The tag of a type with a name is a text. -/
theorem exists_text_of_compileName
    {scope : Scope}
    {name : String}
    {extra : List Predicate}
    {schema : Schema}
    (made : compileName .standard TypeRegistry.standard.types scope name extra = .ok schema) :
    ∃ tag, schema.tag = .text tag := by
  cases named : Tag.ofName? name with
  | some tag =>
      rw [compileName, named] at made
      obtain ⟨chain, -, same⟩ := Attempt.bind_eq_ok.mp made
      cases same
      exact ⟨tag.name, rfl⟩
  | none =>
      by_cases number : name = "number"
      · subst number
        rw [compileName_of_lookup named rfl, compile_number] at made
        exact ⟨"number", Schema.tag_of_constrain (by simp [Schema.openCustoms]) made⟩
      · have missing : TypeRegistry.standard.types.lookup name = none := by
          simp [TypeRegistry.standard, number]
        rw [compileName_of_missing named missing] at made
        split at made <;> simp at made

/-- The tag of a compiled schema is a text, or the one that the specification brings along and
that can be written if the specification can. -/
theorem tag_of_compileSpec
    {scope : Scope}
    {root : Path}
    {spec : Spec}
    {schema : Schema}
    (made : compileSpec .standard TypeRegistry.standard.types scope root spec = .ok schema) :
    (spec.ownTag? = some schema.tag ∧ (spec.IsWritable → schema.tag.isWritable = true)) ∨
      ∃ tag, schema.tag = .text tag := by
  induction spec using Spec.induct generalizing scope root schema with
  | definition name inner options hypothesis =>
      rw [compileSpec_definition] at made
      rw [Spec.ownTag?, Spec.isWritable_definition]
      refine (hypothesis made).imp_left fun ⟨own, writes⟩ => ⟨own, fun writable => ?_⟩
      exact writes writable.1
  | compiled type =>
      rw [compileSpec] at made
      obtain ⟨shown, -, same⟩ := Attempt.bind_eq_ok.mp made
      cases same
      exact .inl ⟨rfl, Schema.isWritable_tag⟩
  | text name =>
      rw [compileSpec_text] at made
      exact .inr (exists_text_of_compileName made)
  | keys entries _ =>
      rw [compileSpec_keys] at made
      obtain ⟨keys, chain, -, -, rfl⟩ := compileMap_eq_ok.mp made
      exact .inr ⟨_, rfl⟩
  | alternatives first second rest _ =>
      rw [compileSpec_alternatives, compileAlternatives] at made
      simp only [Attempt.bind_eq_ok] at made
      obtain ⟨left, -, right, -, same⟩ := made
      cases same
      exact .inr ⟨"union", rfl⟩
  | type name rest =>
      obtain ⟨text, extra, rfl, -, compiled⟩ := compileSpec_type_eq_ok.mp made
      exact .inr (exists_text_of_compileName compiled)
  | list member rest _ =>
      obtain ⟨chain, type, -, -, rfl⟩ := compileSpec_list_eq_ok.mp made
      exact .inr ⟨_, rfl⟩
  | map entries rest _ =>
      rw [compileSpec_map] at made
      obtain ⟨keys, chain, -, -, rfl⟩ := compileMap_eq_ok.mp made
      exact .inr ⟨_, rfl⟩
  | union left right rest _ _ =>
      obtain ⟨first, second, entries, options, -, -, read, named, rfl⟩ :=
        compileSpec_union_eq_ok.mp made
      have own : Spec.ownTag? (.tuple (.text "union" :: left :: right :: rest)) =
          options.lookup "name" := by
        rw [Spec.ownTag?, Spec.unionName?, read, Attempt.ok_bind, named]
      rw [own, Schema.tag]
      cases found : options.lookup "name" with
      | none => exact .inr ⟨"union", rfl⟩
      | some name =>
          refine .inl ⟨rfl, fun writable => ?_⟩
          have entriesWritable := Spec.isWritable_options (isWritable_optionalMap writable) read
          exact Spec.isWritable_namedOptions (fun entry member => (entriesWritable entry member).2)
            named found
  | cast input output rest _ outputHypothesis =>
      obtain ⟨entries, first, second, -, -, outputMade, castMade⟩ :=
        compileSpec_cast_eq_ok.mp made
      obtain ⟨-, caster, options, -, -, rfl⟩ := castOf_eq_ok.mp castMade
      rw [Spec.ownTag?, Schema.tag, Spec.isWritable_tuple]
      refine (outputHypothesis outputMade).imp_left fun ⟨own, writes⟩ => ⟨own, fun writable => ?_⟩
      exact writes (writable output (by simp))
  | misshapen spec refused =>
      obtain ⟨cause, -, refused⟩ := refused
      rw [refused] at made
      simp at made

theorem isWritable_tag_of_compileSpec
    {scope : Scope}
    {root : Path}
    {spec : Spec}
    {schema : Schema}
    (writable : spec.IsWritable)
    (made : compileSpec .standard TypeRegistry.standard.types scope root spec = .ok schema) :
    schema.tag.isWritable = true := by
  rcases tag_of_compileSpec made with ⟨-, writes⟩ | ⟨tag, text⟩
  · exact writes writable
  · rw [text]
    rfl

theorem isKey_tag_of_compileSpec
    {scope : Scope}
    {root : Path}
    {spec : Spec}
    {schema : Schema}
    (usable : ∀ tag ∈ spec.ownTag?, tag.isKey = true)
    (made : compileSpec .standard TypeRegistry.standard.types scope root spec = .ok schema) :
    schema.tag.isKey = true := by
  rcases tag_of_compileSpec made with ⟨own, -⟩ | ⟨tag, text⟩
  · exact usable _ own
  · rw [text]
    rfl

end Names

section Forms

variable {scope : Scope}

/-- Whether a specification is compiled with the built-in types and predicates, or refused with a
message, under all options and in all places. -/
def IsDecided (spec : Spec) : Prop :=
  ∀ scope root,
    TellsMistakes (compileSpec .standard TypeRegistry.standard.types scope root spec)

/-- The name that a key declares is the key or a part of it. -/
theorem isWritable_declaredKey
    {key : Value}
    (writable : key.isWritable = true) :
    (declaredKey key).2.isWritable = true := by
  unfold declaredKey
  split
  · simp only [Value.isWritable, Value.areWritable, Bool.and_eq_true] at writable
    split
    · exact writable.2.1
    · simpa [Value.isWritable, Value.areWritable] using writable.2.1
  · exact writable

theorem tellsMistakes_compileKeys
    {entries : List (Value × Spec)}
    (decided : ∀ entry ∈ entries, IsDecided entry.2)
    (writable : ∀ entry ∈ entries, entry.1.isWritable = true)
    (root : Path)
    (seen : List Value) :
    TellsMistakes
      (compileKeys .standard TypeRegistry.standard.types scope root seen entries) := by
  induction entries generalizing seen with
  | nil =>
      rw [compileKeys]
      exact .ok _
  | cons entry rest hypothesis =>
      obtain ⟨key, spec⟩ := entry
      rw [List.forall_mem_cons] at decided writable
      have name := isWritable_declaredKey writable.1
      rw [compileKeys]
      dsimp only
      split
      · exact tellsMistakes_refuse (by simpa [DefinitionFault.values] using name)
      · rw [compileEntry_eq]
        refine .bind (.bind (decided.1 _ _) fun type _ => .ok _) fun made _ => ?_
        exact .bind (hypothesis decided.2 writable.2 _) fun others _ => .ok _

theorem tellsMistakes_compileMap
    {entries : List (Value × Spec)}
    {list : Spec}
    (decided : ∀ entry ∈ entries, IsDecided entry.2)
    (writable : (Spec.map entries).IsWritable)
    (lists : list.ListsPredicates)
    (listWritable : list.IsWritable)
    (root : Path) :
    TellsMistakes
      (compileMap .standard TypeRegistry.standard.types scope root entries list) := by
  rw [Spec.isWritable_map] at writable
  rw [compileMap]
  refine .bind (tellsMistakes_compileKeys decided (fun entry member => (writable entry member).1)
    root []) fun keys _ => ?_
  exact .bind (tellsMistakes_chainWith lists listWritable .map) fun chain _ => .ok _

theorem tellsMistakes_compileAlternatives
    {first : Spec}
    {rest : List Spec}
    (decided : ∀ spec ∈ first :: rest, IsDecided spec) :
    TellsMistakes
      (compileAlternatives .standard TypeRegistry.standard.types scope (first :: rest)) := by
  induction rest generalizing first with
  | nil =>
      rw [compileAlternatives]
      exact decided first (by simp) _ _
  | cons second rest hypothesis =>
      rw [List.forall_mem_cons] at decided
      rw [compileAlternatives]
      refine .bind (decided.1 _ _) fun left _ => ?_
      exact .bind (hypothesis decided.2) fun right _ => .ok _

/-- The default caster looks tags up if they can be looked up. -/
theorem tellsMistakes_hasConversion
    {source target : Value}
    (sourceUsable : source.isKey = true)
    (targetUsable : target.isKey = true) :
    TellsMistakes (hasConversion source target) := by
  refine .bind ?_ fun same _ => ?_
  · exact Value.stops_equals source target fun doubtful =>
      (doubtful sourceUsable targetUsable).elim
  · split
    · exact .ok _
    · refine .map ?_
      unfold findConversion
      rw [sourceUsable, targetUsable, if_neg (by decide)]
      split
      · split <;> exact .ok _
      · exact .ok _

/-- A cast between compiled sides is made, or refused. -/
theorem tellsMistakes_castOf
    {input output : Schema}
    {entries : List (Value × Spec)}
    {named : Options}
    (inputWritable : input.tag.isWritable = true)
    (outputWritable : output.tag.isWritable = true)
    (entriesWritable : ∀ entry ∈ entries, entry.2.IsWritable)
    (options : Spec.namedOptions (takeCaster entries).2 = .ok named)
    (usable : usesDefault (takeCaster entries).1 = true →
      input.tag.isKey = true ∧ output.tag.isKey = true) :
    TellsMistakes (castOf input output entries) := by
  have caster : TellsMistakes (casterOf (takeCaster entries).1) := by
    unfold casterOf
    split
    · exact .ok _
    · exact .ok _
    · exact .ok _
    · rename_i other _ _ found
      obtain ⟨entry, inside, rfl⟩ := Option.map_eq_some_iff.mp found
      have written := entriesWritable entry (List.mem_of_find?_eq_some inside)
      exact tellsMistakes_refuse (by simpa [DefinitionFault.values] using show _ = _ from written)
  have made : TellsMistakes (do
      let caster ← casterOf (takeCaster entries).1
      .ok (Schema.cast input output caster (← Spec.namedOptions (takeCaster entries).2))) := by
    rw [options]
    exact .bind caster fun caster _ => .ok _
  simp only [castOf]
  split
  · rename_i default
    obtain ⟨inputUsable, outputUsable⟩ := usable default
    refine .bind (tellsMistakes_hasConversion inputUsable outputUsable) fun possible _ => ?_
    split
    · exact made
    · exact tellsMistakes_refuse (by simp [DefinitionFault.values, inputWritable, outputWritable])
  · exact made

theorem isDecided_type
    {name : Spec}
    {rest : List Spec}
    (lists : (optionalPart rest 0).ListsPredicates)
    (writable : (Spec.tuple (.text "type" :: name :: rest)).IsWritable) :
    IsDecided (.tuple (.text "type" :: name :: rest)) := by
  intro scope root
  rw [compileSpec_type]
  refine .bind (tellsMistakes_readPredicates lists (isWritable_optionalPart writable))
    fun extra _ => ?_
  split
  · exact tellsMistakes_compileName scope _ extra
  · have written := Spec.isWritable_tuple.mp writable name (by simp)
    exact tellsMistakes_refuse (by simpa [DefinitionFault.values] using show _ = _ from written)

theorem isDecided_list
    {member : Spec}
    {rest : List Spec}
    (decided : IsDecided member)
    (lists : (optionalPart rest 0).ListsPredicates)
    (writable : (Spec.tuple (.text "list" :: member :: rest)).IsWritable) :
    IsDecided (.tuple (.text "list" :: member :: rest)) := by
  intro scope root
  rw [compileSpec_list]
  refine .bind (tellsMistakes_chainWith lists (isWritable_optionalPart writable) .list)
    fun chain _ => ?_
  exact .bind (decided _ _) fun type _ => .ok _

theorem isDecided_union
    {left right : Spec}
    {rest : List Spec}
    (leftDecided : IsDecided left)
    (rightDecided : IsDecided right)
    (given : (optionalMap rest 0).GivesOptions) :
    IsDecided (.tuple (.text "union" :: left :: right :: rest)) := by
  intro scope root
  obtain ⟨entries, named, read, options⟩ := given
  rw [compileSpec_union, read]
  simp only [Attempt.ok_bind, options]
  refine .bind (leftDecided _ _) fun first _ => ?_
  exact .bind (rightDecided _ _) fun second _ => .ok _

theorem isDecided_cast
    {input output : Spec}
    {rest : List Spec}
    (inputDecided : IsDecided input)
    (outputDecided : IsDecided output)
    (given : Spec.GivesCaster (optionalMap rest 0) input output)
    (writable : (Spec.tuple (.text "cast" :: input :: output :: rest)).IsWritable) :
    IsDecided (.tuple (.text "cast" :: input :: output :: rest)) := by
  intro scope root
  obtain ⟨entries, named, read, options, usable⟩ := given
  have inputWritable := Spec.isWritable_tuple.mp writable input (by simp)
  have outputWritable := Spec.isWritable_tuple.mp writable output (by simp)
  have entriesWritable := Spec.isWritable_options (isWritable_optionalMap writable) read
  rw [compileSpec_cast, read, Attempt.ok_bind]
  refine .bind (inputDecided _ _) fun first inputMade => ?_
  refine .bind (outputDecided _ _) fun second outputMade => ?_
  refine tellsMistakes_castOf (isWritable_tag_of_compileSpec inputWritable inputMade)
    (isWritable_tag_of_compileSpec outputWritable outputMade)
    (fun entry member => (entriesWritable entry member).2) options fun default => ?_
  obtain ⟨inputUsable, outputUsable⟩ := usable default
  exact ⟨isKey_tag_of_compileSpec inputUsable inputMade,
    isKey_tag_of_compileSpec outputUsable outputMade⟩

/-- A specification whose parts are readable is compiled or refused with a message, if it can be
written. -/
theorem isDecided_of_isReadable
    {spec : Spec}
    (readable : ∀ part, spec.HasPosition part → part.IsReadable)
    (writable : spec.IsWritable) :
    IsDecided spec := by
  induction spec using Spec.induct with
  | definition name inner options hypothesis =>
      intro scope root
      rw [compileSpec_definition]
      refine hypothesis (fun part inside => ?_) (Spec.isWritable_definition.mp writable).1 _ _
      exact readable part (.definition name inner part options inside)
  | compiled type =>
      intro scope root
      obtain ⟨shown, shows⟩ := readable _ (.self _)
      rw [compileSpec, shows]
      exact .ok _
  | text name =>
      intro scope root
      rw [compileSpec_text]
      exact tellsMistakes_compileName scope name []
  | keys entries hypothesis =>
      intro scope root
      rw [compileSpec_keys]
      refine tellsMistakes_compileMap (fun entry member => hypothesis entry member ?_ ?_) writable
        listsPredicates_absent (by simp) root
      · exact fun part inside => readable part (.entry entries entry part member inside)
      · exact (Spec.isWritable_map.mp writable entry member).2
  | alternatives first second rest hypothesis =>
      intro scope root
      rw [compileSpec_alternatives]
      refine tellsMistakes_compileAlternatives fun spec member => hypothesis spec member ?_ ?_
      · exact fun part inside => readable part (.alternative _ spec part member inside)
      · exact Spec.isWritable_list.mp writable spec member
  | type name rest => exact isDecided_type (readable _ (.self _)) writable
  | list member rest hypothesis =>
      refine isDecided_list (hypothesis ?_ ?_) (readable _ (.self _)) writable
      · exact fun part inside => readable part (.member member part rest inside)
      · exact Spec.isWritable_tuple.mp writable member (by simp)
  | map entries rest hypothesis =>
      intro scope root
      rw [compileSpec_map]
      have lists : (optionalPart rest 0).ListsPredicates := readable _ (.self _)
      have mapWritable := Spec.isWritable_tuple.mp writable (.map entries) (by simp)
      refine tellsMistakes_compileMap (fun entry member => hypothesis entry member ?_ ?_)
        mapWritable lists (isWritable_optionalPart writable) root
      · exact fun part inside => readable part (.key entries entry part rest member inside)
      · exact (Spec.isWritable_map.mp mapWritable entry member).2
  | union left right rest leftHypothesis rightHypothesis =>
      refine isDecided_union (leftHypothesis ?_ ?_) (rightHypothesis ?_ ?_) (readable _ (.self _))
      · exact fun part inside => readable part (.left left right part rest inside)
      · exact Spec.isWritable_tuple.mp writable left (by simp)
      · exact fun part inside => readable part (.right left right part rest inside)
      · exact Spec.isWritable_tuple.mp writable right (by simp)
  | cast input output rest inputHypothesis outputHypothesis =>
      refine isDecided_cast (inputHypothesis ?_ ?_) (outputHypothesis ?_ ?_)
        (readable _ (.self _)) writable
      · exact fun part inside => readable part (.input input output part rest inside)
      · exact Spec.isWritable_tuple.mp writable input (by simp)
      · exact fun part inside => readable part (.output input output part rest inside)
      · exact Spec.isWritable_tuple.mp writable output (by simp)
  | misshapen spec refused =>
      obtain ⟨cause, shown, refused⟩ := refused
      intro scope root
      rw [refused]
      exact tellsMistakes_refuse (shown writable)

end Forms

/-- With the built-in types and predicates, a specification is compiled or refused with a message
if its parts are readable and it can be written. -/
theorem compile_readable
    (spec : Spec)
    (readable : ∀ part, spec.HasPosition part → part.IsReadable)
    (writable : spec.IsWritable) :
    (∃ schema, Compiler.standard.compile spec .none = .ok schema) ∨
      ∃ cause, Compiler.standard.compile spec .none = .error (.definition cause) :=
  exists_ok_or_definition (isDecided_of_isReadable readable writable _ _)

/-- An age with a lower bound, and an owner with one alternative where there must be two. -/
def draftSpec : Spec :=
  .map
    [(.text "age",
      .tuple [.text "type", .text "integer", .list [.tuple [.text "gt?", .scalar (.int 18)]]]),
    (.text "owner", .list [.text "string"])]

theorem isReadable_draft : ∀ part, draftSpec.HasPosition part → part.IsReadable := by
  intro part inside
  cases inside with
  | self => trivial
  | entry entries entry part member inside =>
      simp only [List.mem_cons, List.not_mem_nil, or_false] at member
      rcases member with rfl | rfl
      · rw [Spec.hasPosition_type.mp inside]
        exact ⟨_, rfl, by simp⟩
      · cases inside with
        | self => trivial
        | alternative specs spec part member inside =>
            rw [List.mem_singleton] at member
            subst member
            cases inside with
            | self => trivial

theorem compile_readable_draft :
    ∃ cause, Compiler.standard.compile draftSpec .none = .error (.definition cause) := by
  refine (compile_readable draftSpec isReadable_draft ?_).resolve_left ?_
  · have bound : (Spec.scalar (.int 18)).IsWritable := Value.isWritable_of_small (by decide)
    simp [draftSpec, bound, Value.isWritable]
  · rintro ⟨schema, made⟩
    rw [draftSpec, compile, compileSpec_keys] at made
    obtain ⟨keys, chain, keysMade, -⟩ := compileMap_eq_ok.mp made
    obtain ⟨_, _, _, -, -, others, -⟩ := compileKeys_cons_eq_ok.mp keysMade
    obtain ⟨_, _, _, -, owner, -, -⟩ := compileKeys_cons_eq_ok.mp others
    rw [compileEntry_eq, compileSpec] at owner
    obtain ⟨type, refused, -⟩ := Attempt.bind_eq_ok.mp owner
    simp at refused

/-- A number in the place of the predicates cannot be gone through, and no message says so. -/
theorem compile_number_as_predicates :
    Compiler.standard.compile (.tuple [.text "type", .text "integer", .scalar (.int 5)]) .none =
      .error .wrongKind := by
  rw [compile, compileSpec_type]
  rfl

end Compiler
end DataContract
