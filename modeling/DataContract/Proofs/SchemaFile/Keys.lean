import DataContract.Proofs.SchemaFile.Numbering
import DataContract.Proofs.Value.Equivalence

/-!
# Keys from documents to schemas

A key of a document says with a question mark that it is optional. In a specification this is a
presence beside the name, and in a schema a part of the key. Nothing is lost on the way: the map of
keys of a document is a map of as many keys in the specification, and of these keys in the schema.
The names in it can only get into each other's way when a text stands there with and without a
question mark, and this is also the only way in which keys can keep a document from being compiled.
-/

namespace DataContract

/-- Whether a key of a schema stands for a key of a document: an optional one for a text behind a
question mark, and a required one for anything else. -/
inductive Key.StandsFor (key : Key) : Value → Prop
  | optional
      (rest : String)
      (presence : key.presence = .optional)
      (named : key.name = .text rest) :
      StandsFor key (.text ("?" ++ rest))
  | required
      (name : Value)
      (plain : ∀ rest, name ≠ .text ("?" ++ rest))
      (presence : key.presence = .required)
      (named : key.name = name) :
      StandsFor key name

/-- Whether entries can stand in one map: no key equals an earlier one, and none that is not a
number comes from the place of an earlier one. -/
def Entries.AreApart (entries : Entries) : Prop :=
  entries.Pairwise fun earlier later =>
    later.1.sameKey earlier.1 = false ∧ later.1.isSame earlier.1 = false

instance (entries : Entries) : Decidable entries.AreApart :=
  inferInstanceAs (Decidable (List.Pairwise _ entries))

namespace SchemaFile

/-- Whether a map of keys has a text without a question mark in front, and also with one. -/
def Clashes (keys : Entries) : Prop :=
  ∃ content, (∀ rest, content ≠ "?" ++ rest) ∧
    Value.text content ∈ keys.map Prod.fst ∧ Value.text ("?" ++ content) ∈ keys.map Prod.fst

/-- Whether the entries of a map specification are the keys of a map in a document, one for each
and in their order, and none gets into the way of another. -/
structure AreReadAs
    (mapping : Entries)
    (entries : List (Value × Spec)) : Prop where
  /-- Every entry is read as a key of its name. -/
  each : List.Forall₂ KeepsName mapping entries
  /-- No key equals another. -/
  distinct : Entries.AreDistinct entries

section Names

variable {name other : Value}

theorem declared_marked (rest : String) :
    declared (.text ("?" ++ rest)) = (.optional, .text rest) := by
  simp [declared]

theorem declared_plain (plain : ∀ rest, name ≠ .text ("?" ++ rest)) :
    declared name = (.required, name) := by
  unfold declared
  split
  · rename_i content
    split
    · rename_i rest marked
      refine absurd (congrArg Value.text ?_) (plain (String.ofList rest))
      exact String.toList_injective (by simp [marked])
    · rfl
  · rfl

@[simp] theorem declaredKey_keyOf (key : Presence × Value) :
    Compiler.declaredKey (keyOf key) = key := by
  obtain ⟨presence, name⟩ := key
  cases presence <;> rfl

/-- A name is a text behind a question mark and declared as optional, or declared as it is. -/
theorem declared_cases (name : Value) :
    (∃ rest, name = .text ("?" ++ rest) ∧ declared name = (.optional, .text rest)) ∨
      (∀ rest, name ≠ .text ("?" ++ rest)) ∧ declared name = (.required, name) := by
  by_cases marked : ∃ rest, name = .text ("?" ++ rest)
  · obtain ⟨rest, rfl⟩ := marked
    exact .inl ⟨rest, rfl, declared_marked rest⟩
  · have plain : ∀ rest, name ≠ .text ("?" ++ rest) := fun rest same => marked ⟨rest, same⟩
    exact .inr ⟨plain, declared_plain plain⟩

/-- What is made for a name that is declared stands for it. -/
theorem standsFor_of_declared
    {key : Key}
    (made : declared name = (key.presence, key.name)) :
    key.StandsFor name := by
  obtain ⟨presence, named⟩ := Prod.ext_iff.mp made
  obtain ⟨rest, rfl, optional⟩ | ⟨plain, required⟩ := declared_cases name
  · rw [optional] at presence named
    exact .optional rest presence.symm named.symm
  · rw [required] at presence named
    exact .required name plain presence.symm named.symm

/-- Two names that differ declare the same name only if one of them is the other one behind a
question mark. -/
theorem exists_marked_of_sameKey_declared
    (differ : name.sameKey other = false)
    (same : (declared name).2.sameKey (declared other).2 = true) :
    ∃ content, (∀ rest, content ≠ "?" ++ rest) ∧
      (name = .text ("?" ++ content) ∧ other = .text content ∨
        name = .text content ∧ other = .text ("?" ++ content)) := by
  obtain ⟨rest, rfl, optional⟩ | ⟨plain, required⟩ := declared_cases name
  · obtain ⟨otherRest, rfl, otherOptional⟩ | ⟨otherPlain, otherRequired⟩ := declared_cases other
    · rw [optional, otherOptional, Value.sameKey_text] at same
      cases same
      rw [Value.sameKey_self] at differ
      cases differ
    · rw [optional, otherRequired, Value.sameKey_text] at same
      obtain rfl : other = .text rest := same
      exact ⟨rest, fun inner same => otherPlain inner (congrArg Value.text same), .inl ⟨rfl, rfl⟩⟩
  · obtain ⟨otherRest, rfl, otherOptional⟩ | ⟨otherPlain, otherRequired⟩ := declared_cases other
    · rw [required, otherOptional, Value.sameKey_text_right] at same
      obtain rfl : name = .text otherRest := same
      exact ⟨otherRest, fun inner same => plain inner (congrArg Value.text same),
        .inr ⟨rfl, rfl⟩⟩
    · rw [required, otherRequired, differ] at same
      cases same

/-- Pairs of a text and something else are the same key only if the texts are the same and the
others equal or come from one place. -/
theorem sameKey_pair
    {word otherWord : String}
    (same : (Value.tuple [.text word, name]).sameKey (.tuple [.text otherWord, other]) = true) :
    word = otherWord ∧ (name.sameKey other = true ∨ name.isSame other = true) := by
  obtain identical | ⟨equal, agree⟩ := Value.sameKey_iff.mp same
  · cases identical
    exact ⟨rfl, .inl (Value.sameKey_self name)⟩
  · simp only [Value.equals, List.length_cons, List.length_nil, if_true, Value.equalsItems,
      Value.bind_ite_eq_true, and_true] at equal
    obtain ⟨words, others⟩ := equal
    have sameWord : word = otherWord := by
      simpa [Value.isSame, Scalar.isSame, Scalar.equals, Scalar.number?] using words
    refine ⟨sameWord, ?_⟩
    by_cases place : name.isSame other = true
    · exact .inr place
    · rw [if_neg place] at others
      have agrees : name.agrees other = true := by
        simpa [Value.agrees, Value.agreesItems] using agree
      exact .inl (Value.sameKey_iff.mpr (.inr ⟨others, agrees⟩))

/-- Names that are apart are written to specifications as different keys. -/
theorem sameKey_keyOf_declared
    (differ : name.sameKey other = false)
    (apart : name.isSame other = false) :
    (keyOf (declared name)).sameKey (keyOf (declared other)) = false := by
  rw [Bool.eq_false_iff]
  intro same
  obtain ⟨presence, equal⟩ := sameKey_pair same
  obtain ⟨rest, rfl, optional⟩ | ⟨-, required⟩ := declared_cases name
  · obtain ⟨otherRest, rfl, otherOptional⟩ | ⟨-, otherRequired⟩ := declared_cases other
    · simp only [optional, otherOptional, Value.sameKey_text, Value.isSame, Scalar.isSame,
        Bool.false_eq_true, or_false] at equal
      cases equal
      rw [Value.sameKey_self] at differ
      cases differ
    · rw [optional, otherRequired] at presence
      simp [Presence.name] at presence
  · obtain ⟨otherRest, rfl, otherOptional⟩ | ⟨-, otherRequired⟩ := declared_cases other
    · rw [required, otherOptional] at presence
      simp [Presence.name] at presence
    · rw [required, otherRequired, differ, apart] at equal
      simp at equal

end Names

section Maps

variable
  {mapping : Entries}
  {entries : List (Value × Spec)}

/-- In a map the names that entries declare are all different unless the map has a text with and
without a question mark. -/
theorem pairwise_declared_iff (apart : mapping.AreApart) :
    (mapping.Pairwise fun earlier later =>
      (declared later.1).2.sameKey (declared earlier.1).2 = false) ↔ ¬ Clashes mapping := by
  constructor
  · rintro each ⟨content, plain, without, marked⟩
    obtain ⟨first, firstMember, named⟩ := List.mem_map.mp without
    obtain ⟨second, secondMember, markedName⟩ := List.mem_map.mp marked
    have unmarked (rest : String) : first.1 ≠ .text ("?" ++ rest) := by
      rw [named]
      rintro ⟨⟩
      exact plain rest rfl
    have differ : first ≠ second := fun same => unmarked content (same ▸ markedName)
    have firstDeclares : (declared first.1).2 = .text content := by
      rw [declared_plain unmarked, named]
    have secondDeclares : (declared second.1).2 = .text content := by
      rw [markedName, declared_marked]
    let both (entry other : Value × Value) : Prop :=
      (declared entry.1).2 = .text content ∧ (declared other.1).2 = .text content
    have never : mapping.Pairwise fun entry other => ¬ both entry other := by
      refine each.imp fun differ same => ?_
      rw [same.1, same.2, Value.sameKey_self] at differ
      cases differ
    have symmetric : Std.Symm fun entry other => ¬ both entry other :=
      ⟨fun _ _ apart same => apart ⟨same.2, same.1⟩⟩
    exact never.forall firstMember secondMember differ ⟨firstDeclares, secondDeclares⟩
  · intro free
    refine List.Pairwise.imp_of_mem ?_ apart
    intro earlier later earlierMember laterMember apart
    rw [Bool.eq_false_iff]
    intro same
    obtain ⟨content, plain, ⟨marked, bare⟩ | ⟨bare, marked⟩⟩ :=
      exists_marked_of_sameKey_declared apart.1 same
    · refine free ⟨content, plain, ?_, ?_⟩
      · exact bare ▸ List.mem_map_of_mem earlierMember
      · exact marked ▸ List.mem_map_of_mem laterMember
    · refine free ⟨content, plain, ?_, ?_⟩
      · exact bare ▸ List.mem_map_of_mem laterMember
      · exact marked ▸ List.mem_map_of_mem earlierMember

/-- The entries of a specification declare a name twice exactly if there is a clash in the map that
they are read from. -/
theorem declaresTwice_iff_clashes
    (apart : mapping.AreApart)
    (each : List.Forall₂ KeepsName mapping entries) :
    DeclaresTwice entries ↔ Clashes mapping := by
  have names : entries.map (fun entry => (Compiler.declaredKey entry.1).2) =
      mapping.map fun entry => (declared entry.1).2 := by
    clear apart
    induction each with
    | nil => rfl
    | cons same _ hypothesis =>
        rw [List.map_cons, List.map_cons, hypothesis, same, declaredKey_keyOf]
  rw [← not_iff_not, not_declaresTwice_iff, ← pairwise_declared_iff apart,
    ← List.pairwise_map (f := fun entry : Value × Spec => (Compiler.declaredKey entry.1).2)
      (R := fun earlier later => later.sameKey earlier = false), names, List.pairwise_map]

/-- What is read from a map has as many keys that are all different. -/
theorem areReadAs_of_forall₂
    (apart : mapping.AreApart)
    (each : List.Forall₂ KeepsName mapping entries) :
    AreReadAs mapping entries := by
  refine ⟨each, ?_⟩
  have names : entries.map Prod.fst = mapping.map fun entry => keyOf (declared entry.1) := by
    clear apart
    induction each with
    | nil => rfl
    | cons same _ hypothesis => rw [List.map_cons, List.map_cons, hypothesis, same]
  rw [Entries.AreDistinct, ← List.pairwise_map (f := Prod.fst)
    (R := fun earlier later : Value => later.sameKey earlier = false), names, List.pairwise_map]
  exact apart.imp fun differ => sameKey_keyOf_declared differ.1 differ.2

/-- The keys that are made for entries stand for the keys of the map that the entries are read
from. -/
theorem forall₂_standsFor
    {around : Path}
    {made : List Key}
    (read : List.Forall₂ KeepsName mapping entries)
    (keys : List.Forall₂ (Key.IsMadeFor around) entries made) :
    List.Forall₂ (fun entry key => key.StandsFor entry.1) mapping made := by
  induction read generalizing made with
  | nil =>
      cases keys
      exact .nil
  | cons same _ hypothesis =>
      cases keys with
      | cons first others =>
          have declares := Compiler.declares_iff.mp first.declared
          rw [same, declaredKey_keyOf] at declares
          exact .cons (standsFor_of_declared declares) (hypothesis others)

end Maps

section Document

variable
  {location : String}
  {document mapping : Entries}
  {keys entries : List (Value × Spec)}
  {steps : List Schema.Step}

/-- What is read from a document is loaded, whatever stands in it. -/
theorem isLoaded_of_parsed (parsed : parseKeys location document = .ok keys) :
    IsLoaded (fun _ => True) (fun _ => True) (.map keys) := by
  have pervasive : Value.IsPervasive fun _ => True := by
    constructor <;> simp
  exact isLoaded_of_parseKeys pervasive trivial (fun _ _ _ _ _ _ => trivial) parsed

/-- Each map of keys in a document is read as one in the specification. -/
theorem HasKeys.exists_holdsKeys
    (parsed : parseKeys location document = .ok keys)
    (has : HasKeys document steps mapping) :
    ∃ entries, (Spec.map keys).HoldsKeys steps entries ∧
      List.Forall₂ KeepsName mapping entries := by
  have mirrors : Mirrors (.map document) (.map keys) := mirrors_of_parseKeys parsed rfl rfl rfl
  obtain ⟨part, reaches, alike⟩ := mirrors.exists_reaches has
  obtain ⟨entries, own, each⟩ := alike.exists_entries
  exact ⟨entries, ⟨part, reaches, own⟩, each⟩

/-- Each map of keys in a specification is read from one in the document. -/
theorem exists_hasKeys_of_holdsKeys
    (parsed : parseKeys location document = .ok keys)
    (holds : (Spec.map keys).HoldsKeys steps entries) :
    ∃ mapping, HasKeys document steps mapping ∧
      List.Forall₂ KeepsName mapping entries := by
  have mirrors : Mirrors (.map document) (.map keys) := mirrors_of_parseKeys parsed rfl rfl rfl
  obtain ⟨part, reaches, own⟩ := holds
  obtain ⟨inner, found, alike⟩ := mirrors.exists_reaches_description reaches
  obtain ⟨mapping, rfl, each⟩ := alike.exists_mapping own
  exact ⟨mapping, found, each⟩

/-- A document has a clash exactly if its specification declares a name twice somewhere. -/
theorem declaresTwice_iff_exists_clashes
    (parsed : parseKeys location document = .ok keys)
    (apart : ∀ steps mapping, HasKeys document steps mapping → mapping.AreApart) :
    (∀ steps entries, (Spec.map keys).HoldsKeys steps entries → ¬ DeclaresTwice entries) ↔
      ¬ ∃ steps mapping, HasKeys document steps mapping ∧ Clashes mapping := by
  constructor
  · rintro once ⟨steps, mapping, has, clashes⟩
    obtain ⟨entries, holds, each⟩ := has.exists_holdsKeys parsed
    exact once steps entries holds
      ((declaresTwice_iff_clashes (apart steps mapping has) each).mpr clashes)
  · intro free steps entries holds twice
    obtain ⟨mapping, has, each⟩ := exists_hasKeys_of_holdsKeys parsed holds
    exact free ⟨steps, mapping, has,
      (declaresTwice_iff_clashes (apart steps mapping has) each).mp twice⟩

/-- The map of a schema that is compiled from a document has keys that stand for those of the map
of the document in the same place. -/
theorem exists_keysAt?_of_hasKeys
    {compiler : Compiler}
    {options : CompileOptions}
    {schema : Schema}
    (parsed : parseKeys location document = .ok keys)
    (made : compiler.compile (.map keys) options = .ok schema)
    (has : HasKeys document steps mapping) :
    ∃ made, schema.keysAt? steps = some made ∧
      List.Forall₂ (fun entry key => key.StandsFor entry.1) mapping made := by
  obtain ⟨entries, holds, each⟩ := has.exists_holdsKeys parsed
  obtain ⟨around, draws⟩ := holds.exists_draws []
  obtain ⟨keys, found, areMade⟩ := Compiler.provides_of_draws draws made
  exact ⟨keys, found, forall₂_standsFor each areMade.each⟩

/-- Each map of a schema that is compiled from a document comes from a map of keys in it, or stands
in a type that it names. -/
theorem hasKeys_or_namesType
    {compiler : Compiler}
    {options : CompileOptions}
    {schema : Schema}
    {found : List Key}
    (parsed : parseKeys location document = .ok keys)
    (made : compiler.compile (.map keys) options = .ok schema)
    (present : schema.keysAt? steps = some found) :
    (∃ mapping, HasKeys document steps mapping) ∨
      ∃ before after name, steps = before ++ after ∧ NamesType document before name ∧
        (compiler.types.types.lookup name).isSome = true := by
  obtain ⟨origin, leads⟩ := Compiler.hasOrigins compiler _ (.map keys) [options] _ _ schema steps
    made (Schema.isSome_optionsAt? present)
  obtain ⟨source, draws⟩ := leads.exists_draws []
  obtain ⟨entries, holds⟩ | ⟨before, after, part, name, split, reaches, named, registered⟩ :=
    (isLoaded_of_parsed parsed).exists_holdsKeys draws
  · obtain ⟨mapping, has, -⟩ := exists_hasKeys_of_holdsKeys parsed holds
    exact .inl ⟨mapping, has⟩
  · have mirrors : Mirrors (.map document) (.map keys) := mirrors_of_parseKeys parsed rfl rfl rfl
    obtain ⟨inner, found, alike⟩ := mirrors.exists_reaches_description reaches
    obtain rfl := alike.eq_type named
    exact .inr ⟨before, after, name, split, found, registered⟩

end Document

/-- The keys of a document are kept. They are read as a specification with one key for each entry
of each map of keys in it, in the same places and in order, and none replaces another; where a map
of keys stands in the specification, one stands in the document. If the specification is compiled,
the schema has a map in each of these places, with a key for each entry that stands for it, and all
its other maps are those of named types. It is compiled exactly if all the rest of it can be, that
is, if it is compiled with numbers in place of the keys, and no map of keys in the document has a
text both without a question mark in front and with one. -/
theorem parseKeys_keeps_keys
    {location : String}
    {document : Entries}
    {keys : List (Value × Spec)}
    (parsed : parseKeys location document = .ok keys)
    (apart : ∀ steps mapping, HasKeys document steps mapping → mapping.AreApart) :
    (∀ steps mapping, HasKeys document steps mapping →
      ∃ entries, (Spec.map keys).HoldsKeys steps entries ∧ AreReadAs mapping entries) ∧
    (∀ steps entries, (Spec.map keys).HoldsKeys steps entries →
      ∃ mapping, HasKeys document steps mapping ∧ AreReadAs mapping entries) ∧
    ∀ (compiler : Compiler) (options : CompileOptions),
      (∀ schema, compiler.compile (.map keys) options = .ok schema →
        (∀ steps mapping, HasKeys document steps mapping →
          ∃ made, schema.keysAt? steps = some made ∧
            List.Forall₂ (fun entry key => key.StandsFor entry.1) mapping made) ∧
        ∀ steps made, schema.keysAt? steps = some made →
          (∃ mapping, HasKeys document steps mapping) ∨
            ∃ before after name, steps = before ++ after ∧ NamesType document before name ∧
              (compiler.types.types.lookup name).isSome = true) ∧
      ((∃ schema, compiler.compile (.map keys) options = .ok schema) ↔
        (∃ schema, compiler.compile (Spec.map keys).numbered options = .ok schema) ∧
          ¬ ∃ steps mapping, HasKeys document steps mapping ∧ Clashes mapping) := by
  refine ⟨fun steps mapping has => ?_, fun steps entries holds => ?_, fun compiler options =>
    ⟨fun schema made => ⟨fun steps mapping => exists_keysAt?_of_hasKeys parsed made,
      fun steps found => hasKeys_or_namesType parsed made⟩, ?_⟩⟩
  · obtain ⟨entries, holds, each⟩ := has.exists_holdsKeys parsed
    exact ⟨entries, holds, areReadAs_of_forall₂ (apart steps mapping has) each⟩
  · obtain ⟨mapping, has, each⟩ := exists_hasKeys_of_holdsKeys parsed holds
    exact ⟨mapping, has, areReadAs_of_forall₂ (apart steps mapping has) each⟩
  · rw [Compiler.compiles_iff_numbered (isLoaded_of_parsed parsed) compiler options,
      declaresTwice_iff_exists_clashes parsed apart]

/-- A document of a book with a title, and maybe with some pages. -/
def bookDocument (pages : Entries) : Entries :=
  [(.text "title", .text "string"), (.text "?pages", .map pages)]

/-- In a map that only names types there are no further maps of keys. -/
theorem eq_of_hasKeys_of_names
    {document mapping : Entries}
    {steps : List Schema.Step}
    (names : ∀ entry ∈ document, ∃ name, entry.2 = .text name)
    (has : HasKeys document steps mapping) :
    mapping = document := by
  cases has with
  | here => rfl
  | inside _ inner _ entry steps rest member form reaches =>
      obtain ⟨before, key, after, rfl, -⟩ := mem_keyParts_iff.mp member
      obtain ⟨name, rfl⟩ := names (key, entry) (by simp)
      cases form
      cases reaches with
      | inside _ _ _ _ _ _ member => cases member

theorem areApart_of_hasKeys_book
    {pages mapping : Entries}
    {steps : List Schema.Step}
    (names : ∀ entry ∈ pages, ∃ name, entry.2 = .text name)
    (plain : describesType pages = false)
    (apart : pages.AreApart)
    (has : HasKeys (bookDocument pages) steps mapping) :
    mapping.AreApart := by
  cases has with
  | here =>
      simp only [Entries.AreApart, bookDocument, List.pairwise_cons, List.mem_singleton,
        forall_eq, List.not_mem_nil, false_implies, implies_true, List.Pairwise.nil, and_true]
      decide
  | inside _ inner _ entry steps rest member form reaches =>
      simp only [Description.parts, bookDocument, keyParts, List.mem_cons, Prod.mk.injEq,
        List.not_mem_nil, or_false] at member
      rcases member with ⟨-, rfl⟩ | ⟨-, rfl⟩
      · cases form
        cases reaches with
        | inside _ _ _ _ _ _ member => cases member
      · simp only [form?, plain, Bool.false_eq_true, if_false, Option.some.injEq] at form
        subst form
        exact eq_of_hasKeys_of_names names reaches ▸ apart

/-- The specification of a book with some pages. -/
def bookKeys (pages : List (Value × Spec)) : List (Value × Spec) :=
  [(.tuple [.text "required", .text "title"], .text "string"),
    (.tuple [.text "optional", .text "pages"], .map pages)]

/-- Pages with two keys for a number, one of them for one that may be missing. -/
def clashingPages : List (Value × Spec) :=
  [(.tuple [.text "required", .text "number"], .text "integer"),
    (.tuple [.text "optional", .text "number"], .text "string")]

theorem compile_bookKeys :
    (∃ schema, Compiler.standard.compile
      (.map (bookKeys [(.tuple [.text "optional", .text "number"], .text "integer")])) .none =
        .ok schema) ∧
      ∃ schema, Compiler.standard.compile (Spec.map (bookKeys clashingPages)).numbered .none =
        .ok schema := by
  have named (tag : Tag) (types : List (String × Spec)) (scope : Scope) :
      Compiler.compileName .standard types scope tag.name [] =
        .ok (.primitive tag [.typeCheck tag]) := by
    rw [Compiler.compileName, Tag.ofName?_name]
    rfl
  have string := named .string
  have integer := named .integer
  have apart : (Value.int 1).sameKey (.int 0) = false := by decide
  simp only [Tag.name] at string integer
  constructor
  · simp [bookKeys, Compiler.compile, Compiler.compileSpec, Compiler.compileMap,
      Compiler.compileKeys, Compiler.compileEntry, Compiler.declaredKey, string, integer]
    exact ⟨_, rfl⟩
  · simp [bookKeys, clashingPages, Spec.numbered, Spec.numberedEntries, Compiler.compile,
      Compiler.compileSpec, Compiler.compileMap, Compiler.compileKeys, Compiler.compileEntry,
      Compiler.declaredKey, string, integer, apart]
    exact ⟨_, rfl⟩

/-- Pages may have a number, but not a number that is there and another one that may be missing. -/
theorem parseKeys_keeps_keys_book :
    (∃ keys schema made,
      parseKeys "<schema>" (bookDocument [(.text "?number", .text "integer")]) = .ok keys ∧
      Compiler.standard.compile (.map keys) .none = .ok schema ∧
      schema.keysAt? [.key 1] = some made ∧
      List.Forall₂ (fun (entry : Value × Value) key => key.StandsFor entry.1)
        [(.text "?number", .text "integer")] made) ∧
    ∃ keys,
      parseKeys "<schema>" (bookDocument
        [(.text "number", .text "integer"), (.text "?number", .text "string")]) = .ok keys ∧
      (∃ schema, Compiler.standard.compile (Spec.map keys).numbered .none = .ok schema) ∧
      ∀ schema, Compiler.standard.compile (.map keys) .none ≠ .ok schema := by
  have inside (pages : Entries) (plain : describesType pages = false) :
      HasKeys (bookDocument pages) [.key 1] pages := by
    refine .inside _ (.map pages) _ (.map pages) [.key 1] [] ?_ ?_ (.here _)
    · exact List.mem_cons_of_mem _ List.mem_cons_self
    · rw [form?, plain, if_neg Bool.false_ne_true]
  have written (content : String) : (Value.text content).write = .ok content := rfl
  have single : describesType [(.text "?number", .text "integer")] = false := by decide
  have double : describesType
      [(.text "number", .text "integer"), (.text "?number", .text "string")] = false := by
    decide
  constructor
  · have parsed : parseKeys "<schema>" (bookDocument [(.text "?number", .text "integer")]) =
        .ok (bookKeys [(.tuple [.text "optional", .text "number"], .text "integer")]) := by
      simp [bookDocument, parseKeys, parseEntry, single, declared, keyOf, Presence.name, written,
        bookKeys]
    obtain ⟨schema, compiled⟩ := compile_bookKeys.1
    have kept := parseKeys_keeps_keys parsed fun steps mapping =>
      areApart_of_hasKeys_book (by simp) single (by decide)
    obtain ⟨made, found, stands⟩ :=
      ((kept.2.2 .standard .none).1 schema compiled).1 _ _ (inside _ single)
    exact ⟨_, schema, made, parsed, compiled, found, stands⟩
  · have parsed : parseKeys "<schema>" (bookDocument
        [(.text "number", .text "integer"), (.text "?number", .text "string")]) =
          .ok (bookKeys clashingPages) := by
      simp [bookDocument, parseKeys, parseEntry, double, declared, keyOf, Presence.name, written,
        bookKeys, clashingPages]
    have kept := parseKeys_keeps_keys parsed fun steps mapping =>
      areApart_of_hasKeys_book (by simp) double (by decide)
    refine ⟨_, parsed, compile_bookKeys.2, fun schema compiled => ?_⟩
    have free := ((kept.2.2 .standard .none).2.mp ⟨schema, compiled⟩).2
    refine free ⟨_, _, inside _ double, "number", fun rest same => ?_, by simp, by simp⟩
    have first := congrArg (fun text => text.toList.head?) same
    simp at first

end SchemaFile
end DataContract
