import DataContract.Proofs.SchemaFile.Description
import DataContract.Proofs.Spec.Writing
import DataContract.SchemaFile.Unfolding

/-!
# Forms of loaded specifications

What is read from the entries of a schema file has few forms: predicates are lists of
names and of names with an argument, options are maps, and nothing is embedded or given
as a function. A property that values pass to their parts and back, as that of being
writable, is passed from an entry to the specification that is read from it.
-/

namespace DataContract
namespace Value

/-- Whether a value is nowhere inside itself: no sign for such a place stands in it. -/
inductive IsAcyclic : Value → Prop
  | scalar (content : Scalar) : IsAcyclic (.scalar content)
  | member
      (enumeration name : String)
      (content : Value)
      (inner : IsAcyclic content) :
      IsAcyclic (.member enumeration name content)
  | list
      (items : List Value)
      (each : ∀ item ∈ items, IsAcyclic item) :
      IsAcyclic (.list items)
  | tuple
      (items : List Value)
      (each : ∀ item ∈ items, IsAcyclic item) :
      IsAcyclic (.tuple items)
  | map
      (entries : Entries)
      (keys : ∀ entry ∈ entries, IsAcyclic entry.1)
      (values : ∀ entry ∈ entries, IsAcyclic entry.2) :
      IsAcyclic (.map entries)
  | record
      (form : RecordForm)
      (parts : List Value)
      (unsigned : form ≠ .sign)
      (each : ∀ part ∈ parts, IsAcyclic part) :
      IsAcyclic (.record form parts)
  | handle (label : String) : IsAcyclic (.handle label)

/-- Whether a property is that of all texts, and of a sequence or a map exactly if it is
one of all parts. -/
structure IsPervasive (property : Value → Prop) : Prop where
  /-- Texts have it. -/
  text : ∀ content, property (.text content)
  /-- A list has it if its items have it. -/
  list : ∀ items, property (.list items) ↔ ∀ item ∈ items, property item
  /-- A tuple has it if its items have it. -/
  tuple : ∀ items, property (.tuple items) ↔ ∀ item ∈ items, property item
  /-- A map has it if its keys and values have it. -/
  map : ∀ entries, property (.map entries) ↔
    ∀ entry ∈ entries, property entry.1 ∧ property entry.2

theorem isPervasive_isWritable : IsPervasive fun value => value.isWritable = true where
  text _ := rfl
  list _ := areWritable_iff
  tuple _ := areWritable_iff
  map _ := areWritableEntries_iff

theorem isPervasive_isAcyclic : IsPervasive IsAcyclic where
  text content := .scalar (.text content)
  list items := by
    constructor
    · rintro ⟨⟩
      assumption
    · exact .list items
  tuple items := by
    constructor
    · rintro ⟨⟩
      assumption
    · exact .tuple items
  map entries := by
    constructor
    · intro acyclic entry member
      cases acyclic with
      | map _ keys values => exact ⟨keys entry member, values entry member⟩
    · intro each
      exact .map entries (fun entry member => (each entry member).1)
        (fun entry member => (each entry member).2)

/-- Two properties that are passed to parts and back are so together. -/
theorem IsPervasive.and
    {property other : Value → Prop}
    (first : IsPervasive property)
    (second : IsPervasive other) :
    IsPervasive fun value => property value ∧ other value where
  text content := ⟨first.text content, second.text content⟩
  list items := by simp only [first.list, second.list, forall_and]
  tuple items := by simp only [first.tuple, second.tuple, forall_and]
  map entries := by
    simp only [first.map, second.map]
    grind

end Value

namespace SchemaFile

section Sign

theorem anyHasSign_eq_false
    {items : List Value}
    (each : ∀ item ∈ items, hasSign item = false) :
    anyHasSign items = false := by
  induction items with
  | nil => rfl
  | cons item rest hypothesis =>
      rw [List.forall_mem_cons] at each
      rw [anyHasSign, each.1, hypothesis each.2]
      rfl

theorem anyEntryHasSign_eq_false
    {entries : Entries}
    (each : ∀ entry ∈ entries, hasSign entry.2 = false) :
    anyEntryHasSign entries = false := by
  induction entries with
  | nil => rfl
  | cons entry rest hypothesis =>
      rw [List.forall_mem_cons] at each
      rw [anyEntryHasSign, each.1, hypothesis each.2]
      rfl

/-- No sign stands in a value that is nowhere inside itself. -/
theorem hasSign_eq_false
    {value : Value}
    (acyclic : value.IsAcyclic) :
    hasSign value = false := by
  induction acyclic with
  | scalar content => rfl
  | member enumeration name content inner hypothesis => rwa [hasSign]
  | list items each hypothesis => rw [hasSign, anyHasSign_eq_false hypothesis]
  | tuple items each hypothesis => rw [hasSign, anyHasSign_eq_false hypothesis]
  | map entries keys values keysHypothesis hypothesis =>
      rw [hasSign, anyEntryHasSign_eq_false hypothesis]
  | record form parts unsigned each hypothesis =>
      rw [hasSign, anyHasSign_eq_false hypothesis]
      exact unsigned
  | handle label => rfl

end Sign

/-- Whether predicates are listed as entries list them: none of them is a map, and they
have a property. -/
def AreListed
    (property : Value → Prop)
    (predicates : List Spec) : Prop :=
  ∀ predicate ∈ predicates, property predicate.toValue ∧ ∀ entries, predicate ≠ .map entries

/-- Specifications of the forms that entries are read as. What is taken from the entries as
it is has a property, and the options of casts are given as may be. -/
inductive IsLoaded
    (property : Value → Prop)
    (given : Entries → Prop) : Spec → Prop
  | name (name : String) : IsLoaded property given (.text name)
  | keys
      (entries : List (Value × Spec))
      (names : ∀ entry ∈ entries, property entry.1)
      (each : ∀ entry ∈ entries, IsLoaded property given entry.2) :
      IsLoaded property given (.map entries)
  | type
      (name : Value)
      (predicates : List Spec)
      (held : property name)
      (listed : AreListed property predicates) :
      IsLoaded property given (.tuple [.text "type", .ofValue name, .list predicates])
  | list
      (spec : Spec)
      (predicates : List Spec)
      (inner : IsLoaded property given spec)
      (listed : AreListed property predicates) :
      IsLoaded property given (.tuple [.text "list", spec, .list predicates])
  | map
      (entries : List (Value × Spec))
      (predicates : List Spec)
      (names : ∀ entry ∈ entries, property entry.1)
      (each : ∀ entry ∈ entries, IsLoaded property given entry.2)
      (listed : AreListed property predicates) :
      IsLoaded property given (.tuple [.text "map", .map entries, .list predicates])
  | union
      (specs : List Spec)
      (each : ∀ spec ∈ specs, IsLoaded property given spec) :
      IsLoaded property given (.list specs)
  | cast
      (source output : Spec)
      (options : Entries)
      (sourceLoaded : IsLoaded property given source)
      (outputLoaded : IsLoaded property given output)
      (held : property (.map options))
      (allowed : given options) :
      IsLoaded property given
        (.tuple [.text "cast", source, output, .map (Spec.ofEntries options)])

section Loaded

variable
  {property : Value → Prop}
  {given : Entries → Prop}
  {location : String}
  {spec result : Spec}
  {own extra : List Spec}

theorem AreListed.append
    (first : AreListed property own)
    (second : AreListed property extra) :
    AreListed property (own ++ extra) := by
  intro predicate member
  rw [List.mem_append] at member
  exact member.elim (first predicate) (second predicate)

theorem areWithin_iff
    (pervasive : Value.IsPervasive property)
    {specs : List Spec} :
    property (Spec.list specs).toValue ↔ ∀ spec ∈ specs, property spec.toValue := by
  rw [Spec.toValue, pervasive.list, Spec.toValues_eq_map, List.forall_mem_map]

/-- A loaded specification has the properties of what it is taken from. -/
theorem IsLoaded.holds
    (pervasive : Value.IsPervasive property)
    (loaded : IsLoaded property given spec) :
    property spec.toValue := by
  have plain (content : String) : property (Spec.text content).toValue := pervasive.text content
  have predicates {own : List Spec} (listed : AreListed property own) :
      property (Spec.list own).toValue :=
    (areWithin_iff pervasive).mpr fun predicate member => (listed predicate member).1
  have keys {entries : List (Value × Spec)} (names : ∀ entry ∈ entries, property entry.1)
      (each : ∀ entry ∈ entries, property entry.2.toValue) :
      property (Spec.map entries).toValue := by
    rw [Spec.toValue, pervasive.map, Spec.toEntries_eq_map, List.forall_mem_map]
    exact fun entry member => ⟨names entry member, each entry member⟩
  have form {parts : List Spec} (each : ∀ part ∈ parts, property part.toValue) :
      property (Spec.tuple parts).toValue := by
    rwa [Spec.toValue, pervasive.tuple, Spec.toValues_eq_map, List.forall_mem_map]
  induction loaded with
  | name name => exact plain name
  | keys entries names each hypothesis => exact keys names hypothesis
  | type name own held listed =>
      refine form ?_
      simp [plain, predicates listed, held]
  | list spec own inner listed hypothesis =>
      refine form ?_
      simp [plain, predicates listed, hypothesis]
  | map entries own names each listed hypothesis =>
      refine form ?_
      simp [plain, predicates listed, keys names hypothesis]
  | union specs each hypothesis => exact (areWithin_iff pervasive).mpr hypothesis
  | cast source output options _ _ held allowed sourceHypothesis outputHypothesis =>
      refine form ?_
      have same : (Spec.map (Spec.ofEntries options)).toValue = .map options := by
        rw [Spec.toValue, Spec.toEntries_ofEntries]
      simp [plain, sourceHypothesis, outputHypothesis, same, held]

/-- Several specifications stay loaded with further predicates if each does. -/
theorem forall_isLoaded_of_constrainedAll
    {specs results : List Spec}
    (each : ∀ spec ∈ specs, ∀ result, constrained location extra spec = .ok result →
      IsLoaded property given result)
    (made : constrainedAll location extra specs = .ok results) :
    ∀ result ∈ results, IsLoaded property given result := by
  induction specs generalizing results with
  | nil =>
      cases made
      simp
  | cons spec rest hypothesis =>
      rw [List.forall_mem_cons] at each
      simp only [constrainedAll, Attempt.bind_eq_ok, Except.ok.injEq] at made
      obtain ⟨first, firstMade, others, othersMade, rfl⟩ := made
      rw [List.forall_mem_cons]
      exact ⟨each.1 first firstMade, hypothesis each.2 othersMade⟩

/-- A loaded specification is one with further predicates, too. -/
theorem IsLoaded.constrained
    (pervasive : Value.IsPervasive property)
    (loaded : IsLoaded property given spec)
    (listed : AreListed property extra)
    (made : SchemaFile.constrained location extra spec = .ok result) :
    IsLoaded property given result := by
  induction loaded generalizing result with
  | name name =>
      cases made
      exact .type (.text name) extra (pervasive.text name) listed
  | keys entries names each _ =>
      cases made
      exact .map entries extra names each listed
  | type name own held ownListed =>
      cases made
      exact .type name (own ++ extra) held (ownListed.append listed)
  | list spec own inner ownListed _ =>
      cases made
      exact .list spec (own ++ extra) inner (ownListed.append listed)
  | map entries own names each ownListed _ =>
      cases made
      exact .map entries (own ++ extra) names each (ownListed.append listed)
  | union specs each hypothesis =>
      obtain ⟨results, resultsMade, same⟩ := Attempt.bind_eq_ok.mp made
      cases same
      refine .union results (forall_isLoaded_of_constrainedAll ?_ resultsMade)
      exact fun spec member result made => hypothesis spec member made
  | cast source output options first _ held allowed _ outputHypothesis =>
      obtain ⟨second, secondMade, same⟩ := Attempt.bind_eq_ok.mp made
      cases same
      exact .cast source second options first (outputHypothesis secondMade) held allowed

theorem IsLoaded.withPredicates
    (pervasive : Value.IsPervasive property)
    (loaded : IsLoaded property given spec)
    (listed : AreListed property extra)
    (made : SchemaFile.withPredicates location extra spec = .ok result) :
    IsLoaded property given result := by
  unfold SchemaFile.withPredicates at made
  split at made
  · cases made
    exact loaded
  · exact loaded.constrained pervasive listed made

end Loaded

section Parts

variable
  {property : Value → Prop}
  {location : String}
  {entries : Entries}
  {description : Description}
  {predicates : List Spec}

/-- What stands under a key of a map has the properties of the map. -/
theorem holds_of_get?
    (pervasive : Value.IsPervasive property)
    (held : property (.map entries))
    {key value : Value}
    (found : Entries.get? entries key = some value) :
    property value := by
  obtain ⟨entry, first, rfl⟩ := Option.map_eq_some_iff.mp found
  exact ((pervasive.map entries).mp held entry (List.mem_of_find?_eq_some first)).2

/-- The values that a description is made of. -/
def Description.values : Description → List Value
  | .type name => [name]
  | .list member => [member]
  | .map keys => [.map keys]
  | .union options => [.list options]
  | .cast source output options => [source, output, .map options]

/-- What is described has the properties of the map that describes it. -/
theorem StandsIn.holds
    (pervasive : Value.IsPervasive property)
    (held : property (.map entries))
    (stands : StandsIn entries description) :
    ∀ value ∈ description.values, property value := by
  cases stands with
  | type name found => simpa [Description.values] using holds_of_get? pervasive held found
  | list member found => simpa [Description.values] using holds_of_get? pervasive held found
  | map keys found => simpa [Description.values] using holds_of_get? pervasive held found
  | union options found => simpa [Description.values] using holds_of_get? pervasive held found
  | cast given source output found foundFrom foundTo =>
      have whole := holds_of_get? pervasive held found
      have first := holds_of_get? pervasive whole foundFrom
      have second := holds_of_get? pervasive whole foundTo
      have rest : property (.map (castOptions given)) := by
        rw [pervasive.map] at whole ⊢
        exact fun entry member => whole entry (List.mem_filter.mp member).1
      simp [Description.values, first, second, rest]

/-- The entries inside what is described have the properties of what it is made of. -/
theorem Description.holds_entries
    (pervasive : Value.IsPervasive property)
    (held : ∀ value ∈ description.values, property value) :
    ∀ part ∈ description.entries, property part := by
  intro part inside
  cases description with
  | type name => simp [Description.entries] at inside
  | list member => exact held part inside
  | map keys =>
      obtain ⟨key, member, rfl⟩ := List.mem_map.mp inside
      exact ((pervasive.map keys).mp (held _ (by simp [Description.values])) key member).2
  | union options =>
      exact (pervasive.list options).mp (held _ (by simp [Description.values])) part inside
  | cast source output options =>
      refine held part ?_
      simp only [Description.entries, List.mem_cons, List.not_mem_nil, or_false] at inside
      simpa [Description.values] using .imp_right .inl inside

/-- One predicate of an entry is read as a name or a name with an argument. -/
theorem areListed_of_predicateOf
    (pervasive : Value.IsPervasive property)
    {item : Value}
    (held : property item)
    {predicate : Spec}
    (read : predicateOf location item = .ok predicate) :
    property predicate.toValue ∧ ∀ entries, predicate ≠ .map entries := by
  unfold predicateOf at read
  split at read
  · cases read
    exact ⟨by rwa [Spec.toValue_ofValue], by simp [Spec.ofValue]⟩
  · rename_i name arg
    cases read
    rw [pervasive.map] at held
    have both := held (name, arg) (by simp)
    refine ⟨?_, by simp⟩
    rw [Spec.toValue, pervasive.tuple]
    simpa [Spec.toValues] using both
  · simp at read

/-- The predicates of an entry are listed with its properties. -/
theorem areListed_of_predicatesOf
    (pervasive : Value.IsPervasive property)
    {given : Option Value}
    (held : ∀ value ∈ given, property value)
    (read : predicatesOf location given = .ok predicates) :
    AreListed property predicates := by
  unfold predicatesOf at read
  split at read
  · cases read
    simp [AreListed]
  · rename_i items
    have items := (pervasive.list items).mp (held _ rfl)
    intro predicate member
    obtain ⟨item, inside, read⟩ :=
      Attempt.exists_item_of_mem (Attempt.mapM_eq_ok.mp read) member
    exact areListed_of_predicateOf pervasive (items item inside) read
  · rename_i item _
    obtain ⟨predicate, itemRead, same⟩ := Attempt.bind_eq_ok.mp read
    cases same
    rw [AreListed, List.forall_mem_singleton]
    exact areListed_of_predicateOf pervasive (held _ rfl) itemRead

theorem Describes.areListed
    (pervasive : Value.IsPervasive property)
    (held : property (.map entries))
    (describes : Describes entries description predicates) :
    AreListed property predicates := by
  obtain ⟨location, read⟩ := describes.listed
  exact areListed_of_predicatesOf pervasive (fun _ found => holds_of_get? pervasive held found) read

theorem Describes.holds
    (pervasive : Value.IsPervasive property)
    (held : property (.map entries))
    (describes : Describes entries description predicates) :
    ∀ value ∈ description.values, property value := by
  obtain ⟨location, described⟩ := describes.described
  exact (standsIn_of_describe described).holds pervasive held

end Parts

/-- Whether an entry is read where another one is read: it is the whole, or is read where
an entry inside the whole is. -/
inductive HasEntry : Value → Value → Prop
  | self (entry : Value) : HasEntry entry entry
  | key
      (entries : Entries)
      (key : Value × Value)
      (part : Value)
      (plain : describesType entries = false)
      (member : key ∈ entries)
      (inside : HasEntry key.2 part) :
      HasEntry (.map entries) part
  | inner
      (entries : Entries)
      (description : Description)
      (entry part : Value)
      (location : String)
      (reserved : describesType entries = true)
      (described : describe location entries = .ok description)
      (member : entry ∈ description.entries)
      (inside : HasEntry entry part) :
      HasEntry (.map entries) part

/-- Whether an entry describes a cast with some options. -/
def DescribesCast
    (entry : Value)
    (options : Entries) : Prop :=
  ∃ entries location source output,
    entry = .map entries ∧ describesType entries = true ∧
      describe location entries = .ok (.cast source output options)

section Loading

variable
  {property : Value → Prop}
  {given : Entries → Prop}
  {location : String}

/-- Whether the casts in an entry are given options as may be. -/
def AllowsCasts
    (given : Entries → Prop)
    (entry : Value) : Prop :=
  ∀ part options, HasEntry entry part → DescribesCast part options → given options

theorem Describes.allowsCasts
    {entries : Entries}
    {description : Description}
    {predicates : List Spec}
    (describes : Describes entries description predicates)
    (allowed : AllowsCasts given (.map entries)) :
    ∀ part ∈ description.entries, AllowsCasts given part := by
  obtain ⟨location, described⟩ := describes.described
  intro entry member part options inside
  exact allowed part options
    (.inner entries description entry part location describes.reserved described member inside)

/-- Whether a specification is loaded with the properties of an entry. -/
def IsLoadedFrom
    (property : Value → Prop)
    (given : Entries → Prop)
    (entry : Value)
    (spec : Spec) : Prop :=
  property entry → AllowsCasts given entry → IsLoaded property given spec

/-- The name that a name declares has its properties. -/
theorem holds_declared
    (pervasive : Value.IsPervasive property)
    {name : Value}
    (held : property name) :
    property (declared name).2 := by
  unfold declared
  split
  · split
    · exact pervasive.text _
    · exact held
  · exact held

/-- The key for a name has the properties of the name. -/
theorem holds_keyOf
    (pervasive : Value.IsPervasive property)
    {name : Value}
    (held : property name) :
    property (keyOf (declared name)) := by
  rw [keyOf, pervasive.tuple]
  simp [pervasive.text, holds_declared pervasive held]

/-- The keys that are read have the properties of the entries, and so do their
specifications. -/
theorem holds_of_readsKeys
    (pervasive : Value.IsPervasive property)
    {entries : Entries}
    {keys : List (Value × Spec)}
    (held : property (.map entries))
    (allowed : ∀ entry ∈ entries, AllowsCasts given entry.2)
    (read : List.Forall₂ (ReadsKey (IsLoadedFrom property given)) entries keys) :
    ∀ key ∈ keys, property key.1 ∧ IsLoaded property given key.2 := by
  rw [pervasive.map] at held
  intro key member
  obtain ⟨entry, inside, reads⟩ := Attempt.exists_item_of_mem read member
  rw [reads.name]
  exact ⟨holds_keyOf pervasive (held entry inside).1,
    reads.value (held entry inside).2 (allowed entry inside)⟩

/-- What is read from an entry is loaded with the properties of the entry. -/
theorem isLoaded_of_parseEntry
    (pervasive : Value.IsPervasive property)
    {entry : Value}
    {spec : Spec}
    (held : property entry)
    (allowed : AllowsCasts given entry)
    (parsed : parseEntry location entry = .ok spec) :
    IsLoaded property given spec := by
  revert held allowed
  refine parseEntry_induct ?name ?keys ?type ?list ?map ?union ?cast parsed
  case name =>
    intro name _ _
    exact .name name
  case keys =>
    intro entries specs plain read held allowed
    have keys := holds_of_readsKeys pervasive held
      (fun entry member part options inside =>
        allowed part options (.key entries entry part plain member inside)) read
    exact .keys specs (fun key member => (keys key member).1)
      (fun key member => (keys key member).2)
  case type =>
    intro entries name predicates describes held _
    have values := describes.holds pervasive held
    exact .type name predicates (values name (by simp [Description.values]))
      (describes.areListed pervasive held)
  case list =>
    intro entries member spec predicates describes hypothesis held allowed
    have values := describes.holds pervasive held
    have inner := hypothesis (values member (by simp [Description.values]))
      (describes.allowsCasts allowed member (by simp [Description.entries]))
    exact .list spec predicates inner (describes.areListed pervasive held)
  case map =>
    intro entries keys specs predicates describes read held allowed
    have values := describes.holds pervasive held
    have made := holds_of_readsKeys pervasive
      (values (.map keys) (by simp [Description.values]))
      (fun entry member => describes.allowsCasts allowed entry.2 (List.mem_map_of_mem member)) read
    exact .map specs predicates (fun key member => (made key member).1)
      (fun key member => (made key member).2) (describes.areListed pervasive held)
  case union =>
    intro entries options specs predicates location spec describes read made held allowed
    have values := describes.holds pervasive held
    have listed := describes.areListed pervasive held
    refine IsLoaded.withPredicates pervasive (.union specs fun spec member => ?_) listed made
    obtain ⟨option, inside, loads⟩ := Attempt.exists_item_of_mem read member
    exact loads (Description.holds_entries pervasive values option inside)
      (describes.allowsCasts allowed option inside)
  case cast =>
    intro entries source output options input result predicates location spec describes
      sourceHypothesis outputHypothesis made held allowed
    have values := describes.holds pervasive held
    have casts := describes.allowsCasts allowed
    have listed := describes.areListed pervasive held
    simp only [Description.values, List.forall_mem_cons] at values
    obtain ⟨sourceHeld, outputHeld, optionsHeld, -⟩ := values
    have input := sourceHypothesis sourceHeld (casts source (by simp [Description.entries]))
    have result := outputHypothesis outputHeld (casts output (by simp [Description.entries]))
    obtain ⟨place, described⟩ := describes.described
    have options := allowed (.map entries) options (.self _)
      ⟨entries, place, source, output, rfl, describes.reserved, described⟩
    exact IsLoaded.withPredicates pervasive (.cast _ _ _ input result optionsHeld options) listed
      made

/-- What is read from a document is loaded with the properties of the document. -/
theorem isLoaded_of_parseKeys
    (pervasive : Value.IsPervasive property)
    {document : Entries}
    {keys : List (Value × Spec)}
    (held : property (.map document))
    (allowed : ∀ entry ∈ document, AllowsCasts given entry.2)
    (parsed : parseKeys location document = .ok keys) :
    IsLoaded property given (.map keys) := by
  have read : List.Forall₂ (ReadsKey (IsLoadedFrom property given)) document keys :=
    forall₂_of_parseKeys (fun _ _ _ _ parsed held allowed =>
      isLoaded_of_parseEntry pervasive held allowed parsed) parsed
  have made := holds_of_readsKeys pervasive held allowed read
  exact .keys keys (fun key member => (made key member).1) fun key member => (made key member).2

end Loading

end SchemaFile
end DataContract
