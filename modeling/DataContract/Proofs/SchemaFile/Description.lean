import DataContract.Proofs.Attempt
import DataContract.SchemaFile.Entry

/-!
# What entries describe

A map with reserved words describes a type by the first of the words that is there, and
the entries inside it are those that this word has. Reading an entry is finding what it
describes and reading the entries inside. What is shown of the entries inside an entry
and of the whole is shown of all entries, and what is shown of the specifications that
are read from them of all specifications that are read.
-/

namespace DataContract
namespace SchemaFile

/-- What a map with reserved words describes. -/
inductive Description
  | type (name : Value)
  | list (member : Value)
  | map (keys : Entries)
  | union (options : List Value)
  | cast
      (source output : Value)
      (options : Entries)

/-- The entries of a cast besides its two sides. -/
def castOptions (entries : Entries) : Entries :=
  entries.filter fun entry => !(entry.1 == .text "from" || entry.1 == .text "to")

/-- The cast that is described by a value under the word for casts. -/
def describeCast
    (location : String)
    (given : Value) : Attempt Description :=
  match given with
  | .map entries =>
      match Entries.get? entries (.text "from"), Entries.get? entries (.text "to") with
      | some source, some output => .ok (.cast source output (castOptions entries))
      | _, _ => refuse (.castEntryIncomplete location)
  | _ => refuse (.castEntryIncomplete location)

/-- What a map with reserved words describes, by the first of them. -/
def describe
    (location : String)
    (entries : Entries) : Attempt Description :=
  match Entries.get? entries (.text "type") with
  | some name => .ok (.type name)
  | none =>
  match Entries.get? entries (.text "list") with
  | some member => .ok (.list member)
  | none =>
  match Entries.get? entries (.text "map") with
  | some (.map keys) => .ok (.map keys)
  | some _ => refuse (.mapEntryNotMapped location)
  | none =>
  match Entries.get? entries (.text "union") with
  | some (.list options) =>
      if options.length < 2 then refuse (.unionEntryTooShort location)
      else .ok (.union options)
  | some _ => refuse (.unionEntryTooShort location)
  | none =>
  match Entries.get? entries (.text "cast") with
  | some given => describeCast location given
  | none => refuse (.entryWithoutType location)

namespace Description

/-- The entries inside what is described. -/
def entries : Description → List Value
  | .type _ => []
  | .list member => [member]
  | .map keys => keys.map Prod.snd
  | .union options => options
  | .cast source output _ => [source, output]

/-- The specification of what is described, with predicates beside it. -/
def read
    (location : String)
    (predicates : List Spec) : Description → Attempt Spec
  | .type name => .ok (.tuple [.text "type", .ofValue name, .list predicates])
  | .list member => do
      let spec ← parseEntry (location ++ "[]") member
      .ok (.tuple [.text "list", spec, .list predicates])
  | .map keys => do
      .ok (.tuple [.text "map", .map (← parseKeys location keys), .list predicates])
  | .union options => do
      withPredicates location predicates (.list (← parseOptions location options))
  | .cast source output options => do
      let source ← parseEntry location source
      let output ← parseEntry location output
      withPredicates location predicates
        (.tuple [.text "cast", source, output, .map (Spec.ofEntries options)])

end Description

/-- The description of a cast is read by its two sides and its options. -/
theorem parseCast_eq
    (location : String)
    (predicates : List Spec)
    (given : Value) :
    (parseCast location given >>= withPredicates location predicates) =
      describeCast location given >>= Description.read location predicates := by
  cases given with
  | map entries =>
      rw [parseCast, describeCast]
      split
      · rename_i source output foundFrom foundTo
        simp [foundFrom, foundTo, Description.read, castOptions]
      · rename_i absent
        split
        · rename_i source output foundFrom foundTo
          exact (absent source output foundFrom foundTo).elim
        · rfl
  | _ =>
      rw [parseCast, describeCast]
      · rfl
      all_goals simp

/-- A map is read as what it describes, or as a map of keys. -/
theorem parseEntry_map
    (location : String)
    (entries : Entries) :
    parseEntry location (.map entries) =
      if describesType entries then
        predicatesOf location (Entries.get? entries (.text "predicates")) >>= fun predicates =>
          describe location entries >>= Description.read location predicates
      else
        parseKeys location entries >>= fun keys => .ok (.map keys) := by
  rw [parseEntry]
  split
  · refine congrArg _ (funext fun predicates => ?_)
    unfold describe
    split
    · rename_i named
      simp [named, Description.read]
    rename_i named
    simp only [named]
    split
    · rename_i listed
      simp [listed, Description.read]
    rename_i listed
    simp only [listed]
    split
    · rename_i mapped
      simp [mapped, Description.read]
    · rename_i unlike mapped
      simp only [mapped]
      rfl
    rename_i mapped
    simp only [mapped]
    split
    · rename_i joined
      simp only [joined]
      split <;> rfl
    · rename_i unlike joined
      simp only [joined]
      rfl
    rename_i joined
    simp only [joined]
    split
    · rename_i given converted
      simp only [converted]
      exact parseCast_eq location predicates given
    · rename_i converted
      simp only [converted]
      rfl
  · rfl

/-- What stands for no type, no map and no entry inside itself is refused. -/
theorem parseEntry_other
    {entry : Value}
    (unnamed : ∀ name, entry ≠ .text name)
    (unsigned : ∀ parts, entry ≠ .record .sign parts)
    (unmapped : ∀ entries, entry ≠ .map entries)
    (location : String) :
    parseEntry location entry = refuse (.unsupportedEntry location entry) := by
  rw [parseEntry]
  · exact unnamed
  · exact unsigned
  · exact unmapped

section Inside

variable
  {location : String}
  {entries : Entries}
  {description : Description}

/-- The two sides of a cast are inside its description. -/
theorem exists_of_describeCast
    {given : Value}
    (described : describeCast location given = .ok description) :
    ∃ entries source output,
      given = .map entries ∧
      Entries.get? entries (.text "from") = some source ∧
      Entries.get? entries (.text "to") = some output ∧
      description = .cast source output (castOptions entries) := by
  unfold describeCast at described
  split at described
  · rename_i entries
    split at described
    · rename_i source output foundFrom foundTo
      cases described
      exact ⟨entries, source, output, rfl, foundFrom, foundTo, rfl⟩
    · simp at described
  · simp at described

/-- Whether what is described stands under one of the words of a map. -/
inductive StandsIn (entries : Entries) : Description → Prop
  | type
      (name : Value)
      (found : Entries.get? entries (.text "type") = some name) :
      StandsIn entries (.type name)
  | list
      (member : Value)
      (found : Entries.get? entries (.text "list") = some member) :
      StandsIn entries (.list member)
  | map
      (keys : Entries)
      (found : Entries.get? entries (.text "map") = some (.map keys)) :
      StandsIn entries (.map keys)
  | union
      (options : List Value)
      (found : Entries.get? entries (.text "union") = some (.list options))
      (enough : 2 ≤ options.length) :
      StandsIn entries (.union options)
  | cast
      (given : Entries)
      (source output : Value)
      (found : Entries.get? entries (.text "cast") = some (.map given))
      (foundFrom : Entries.get? given (.text "from") = some source)
      (foundTo : Entries.get? given (.text "to") = some output) :
      StandsIn entries (.cast source output (castOptions given))

/-- What a map describes stands under one of its words. -/
theorem standsIn_of_describe
    (described : describe location entries = .ok description) :
    StandsIn entries description := by
  unfold describe at described
  split at described
  · rename_i named
    cases described
    exact .type _ named
  split at described
  · rename_i listed
    cases described
    exact .list _ listed
  split at described
  · rename_i mapped
    cases described
    exact .map _ mapped
  · simp at described
  split at described
  · rename_i joined
    split at described
    · simp at described
    · cases described
      exact .union _ joined (by omega)
  · simp at described
  split at described
  · rename_i given converted
    obtain ⟨inner, source, output, rfl, foundFrom, foundTo, rfl⟩ :=
      exists_of_describeCast described
    exact .cast inner source output converted foundFrom foundTo
  · simp at described

/-- An entry inside what a map describes is smaller than the map. -/
theorem StandsIn.sizeOf_lt
    (stands : StandsIn entries description)
    {part : Value}
    (inside : part ∈ description.entries) :
    sizeOf part < sizeOf entries := by
  cases stands with
  | type name found => simp [Description.entries] at inside
  | list member found =>
      obtain rfl := List.mem_singleton.mp inside
      exact sizeOf_get?_lt entries _ _ found
  | map keys found =>
      have whole := sizeOf_keys_lt entries keys _ found
      obtain ⟨⟨key, value⟩, member, rfl⟩ := List.mem_map.mp inside
      have less := List.sizeOf_lt_of_mem member
      simp only [Prod.mk.sizeOf_spec] at less ⊢
      omega
  | union options found =>
      have whole := sizeOf_items_lt entries options _ found
      have less : sizeOf part < sizeOf options := List.sizeOf_lt_of_mem inside
      omega
  | cast given source output found foundFrom foundTo =>
      have whole := sizeOf_keys_lt entries given _ found
      have first := sizeOf_get?_lt given _ _ foundFrom
      have second := sizeOf_get?_lt given _ _ foundTo
      simp only [Description.entries, List.mem_cons, List.not_mem_nil, or_false] at inside
      rcases inside with rfl | rfl <;> omega

end Inside

/-- What passes to an entry from the entries inside it holds of all entries. -/
@[elab_as_elim] theorem induct
    {motive : Value → Prop}
    (name : ∀ name, motive (.text name))
    (keys : ∀ entries, describesType entries = false → (∀ key ∈ entries, motive key.2) →
      motive (.map entries))
    (described : ∀ entries, describesType entries = true →
      (∀ description, StandsIn entries description → ∀ part ∈ description.entries, motive part) →
      motive (.map entries))
    (other : ∀ entry, (∀ name, entry ≠ .text name) → (∀ entries, entry ≠ .map entries) →
      motive entry)
    (entry : Value) : motive entry := by
  induction size : sizeOf entry using Nat.strongRecOn generalizing entry with
  | ind bound hypothesis =>
      subst size
      have smaller (part : Value) (less : sizeOf part < sizeOf entry) : motive part :=
        hypothesis _ less part rfl
      by_cases named : ∃ name, entry = .text name
      · obtain ⟨text, rfl⟩ := named
        exact name text
      · by_cases mapped : ∃ entries, entry = .map entries
        · obtain ⟨entries, rfl⟩ := mapped
          rw [Value.map.sizeOf_spec] at smaller
          cases describes : describesType entries with
          | false =>
              refine keys entries describes fun key member => smaller key.2 ?_
              have less := List.sizeOf_lt_of_mem member
              rw [Prod.mk.sizeOf_spec key.1 key.2] at less
              omega
          | true =>
              refine described entries describes fun description stands part inside => ?_
              have less := stands.sizeOf_lt inside
              exact smaller part (by omega)
        · exact other entry (fun text same => named ⟨text, same⟩)
            (fun entries same => mapped ⟨entries, same⟩)

/-- Whether a key of a map is what an entry of a schema file declares: its name with a
presence, and a specification that stands in a relation to the entry. -/
structure ReadsKey
    (related : Value → Spec → Prop)
    (entry : Value × Value)
    (key : Value × Spec) : Prop where
  /-- The key has the declared name and presence. -/
  name : key.1 = keyOf (declared entry.1)
  /-- Its specification stands in the relation to the entry. -/
  value : related entry.2 key.2

section Reading

variable
  {related : Value → Spec → Prop}
  {location : String}

/-- The keys that are read are related to the entries if each is that is read. -/
theorem forall₂_of_parseKeys
    {entries : Entries}
    {keys : List (Value × Spec)}
    (each : ∀ entry ∈ entries, ∀ location spec, parseEntry location entry.2 = .ok spec →
      related entry.2 spec)
    (parsed : parseKeys location entries = .ok keys) :
    List.Forall₂ (ReadsKey related) entries keys := by
  induction entries generalizing keys with
  | nil =>
      rw [parseKeys] at parsed
      cases parsed
      exact .nil
  | cons entry rest hypothesis =>
      rw [List.forall_mem_cons] at each
      rw [parseKeys] at parsed
      simp only [Attempt.bind_eq_ok, Except.ok.injEq] at parsed
      obtain ⟨name, -, spec, read, others, othersRead, rfl⟩ := parsed
      exact .cons ⟨rfl, each.1 _ spec read⟩ (hypothesis each.2 othersRead)

/-- The alternatives that are read are related to the entries if each is that is read. -/
theorem forall₂_of_parseOptions
    {options : List Value}
    {specs : List Spec}
    (each : ∀ option ∈ options, ∀ location spec, parseEntry location option = .ok spec →
      related option spec)
    (parsed : parseOptions location options = .ok specs) :
    List.Forall₂ related options specs := by
  induction options generalizing specs with
  | nil =>
      rw [parseOptions] at parsed
      cases parsed
      exact .nil
  | cons option rest hypothesis =>
      rw [List.forall_mem_cons] at each
      rw [parseOptions] at parsed
      simp only [Attempt.bind_eq_ok, Except.ok.injEq] at parsed
      obtain ⟨spec, read, others, othersRead, rfl⟩ := parsed
      exact .cons (each.1 _ spec read) (hypothesis each.2 othersRead)

/-- Predicates are put into several specifications one by one. -/
theorem forall₂_of_constrainedAll
    {extra : List Spec}
    {property : Spec → Spec → Prop}
    {options results : List Spec}
    (each : ∀ option ∈ options, ∀ result, constrained location extra option = .ok result →
      property option result)
    (made : constrainedAll location extra options = .ok results) :
    List.Forall₂ property options results := by
  induction options generalizing results with
  | nil =>
      cases made
      exact .nil
  | cons option rest hypothesis =>
      rw [List.forall_mem_cons] at each
      simp only [constrainedAll, Attempt.bind_eq_ok, Except.ok.injEq] at made
      obtain ⟨first, firstMade, others, othersMade, rfl⟩ := made
      exact .cons (each.1 first firstMade) (hypothesis each.2 othersMade)

end Reading

/-- Whether a map describes a type, with some predicates beside it. -/
structure Describes
    (entries : Entries)
    (description : Description)
    (predicates : List Spec) : Prop where
  /-- The map says that it describes a type. -/
  reserved : describesType entries = true
  /-- The type is described. -/
  described : ∃ location, describe location entries = .ok description
  /-- The predicates are listed beside it. -/
  listed : ∃ location,
    predicatesOf location (Entries.get? entries (.text "predicates")) = .ok predicates

/-- A relation between entries and the specifications that are read from them holds of all
of them if it passes to an entry from the entries inside it. -/
@[elab_as_elim] theorem parseEntry_induct
    {motive : Value → Spec → Prop}
    (name : ∀ name, motive (.text name) (.text name))
    (keys : ∀ entries specs, describesType entries = false →
      List.Forall₂ (ReadsKey motive) entries specs → motive (.map entries) (.map specs))
    (type : ∀ entries name predicates, Describes entries (.type name) predicates →
      motive (.map entries) (.tuple [.text "type", .ofValue name, .list predicates]))
    (list : ∀ entries member spec predicates, Describes entries (.list member) predicates →
      motive member spec →
      motive (.map entries) (.tuple [.text "list", spec, .list predicates]))
    (map : ∀ entries keys specs predicates, Describes entries (.map keys) predicates →
      List.Forall₂ (ReadsKey motive) keys specs →
      motive (.map entries) (.tuple [.text "map", .map specs, .list predicates]))
    (union : ∀ entries options specs predicates location spec,
      Describes entries (.union options) predicates → List.Forall₂ motive options specs →
      withPredicates location predicates (.list specs) = .ok spec →
      motive (.map entries) spec)
    (cast : ∀ entries source output options input result predicates location spec,
      Describes entries (.cast source output options) predicates →
      motive source input → motive output result →
      withPredicates location predicates
        (.tuple [.text "cast", input, result, .map (Spec.ofEntries options)]) = .ok spec →
      motive (.map entries) spec)
    {location : String}
    {entry : Value}
    {spec : Spec}
    (parsed : parseEntry location entry = .ok spec) :
    motive entry spec := by
  induction entry using induct generalizing location spec with
  | name text =>
      rw [parseEntry] at parsed
      cases parsed
      exact name text
  | keys entries plain hypothesis =>
      rw [parseEntry_map, plain, if_neg Bool.false_ne_true] at parsed
      obtain ⟨specs, read, same⟩ := Attempt.bind_eq_ok.mp parsed
      cases same
      exact keys entries specs plain
        (forall₂_of_parseKeys (fun entry member _ _ => hypothesis entry member) read)
  | described entries reserved hypothesis =>
      rw [parseEntry_map, if_pos reserved] at parsed
      simp only [Attempt.bind_eq_ok] at parsed
      obtain ⟨predicates, listed, description, described, read⟩ := parsed
      have describes : Describes entries description predicates :=
        ⟨reserved, ⟨_, described⟩, ⟨_, listed⟩⟩
      have inner := hypothesis description (standsIn_of_describe described)
      cases description with
      | type text =>
          cases read
          exact type entries text predicates describes
      | list member =>
          obtain ⟨first, firstRead, same⟩ := Attempt.bind_eq_ok.mp read
          cases same
          exact list entries member first predicates describes
            (inner member (by simp [Description.entries]) firstRead)
      | map inside =>
          obtain ⟨specs, keysRead, same⟩ := Attempt.bind_eq_ok.mp read
          cases same
          refine map entries inside specs predicates describes
            (forall₂_of_parseKeys (fun entry member _ _ => ?_) keysRead)
          exact inner entry.2 (List.mem_map_of_mem member)
      | union options =>
          obtain ⟨specs, optionsRead, made⟩ := Attempt.bind_eq_ok.mp read
          exact union entries options specs predicates _ spec describes
            (forall₂_of_parseOptions (fun option member _ _ => inner option member) optionsRead)
            made
      | cast source output options =>
          simp only [Description.read, Attempt.bind_eq_ok] at read
          obtain ⟨input, inputRead, result, resultRead, made⟩ := read
          exact cast entries source output options input result predicates _ spec describes
            (inner source (by simp [Description.entries]) inputRead)
            (inner output (by simp [Description.entries]) resultRead) made
  | other entry unnamed unmapped =>
      by_cases signed : ∃ parts, entry = .record .sign parts
      · obtain ⟨parts, rfl⟩ := signed
        rw [parseEntry] at parsed
        cases parsed
      · rw [parseEntry_other unnamed (fun parts same => signed ⟨parts, same⟩) unmapped] at parsed
        simp at parsed

end SchemaFile
end DataContract
