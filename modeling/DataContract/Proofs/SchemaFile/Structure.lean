import DataContract.Proofs.SchemaFile.Form
import DataContract.Proofs.Spec.KeyPath

/-!
# Maps of keys in documents

A document has maps that are read as keys: itself, maps without reserved words, and what stands
under the word for maps. The steps to such a map are the steps to its schema. One step of reading
shows that an entry and its specification mirror each other: they have the same keys, if they have
any, and the same parts in the same places. Predicates that are put into a specification later
change nothing about it. It follows that a document and its specification have the same maps of keys
in the same places.
-/

namespace DataContract

/-- The values of keys, with the steps to their schemas. -/
def keyParts {α β : Type} (index : Nat) : List (α × β) → List (List Schema.Step × β)
  | [] => []
  | (_, part) :: rest => ([.key index], part) :: keyParts (index + 1) rest

/-- Alternatives, with the steps to their schemas: they nest to the right, and the last one stands
on the right itself. -/
def alternativeParts {α : Type} : List α → List (List Schema.Step × α)
  | [] => []
  | [last] => [([], last)]
  | first :: second :: rest =>
      ([.left], first) ::
        (alternativeParts (second :: rest)).map fun part => (.right :: part.1, part.2)

/-- Whether parts in the same places are related one by one. -/
abbrev StandAlike {α β : Type} (related : α → β → Prop) :
    List (List Schema.Step × α) → List (List Schema.Step × β) → Prop :=
  List.Forall₂ fun part other => part.1 = other.1 ∧ related part.2 other.2

section Alike

variable {α β γ : Type}

/-- Related values of keys stand in the same places. -/
theorem standAlike_keyParts
    {related : α → β → Prop}
    {entries : List (γ × α)}
    {others : List (δ × β)}
    (each : List.Forall₂ (fun entry other => related entry.2 other.2) entries others)
    (index : Nat) :
    StandAlike related (keyParts index entries) (keyParts index others) := by
  induction each generalizing index with
  | nil => exact .nil
  | cons first _ hypothesis => exact .cons ⟨rfl, first⟩ (hypothesis (index + 1))

/-- Related alternatives stand in the same places. -/
theorem standAlike_alternativeParts
    {related : α → β → Prop}
    {options : List α}
    {others : List β}
    (each : List.Forall₂ related options others) :
    StandAlike related (alternativeParts options) (alternativeParts others) := by
  induction each with
  | nil => exact .nil
  | cons first rest hypothesis =>
      cases rest with
      | nil => exact .cons ⟨rfl, first⟩ .nil
      | cons second rest =>
          refine .cons ⟨rfl, first⟩ ?_
          rw [List.forall₂_map_left_iff, List.forall₂_map_right_iff]
          refine hypothesis.imp fun part other alike => ?_
          exact ⟨congrArg _ alike.1, alike.2⟩

/-- Places that stand alike one after another stand alike. -/
theorem StandAlike.comp
    {first : α → β → Prop}
    {second : β → γ → Prop}
    {composed : α → γ → Prop}
    {parts : List (List Schema.Step × α)}
    {others : List (List Schema.Step × β)}
    {thirds : List (List Schema.Step × γ)}
    (composes : ∀ part other third, first part other → second other third → composed part third)
    (alike : StandAlike first parts others)
    (next : StandAlike second others thirds) :
    StandAlike composed parts thirds := by
  induction alike generalizing thirds with
  | nil =>
      cases next
      exact .nil
  | cons here _ hypothesis =>
      cases next with
      | cons there later =>
          exact .cons ⟨here.1.trans there.1, composes _ _ _ here.2 there.2⟩ (hypothesis later)

/-- The value of a key stands behind the keys before it. -/
theorem mem_keyParts_iff
    {entries : List (γ × α)}
    {index : Nat}
    {steps : List Schema.Step}
    {part : α} :
    (steps, part) ∈ keyParts index entries ↔
      ∃ before key after, entries = before ++ (key, part) :: after ∧
        steps = [.key (index + before.length)] := by
  constructor
  · intro member
    induction entries generalizing index with
    | nil => cases member
    | cons entry rest hypothesis =>
        obtain ⟨key, value⟩ := entry
        rcases List.mem_cons.mp member with same | later
        · cases same
          exact ⟨[], key, rest, rfl, rfl⟩
        · obtain ⟨before, other, after, rfl, rfl⟩ := hypothesis later
          refine ⟨(key, value) :: before, other, after, rfl, ?_⟩
          rw [List.length_cons, Nat.add_right_comm, Nat.add_assoc]
  · rintro ⟨before, key, after, rfl, rfl⟩
    induction before generalizing index with
    | nil => exact List.mem_cons_self
    | cons entry rest hypothesis =>
        refine List.mem_cons_of_mem _ ?_
        rw [List.length_cons, Nat.add_comm rest.length, ← Nat.add_assoc]
        exact hypothesis

/-- An alternative stands on the right of those before it, and on the left of those after it. -/
theorem mem_alternativeParts_iff
    {options : List α}
    {steps : List Schema.Step}
    {option : α} :
    (steps, option) ∈ alternativeParts options ↔
      ∃ before after, options = before ++ option :: after ∧
        steps = List.replicate before.length .right ++ if after.isEmpty then [] else [.left] := by
  constructor
  · intro member
    induction options generalizing steps with
    | nil => cases member
    | cons first rest hypothesis =>
        cases rest with
        | nil =>
            obtain ⟨rfl, rfl⟩ := Prod.mk.inj (List.mem_singleton.mp member)
            exact ⟨[], [], rfl, rfl⟩
        | cons second rest =>
            rcases List.mem_cons.mp member with same | later
            · cases same
              exact ⟨[], second :: rest, rfl, rfl⟩
            · obtain ⟨⟨inner, other⟩, inside, same⟩ := List.mem_map.mp later
              cases same
              obtain ⟨before, after, split, rfl⟩ := hypothesis inside
              refine ⟨first :: before, after, by rw [split, List.cons_append], ?_⟩
              rw [List.length_cons, List.replicate_succ, List.cons_append]
  · rintro ⟨before, after, rfl, rfl⟩
    induction before with
    | nil => cases after <;> exact List.mem_cons_self
    | cons first rest hypothesis =>
        obtain ⟨second, others, split⟩ : ∃ second others, rest ++ option :: after =
            second :: others := by
          cases rest <;> exact ⟨_, _, rfl⟩
        rw [List.cons_append, split]
        refine List.mem_cons_of_mem _ (List.mem_map.mpr ⟨_, split ▸ hypothesis, ?_⟩)
        rw [List.length_cons, List.replicate_succ, List.cons_append]

end Alike

namespace Spec

/-- The specifications inside one of a form that is loaded, with the steps to their schemas. -/
def innerParts : Spec → List (List Schema.Step × Spec)
  | .map entries => keyParts 0 entries
  | .list specs => alternativeParts specs
  | .tuple (.text "map" :: .map entries :: _) => keyParts 0 entries
  | .tuple (.text "list" :: inner :: _) => [([.member], inner)]
  | .tuple (.text "cast" :: input :: output :: _) => [([.input], input), ([.output], output)]
  | _ => []

/-- The name of a type that a specification gives, alone or with predicates. -/
def typeName? : Spec → Option String
  | .text name => some name
  | .tuple (.text "type" :: .text name :: _) => some name
  | _ => none

/-- Whether some steps lead from a specification to one inside it. -/
inductive Reaches : Spec → List Schema.Step → Spec → Prop
  | here (spec : Spec) : Reaches spec [] spec
  | inside
      (spec part last : Spec)
      (steps rest : List Schema.Step)
      (member : (steps, part) ∈ spec.innerParts)
      (reaches : Reaches part rest last) :
      Reaches spec (steps ++ rest) last

/-- Whether some steps lead from a specification to a map of keys with given entries. -/
def HoldsKeys
    (spec : Spec)
    (steps : List Schema.Step)
    (entries : List (Value × Spec)) : Prop :=
  ∃ part, spec.Reaches steps part ∧ part.entries? = some entries

/-- What a part of a specification holds the specification holds behind the steps to the part. -/
theorem HoldsKeys.inside
    {spec part : Spec}
    {steps rest : List Schema.Step}
    {entries : List (Value × Spec)}
    (member : (steps, part) ∈ spec.innerParts)
    (holds : part.HoldsKeys rest entries) :
    spec.HoldsKeys (steps ++ rest) entries := by
  obtain ⟨last, reaches, own⟩ := holds
  exact ⟨last, .inside spec part last steps rest member reaches, own⟩

/-- What stands inside a specification fills a gap in it. -/
theorem exists_frame_of_mem_innerParts
    {spec part : Spec}
    {steps : List Schema.Step}
    (member : (steps, part) ∈ spec.innerParts) :
    ∃ frame : SpecFrame, spec = frame.fill part ∧ steps = frame.steps := by
  unfold innerParts at member
  split at member
  · obtain ⟨before, key, after, rfl, rfl⟩ := mem_keyParts_iff.mp member
    exact ⟨.entry before key after, rfl, by rw [Nat.zero_add]; rfl⟩
  · obtain ⟨before, after, rfl, rfl⟩ := mem_alternativeParts_iff.mp member
    exact ⟨.alternative before after, rfl, rfl⟩
  · rename_i rest
    obtain ⟨before, key, after, rfl, rfl⟩ := mem_keyParts_iff.mp member
    exact ⟨.key before key after rest, rfl, by rw [Nat.zero_add]; rfl⟩
  · rename_i rest
    cases List.mem_singleton.mp member
    exact ⟨.member rest, rfl, rfl⟩
  · rename_i input output rest
    simp only [List.mem_cons, Prod.mk.injEq, List.not_mem_nil, or_false] at member
    rcases member with ⟨rfl, rfl⟩ | ⟨rfl, rfl⟩
    · exact ⟨.input output rest, rfl, rfl⟩
    · exact ⟨.output input rest, rfl, rfl⟩
  · cases member

/-- A map that a specification holds is a source of keys. -/
theorem HoldsKeys.exists_draws
    {types : List (String × Spec)}
    {spec : Spec}
    {steps : List Schema.Step}
    {entries : List (Value × Spec)}
    (holds : spec.HoldsKeys steps entries)
    (root : Path) :
    ∃ around, Draws types root spec steps (.declared around entries) := by
  obtain ⟨part, reaches, own⟩ := holds
  induction reaches generalizing root with
  | here spec => exact ⟨root, .here root spec entries own⟩
  | inside spec part last steps rest member _ hypothesis =>
      obtain ⟨frame, rfl, rfl⟩ := exists_frame_of_mem_innerParts member
      obtain ⟨around, draws⟩ := hypothesis (frame.root root part) own
      exact ⟨around, .fill root frame part rest _ draws⟩

end Spec

namespace SchemaFile

section Loaded

variable
  {property : Value → Prop}
  {given : Entries → Prop}

/-- What fills a gap in a loaded specification stands inside it and is loaded. -/
theorem IsLoaded.of_fill
    {frame : SpecFrame}
    {filler spec : Spec}
    (loaded : IsLoaded property given spec)
    (whole : spec = frame.fill filler) :
    (frame.steps, filler) ∈ spec.innerParts ∧ IsLoaded property given filler := by
  have keyed {before after : List (Value × Spec)} {name : Value} :
      ([.key before.length], filler) ∈ keyParts 0 (before ++ (name, filler) :: after) :=
    mem_keyParts_iff.mpr ⟨before, name, after, rfl, by rw [Nat.zero_add]⟩
  cases loaded with
  | name name => cases frame <;> simp [SpecFrame.fill] at whole
  | keys entries names each =>
      cases frame with
      | entry before name after =>
          cases whole
          exact ⟨keyed, each (name, filler) (by simp)⟩
      | _ => simp [SpecFrame.fill] at whole
  | type name predicates => cases frame <;> simp [SpecFrame.fill] at whole
  | list member predicates inner =>
      cases frame with
      | member rest =>
          cases whole
          exact ⟨List.mem_singleton.mpr rfl, inner⟩
      | _ => simp [SpecFrame.fill] at whole
  | map entries predicates names each =>
      cases frame with
      | key before name after rest =>
          cases whole
          exact ⟨keyed, each (name, filler) (by simp)⟩
      | _ => simp [SpecFrame.fill] at whole
  | union specs each =>
      cases frame with
      | alternative before after =>
          cases whole
          exact ⟨mem_alternativeParts_iff.mpr ⟨before, after, rfl, rfl⟩, each filler (by simp)⟩
      | _ => simp [SpecFrame.fill] at whole
  | cast source output options first second =>
      cases frame with
      | input other rest =>
          cases whole
          exact ⟨List.mem_cons_self, first⟩
      | output other rest =>
          cases whole
          exact ⟨List.mem_cons_of_mem _ (List.mem_singleton.mpr rfl), second⟩
      | _ => simp [SpecFrame.fill] at whole

/-- A map has its keys from inside a loaded specification, or from a type that is named there. -/
theorem IsLoaded.exists_holdsKeys
    {types : List (String × Spec)}
    {root : Path}
    {spec : Spec}
    {steps : List Schema.Step}
    {source : Spec.KeySource}
    (loaded : IsLoaded property given spec)
    (draws : Spec.Draws types root spec steps source) :
    (∃ entries, spec.HoldsKeys steps entries) ∨
      ∃ before after part name, steps = before ++ after ∧ spec.Reaches before part ∧
        part.typeName? = some name ∧ (types.lookup name).isSome = true := by
  induction draws with
  | here root spec entries own => exact .inl ⟨entries, spec, .here spec, own⟩
  | compiled root type steps => cases loaded
  | name root name type steps source _ found =>
      exact .inr ⟨[], steps, _, name, rfl, .here _, rfl, by rw [found, Option.isSome_some]⟩
  | type root name rest type steps source _ found =>
      exact .inr ⟨[], steps, _, name, rfl, .here _, rfl, by rw [found, Option.isSome_some]⟩
  | fill root frame filler steps source _ hypothesis =>
      obtain ⟨member, inner⟩ := loaded.of_fill rfl
      obtain ⟨entries, holds⟩ | ⟨before, after, part, name, rfl, reaches, named⟩ :=
        hypothesis inner
      · exact .inl ⟨entries, holds.inside member⟩
      · refine .inr ⟨frame.steps ++ before, after, part, name, ?_, ?_, named⟩
        · rw [List.append_assoc]
        · exact .inside _ _ _ _ _ member reaches

end Loaded

namespace Description

/-- The keys of a map of keys. -/
def keys? : Description → Option Entries
  | .map keys => some keys
  | _ => none

/-- The name of a type. -/
def typeName? : Description → Option String
  | .type (.text name) => some name
  | _ => none

/-- The entries inside what is described, with the steps to their schemas. -/
def parts : Description → List (List Schema.Step × Value)
  | .type _ => []
  | .list member => [([.member], member)]
  | .map keys => keyParts 0 keys
  | .union options => alternativeParts options
  | .cast source output _ => [([.input], source), ([.output], output)]

end Description

/-- What a map describes does not depend on where it stands. -/
theorem toOption_describe
    (location other : String)
    (entries : Entries) :
    (describe location entries).toOption = (describe other entries).toOption := by
  unfold describe describeCast
  repeat' split
  all_goals rfl

/-- What an entry describes: a name a type, a map without reserved words its keys. -/
def form? : Value → Option Description
  | .text name => some (.type (.text name))
  | .map entries =>
      if describesType entries then (describe "" entries).toOption else some (.map entries)
  | _ => none

theorem form?_map_of_describe
    {location : String}
    {entries : Entries}
    {description : Description}
    (reserved : describesType entries = true)
    (described : describe location entries = .ok description) :
    form? (.map entries) = some description := by
  rw [form?, if_pos reserved, toOption_describe "" location, described]
  rfl

/-- Whether some steps lead from what is described to what an entry inside it describes. -/
inductive Description.Reaches : Description → List Schema.Step → Description → Prop
  | here (description : Description) : Reaches description [] description
  | inside
      (description inner last : Description)
      (entry : Value)
      (steps rest : List Schema.Step)
      (member : (steps, entry) ∈ description.parts)
      (form : form? entry = some inner)
      (reaches : Reaches inner rest last) :
      Reaches description (steps ++ rest) last

/-- Whether some steps lead from a document to a map of keys in it. -/
def HasKeys
    (document : Entries)
    (steps : List Schema.Step)
    (mapping : Entries) : Prop :=
  (Description.map document).Reaches steps (.map mapping)

/-- Whether some steps lead from a document to the name of a type in it. -/
def NamesType
    (document : Entries)
    (steps : List Schema.Step)
    (name : String) : Prop :=
  (Description.map document).Reaches steps (.type (.text name))

/-- Whether a specification is read from an entry, with or without predicates that are given around
the entry. -/
inductive ReadsAs (entry : Value) : Spec → Prop
  | parsed
      (location : String)
      (spec : Spec)
      (read : parseEntry location entry = .ok spec) :
      ReadsAs entry spec
  | constrained
      (location : String)
      (extra : List Spec)
      (spec result : Spec)
      (reads : ReadsAs entry spec)
      (made : constrained location extra spec = .ok result) :
      ReadsAs entry result

/-- Whether a key of a specification is what the key of an entry declares. -/
abbrev KeepsName
    (entry : Value × Value)
    (key : Value × Spec) : Prop :=
  key.1 = keyOf (declared entry.1)

/-- Whether a specification has the form of what is described: the keys that its keys declare, the
type that it names, and what is read from its parts in the same places. -/
structure Mirrors
    (description : Description)
    (spec : Spec) : Prop where
  /-- It has the declared keys. -/
  keys : Option.Rel (List.Forall₂ KeepsName) description.keys? spec.entries?
  /-- It names the described type. -/
  named : spec.typeName? = description.typeName?
  /-- It has what is read from the parts in their places. -/
  parts : StandAlike ReadsAs description.parts spec.innerParts

section Mirrors

variable
  {location : String}
  {extra : List Spec}
  {entry : Value}
  {description : Description}
  {spec result : Spec}

/-- Parts that are the same stand in the same places. -/
theorem standAlike_refl
    {related : Spec → Spec → Prop}
    (refl : ∀ part, related part part)
    (parts : List (List Schema.Step × Spec)) :
    StandAlike related parts parts :=
  List.forall₂_same.mpr fun part _ => ⟨rfl, refl part.2⟩

/-- With further predicates a specification keeps its keys and the type that it names; its parts
are the same or get the predicates. -/
theorem shape_of_constrained (made : constrained location extra spec = .ok result) :
    result.entries? = spec.entries? ∧ result.typeName? = spec.typeName? ∧
      StandAlike (fun part other => part = other ∨ constrained location extra part = .ok other)
        spec.innerParts result.innerParts := by
  have kept (parts : List (List Schema.Step × Spec)) :
      StandAlike (fun part other => part = other ∨ constrained location extra part = .ok other)
        parts parts :=
    standAlike_refl (fun _ => .inl rfl) parts
  unfold constrained at made
  split at made
  case h_1 name =>
    cases made
    exact ⟨rfl, rfl, .nil⟩
  case h_2 options =>
    obtain ⟨results, resultsMade, same⟩ := Attempt.bind_eq_ok.mp made
    cases same
    refine ⟨rfl, rfl, standAlike_alternativeParts ?_⟩
    exact forall₂_of_constrainedAll (fun _ _ _ made => .inr made) resultsMade
  case h_3 entries =>
    cases made
    exact ⟨rfl, rfl, kept (keyParts 0 entries)⟩
  case h_4 part own =>
    cases made
    refine ⟨rfl, ?_, kept _⟩
    cases part with
    | scalar content => cases content <;> rfl
    | _ => rfl
  case h_5 part own =>
    cases made
    exact ⟨rfl, rfl, kept _⟩
  case h_6 part own =>
    cases made
    exact ⟨by cases part <;> rfl, rfl, by cases part <;> exact kept _⟩
  case h_7 source output options =>
    obtain ⟨second, secondMade, same⟩ := Attempt.bind_eq_ok.mp made
    cases same
    exact ⟨rfl, rfl, .cons ⟨rfl, .inl rfl⟩ (.cons ⟨rfl, .inr secondMade⟩ .nil)⟩
  case h_8 => cases made

/-- Further predicates leave the form of a specification. -/
theorem Mirrors.constrained
    (mirrors : Mirrors description spec)
    (made : SchemaFile.constrained location extra spec = .ok result) :
    Mirrors description result := by
  obtain ⟨keys, named, parts⟩ := shape_of_constrained made
  refine ⟨keys ▸ mirrors.keys, named.trans mirrors.named, ?_⟩
  refine mirrors.parts.comp (fun entry part other reads after => ?_) parts
  obtain rfl | made := after
  · exact reads
  · exact .constrained location extra part other reads made

theorem Mirrors.withPredicates
    (mirrors : Mirrors description spec)
    (made : SchemaFile.withPredicates location extra spec = .ok result) :
    Mirrors description result := by
  unfold SchemaFile.withPredicates at made
  split at made
  · cases made
    exact mirrors
  · exact mirrors.constrained made

/-- The keys that are read are those of the entries, and stand where the entries stand. -/
theorem mirrors_of_parseKeys
    {entries : Entries}
    {keys : List (Value × Spec)}
    (read : parseKeys location entries = .ok keys)
    (own : spec.entries? = some keys)
    (unnamed : spec.typeName? = none)
    (inner : spec.innerParts = keyParts 0 keys) :
    Mirrors (.map entries) spec := by
  have each : List.Forall₂ (ReadsKey ReadsAs) entries keys :=
    forall₂_of_parseKeys (fun entry _ location spec => .parsed location spec) read
  refine ⟨?_, unnamed, ?_⟩
  · rw [own]
    exact .some (each.imp fun entry key reads => reads.name)
  · rw [inner]
    exact standAlike_keyParts (each.imp fun entry key reads => reads.value) 0

/-- What is read has the form of what is described. -/
theorem mirrors_of_read (read : description.read location extra = .ok spec) :
    Mirrors description spec := by
  cases description with
  | type name =>
      cases read
      refine ⟨.none, ?_, .nil⟩
      cases name with
      | scalar content => cases content <;> rfl
      | _ => rfl
  | list member =>
      obtain ⟨inner, innerRead, same⟩ := Attempt.bind_eq_ok.mp read
      cases same
      exact ⟨.none, rfl, .cons ⟨rfl, .parsed _ _ innerRead⟩ .nil⟩
  | map keys =>
      obtain ⟨specs, keysRead, same⟩ := Attempt.bind_eq_ok.mp read
      cases same
      exact mirrors_of_parseKeys keysRead rfl rfl rfl
  | union options =>
      obtain ⟨specs, optionsRead, made⟩ := Attempt.bind_eq_ok.mp read
      have each : List.Forall₂ ReadsAs options specs :=
        forall₂_of_parseOptions (fun entry _ location spec => .parsed location spec) optionsRead
      have plain : Mirrors (.union options) (.list specs) :=
        ⟨.none, rfl, standAlike_alternativeParts each⟩
      exact plain.withPredicates made
  | cast source output options =>
      simp only [Description.read, Attempt.bind_eq_ok] at read
      obtain ⟨input, inputRead, last, lastRead, made⟩ := read
      have plain : Mirrors (.cast source output options)
          (.tuple [.text "cast", input, last, .map (Spec.ofEntries options)]) :=
        ⟨.none, rfl, .cons ⟨rfl, .parsed _ _ inputRead⟩
          (.cons ⟨rfl, .parsed _ _ lastRead⟩ .nil)⟩
      exact plain.withPredicates made

/-- What is read from an entry has the form of what the entry describes. -/
theorem exists_mirrors_of_parseEntry (read : parseEntry location entry = .ok spec) :
    ∃ description, form? entry = some description ∧ Mirrors description spec := by
  by_cases named : ∃ name, entry = .text name
  · obtain ⟨name, rfl⟩ := named
    rw [parseEntry] at read
    cases read
    exact ⟨_, rfl, .none, rfl, .nil⟩
  by_cases signed : ∃ parts, entry = .record .sign parts
  · obtain ⟨parts, rfl⟩ := signed
    rw [parseEntry] at read
    cases read
  by_cases mapped : ∃ entries, entry = .map entries
  · obtain ⟨entries, rfl⟩ := mapped
    rw [parseEntry_map] at read
    split at read
    · rename_i reserved
      simp only [Attempt.bind_eq_ok] at read
      obtain ⟨predicates, -, description, described, read⟩ := read
      exact ⟨description, form?_map_of_describe reserved described, mirrors_of_read read⟩
    · rename_i plain
      obtain ⟨keys, keysRead, same⟩ := Attempt.bind_eq_ok.mp read
      cases same
      exact ⟨.map entries, by rw [form?, if_neg plain], mirrors_of_parseKeys keysRead rfl rfl rfl⟩
  · rw [parseEntry_other (fun name same => named ⟨name, same⟩)
      (fun parts same => signed ⟨parts, same⟩) fun entries same => mapped ⟨entries, same⟩] at read
    cases read

/-- With or without predicates that are given around it, what is read from an entry has the form of
what the entry describes. -/
theorem ReadsAs.exists_mirrors (reads : ReadsAs entry spec) :
    ∃ description, form? entry = some description ∧ Mirrors description spec := by
  induction reads with
  | parsed location spec read => exact exists_mirrors_of_parseEntry read
  | constrained location extra spec result _ made hypothesis =>
      obtain ⟨description, form, mirrors⟩ := hypothesis
      exact ⟨description, form, mirrors.constrained made⟩

/-- What is read from a map of keys has entries with its keys. -/
theorem Mirrors.exists_entries
    {mapping : Entries}
    (mirrors : Mirrors (.map mapping) spec) :
    ∃ entries, spec.entries? = some entries ∧
      List.Forall₂ KeepsName mapping entries := by
  obtain ⟨keys, -, -⟩ := mirrors
  generalize found : spec.entries? = own at keys
  cases keys with
  | some each => exact ⟨_, rfl, each⟩

/-- What has entries is read from a map with the keys of the entries. -/
theorem Mirrors.exists_mapping
    {entries : List (Value × Spec)}
    (mirrors : Mirrors description spec)
    (own : spec.entries? = some entries) :
    ∃ mapping, description = .map mapping ∧
      List.Forall₂ KeepsName mapping entries := by
  obtain ⟨keys, -, -⟩ := mirrors
  rw [own] at keys
  cases description with
  | map mapping =>
      cases keys with
      | some each => exact ⟨mapping, rfl, each⟩
  | _ => cases keys

/-- What names a type is read from the name of the type. -/
theorem Mirrors.eq_type
    {name : String}
    (mirrors : Mirrors description spec)
    (named : spec.typeName? = some name) :
    description = .type (.text name) := by
  rw [mirrors.named] at named
  unfold Description.typeName? at named
  split at named
  · cases named
    rfl
  · cases named

/-- Where steps lead to what an entry describes, they lead to a specification of that form. -/
theorem Mirrors.exists_reaches
    {last : Description}
    {steps : List Schema.Step}
    (mirrors : Mirrors description spec)
    (reaches : description.Reaches steps last) :
    ∃ part, spec.Reaches steps part ∧ Mirrors last part := by
  induction reaches generalizing spec with
  | here description => exact ⟨spec, .here spec, mirrors⟩
  | inside description inner last entry steps rest member form _ hypothesis =>
      obtain ⟨⟨_, part⟩, partMember, rfl, reads⟩ :=
        Attempt.exists_answer_of_mem mirrors.parts member
      obtain ⟨other, otherForm, deeper⟩ := reads.exists_mirrors
      obtain rfl : inner = other := Option.some.inj (form.symm.trans otherForm)
      obtain ⟨final, reaches, alike⟩ := hypothesis deeper
      exact ⟨final, .inside _ _ _ _ _ partMember reaches, alike⟩

/-- Where steps lead to a specification, they lead to what an entry of its form describes. -/
theorem Mirrors.exists_reaches_description
    {last : Spec}
    {steps : List Schema.Step}
    (mirrors : Mirrors description spec)
    (reaches : spec.Reaches steps last) :
    ∃ inner, description.Reaches steps inner ∧ Mirrors inner last := by
  induction reaches generalizing description with
  | here spec => exact ⟨description, .here description, mirrors⟩
  | inside spec part last steps rest member _ hypothesis =>
      obtain ⟨⟨_, entry⟩, entryMember, rfl, reads⟩ :=
        Attempt.exists_item_of_mem mirrors.parts member
      obtain ⟨inner, form, deeper⟩ := reads.exists_mirrors
      obtain ⟨final, reaches, alike⟩ := hypothesis deeper
      exact ⟨final, .inside _ _ _ _ _ _ entryMember form reaches, alike⟩

end Mirrors

end SchemaFile
end DataContract
