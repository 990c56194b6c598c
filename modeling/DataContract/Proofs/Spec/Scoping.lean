import DataContract.Proofs.Spec.Context
import DataContract.Proofs.Spec.Parallel

/-!
# Scopes of options

Whether a map renames its entries, and how, is decided by the options around its specification:
each option is taken from the innermost definition that sets it, or else from the options of the
compilation, or else from the settings. A name of a type stands for its definition, in the scope
of the name; a schema that was compiled before keeps what it has. Every map of a compiled schema
has its options in one of these ways, and nothing else in the schema depends on them.
-/

namespace DataContract

/-- The options in force inside others, which are given from the innermost to the outermost: of
each option the first that is set, and what the settings say if none is. -/
def Settings.inForce
    (settings : Settings)
    (enclosing : List CompileOptions) : Scope :=
  ⟨(enclosing.findSome? CompileOptions.atomize).getD (.bool settings.atomize),
    (enclosing.findSome? CompileOptions.style).getD settings.keyStyle⟩

/-- Entering a definition puts its options in front. -/
theorem Settings.enter_inForce
    (settings : Settings)
    (enclosing : List CompileOptions)
    (options : CompileOptions) :
    (settings.inForce enclosing).enter options = settings.inForce (options :: enclosing) := by
  obtain ⟨atomize, style, others⟩ := options
  cases atomize <;> cases style <;> rfl

/-- A compilation starts inside its own options. -/
theorem Settings.enter_scope
    (settings : Settings)
    (options : CompileOptions) :
    settings.scope.enter options = settings.inForce [options] :=
  settings.enter_inForce [] options

namespace Schema

/-- Whether a map renames its entries, and how; other schemas have no such options. -/
def mapOptions? : Schema → Option (Bool × KeyStyle)
  | .map _ _ atomize style => some (atomize, style)
  | _ => none

/-- The options of the map that some steps lead to. -/
def optionsAt?
    (schema : Schema)
    (steps : List Step) : Option (Bool × KeyStyle) :=
  (schema.at? steps).bind mapOptions?

/-- Behind some steps to a part, the options of maps are those of the part. -/
theorem optionsAt?_append
    {schema part : Schema}
    {steps : List Step}
    (found : schema.at? steps = some part)
    (rest : List Step) :
    schema.optionsAt? (steps ++ rest) = part.optionsAt? rest := by
  rw [optionsAt?, at?_append, found]
  rfl

theorem optionsAt?_cons_of_none
    {schema : Schema}
    {step : Step}
    (missing : schema.part? step = none)
    (rest : List Step) :
    schema.optionsAt? (step :: rest) = none := by
  rw [optionsAt?, at?_cons, missing]
  rfl

/-- The keys and the options of a map; other schemas have none. -/
def mapParts? : Schema → Option (List Key × Bool × KeyStyle)
  | .map _ keys atomize style => some (keys, atomize, style)
  | _ => none

/-- Constraining changes neither the keys nor the options of any map. -/
theorem bind_mapParts?_of_constrain
    {schema constrained : Schema}
    {extra : List Predicate}
    (made : schema.constrain extra = .ok constrained)
    (steps : List Step) :
    (constrained.at? steps).bind mapParts? = (schema.at? steps).bind mapParts? := by
  induction schema generalizing constrained steps with
  | primitive tag chain | list chain member _ | map chain keys atomize style _ =>
      cases made
      cases steps with
      | nil => rfl
      | cons step rest => cases step <;> rfl
  | union left right options leftHypothesis rightHypothesis =>
      obtain ⟨first, second, leftMade, rightMade, rfl⟩ := constrain_union_eq_ok.mp made
      cases steps with
      | nil => rfl
      | cons step rest =>
          cases step with
          | left => exact leftHypothesis leftMade rest
          | right => exact rightHypothesis rightMade rest
          | _ => rfl
  | cast input output caster options _ outputHypothesis =>
      obtain ⟨second, outputMade, rfl⟩ := constrain_cast_eq_ok.mp made
      cases steps with
      | nil => rfl
      | cons step rest =>
          cases step with
          | output => exact outputHypothesis outputMade rest
          | _ => rfl
  | custom type =>
      rcases constrain_custom_eq_ok.mp made with ⟨-, rfl⟩ | ⟨-, other, -, rfl⟩
      · rfl
      · cases steps with
        | nil => rfl
        | cons step rest => cases step <;> rfl

/-- The options of a map are the last of its parts. -/
theorem optionsAt?_eq_map_mapParts?
    (schema : Schema)
    (steps : List Step) :
    schema.optionsAt? steps = ((schema.at? steps).bind mapParts?).map Prod.snd := by
  rw [optionsAt?]
  cases schema.at? steps with
  | none => rfl
  | some part => cases part <;> rfl

/-- Constraining changes the options of no map. -/
theorem optionsAt?_of_constrain
    {schema constrained : Schema}
    {extra : List Predicate}
    (made : schema.constrain extra = .ok constrained)
    (steps : List Step) :
    constrained.optionsAt? steps = schema.optionsAt? steps := by
  rw [optionsAt?_eq_map_mapParts?, optionsAt?_eq_map_mapParts?, bind_mapParts?_of_constrain made]

end Schema

mutual

/-- A schema in which no map tells whether it renames its entries, nor how. -/
def Schema.unscoped : Schema → Schema
  | .primitive tag chain => .primitive tag chain
  | .list chain member => .list chain member.unscoped
  | .map chain keys _ _ => .map chain (unscopedKeys keys) false .same
  | .union left right options => .union left.unscoped right.unscoped options
  | .cast input output caster options => .cast input.unscoped output.unscoped caster options
  | .custom type => .custom type

/-- Keys whose schemas do not tell how maps rename their entries. -/
def unscopedKeys : List Key → List Key
  | [] => []
  | .mk around name presence type inline :: rest =>
      .mk around name presence type.unscoped inline :: unscopedKeys rest

end

namespace Schema

@[simp] theorem tag_unscoped (schema : Schema) : schema.unscoped.tag = schema.tag := by
  induction schema with
  | cast input output caster options _ outputHypothesis => exact outputHypothesis
  | _ => rfl

/-- Constraining does not depend on how maps rename their entries. -/
theorem constrain_unscoped
    (schema : Schema)
    (extra : List Predicate) :
    schema.unscoped.constrain extra = (schema.constrain extra).map unscoped := by
  induction schema with
  | primitive tag chain | list chain member _ | map chain keys atomize style _ => rfl
  | union left right options leftHypothesis rightHypothesis =>
      simp only [unscoped, constrain, leftHypothesis, rightHypothesis]
      cases left.constrain extra with
      | error fault => rfl
      | ok first =>
          cases right.constrain extra with
          | error fault => rfl
          | ok second => rfl
  | cast input output caster options _ outputHypothesis =>
      simp only [unscoped, constrain, outputHypothesis]
      cases output.constrain extra with
      | error fault => rfl
      | ok second => rfl
  | custom type =>
      simp only [unscoped, constrain]
      split
      · rfl
      · cases type.constrain extra <;> rfl

/-- Whether two schemas differ at most in the options of maps. -/
def Rescoped (schema other : Schema) : Prop :=
  schema.unscoped = other.unscoped

namespace Rescoped

variable {schema other third : Schema}

theorem symm (same : schema.Rescoped other) : other.Rescoped schema :=
  Eq.symm same

theorem trans
    (first : schema.Rescoped other)
    (second : other.Rescoped third) :
    schema.Rescoped third :=
  Eq.trans first second

theorem tag_eq (same : schema.Rescoped other) : schema.tag = other.tag := by
  rw [← schema.tag_unscoped, same, other.tag_unscoped]

theorem constrain
    (same : schema.Rescoped other)
    (extra : List Predicate) :
    Attempt.Agree Rescoped (schema.constrain extra) (other.constrain extra) := by
  refine .of_map_eq ?_
  rw [← constrain_unscoped, same, constrain_unscoped]

end Rescoped

theorem unscopedKeys_eq_of_parallel
    {keys others : List Key}
    (parallel : List.Forall₂ (Key.Parallel Rescoped) keys others) :
    unscopedKeys keys = unscopedKeys others := by
  induction parallel with
  | nil => rfl
  | cons first _ hypothesis =>
      obtain ⟨around, name, presence, inline, same⟩ := first
      rw [unscopedKeys, unscopedKeys, same, hypothesis]

end Schema

/-- The options around the gap of a form, the innermost first. -/
def SpecFrame.enclosing
    (enclosing : List CompileOptions) : SpecFrame → List CompileOptions
  | .definition _ options => options :: enclosing
  | _ => enclosing

theorem SpecFrame.scope_inForce
    (frame : SpecFrame)
    (settings : Settings)
    (enclosing : List CompileOptions) :
    frame.scope (settings.inForce enclosing) = settings.inForce (frame.enclosing enclosing) := by
  cases frame with
  | definition name options => exact settings.enter_inForce enclosing options
  | _ => rfl

namespace Spec

/-- Where a map of a compiled schema has its options from: from the options around its
specification, the innermost first, or from the map of a schema that was compiled before. -/
inductive Origin
  | around (enclosing : List CompileOptions)
  | within
      (type : Schema)
      (steps : List Schema.Step)

/-- The options that a map has by its origin. -/
def Origin.options?
    (settings : Settings) : Origin → Option (Bool × KeyStyle)
  | .around enclosing =>
      let scope := settings.inForce enclosing
      some (scope.atomize.truthy, scope.style)
  | .within type steps => type.optionsAt? steps

/-- Whether, going along a specification as some steps go along its schema, one comes to a map
with an origin. The options around the specification are given from the innermost to the
outermost. A name leads on to the type that it stands for, and the definitions on the way add
their options. -/
inductive Leads (types : List (String × Spec)) :
    List CompileOptions → Spec → List Schema.Step → Origin → Prop
  | here
      (enclosing : List CompileOptions)
      (spec : Spec)
      (keyed : spec.isKeyed = true) :
      Leads types enclosing spec [] (.around enclosing)
  | compiled
      (enclosing : List CompileOptions)
      (type : Schema)
      (steps : List Schema.Step) :
      Leads types enclosing (.compiled type) steps (.within type steps)
  | name
      (enclosing : List CompileOptions)
      (name : String)
      (type : Spec)
      (steps : List Schema.Step)
      (origin : Origin)
      (unnamed : Tag.ofName? name = none)
      (found : types.lookup name = some type)
      (inside : Leads types enclosing type steps origin) :
      Leads types enclosing (.text name) steps origin
  | type
      (enclosing : List CompileOptions)
      (name : String)
      (rest : List Spec)
      (type : Spec)
      (steps : List Schema.Step)
      (origin : Origin)
      (unnamed : Tag.ofName? name = none)
      (found : types.lookup name = some type)
      (inside : Leads types enclosing type steps origin) :
      Leads types enclosing (.tuple (.text "type" :: .text name :: rest)) steps origin
  | fill
      (enclosing : List CompileOptions)
      (frame : SpecFrame)
      (filler : Spec)
      (steps : List Schema.Step)
      (origin : Origin)
      (inside : Leads types (frame.enclosing enclosing) filler steps origin) :
      Leads types enclosing (frame.fill filler) (frame.steps ++ steps) origin

/-- More types under other names lead to the same. -/
theorem Leads.mono
    {types others : List (String × Spec)}
    {enclosing : List CompileOptions}
    {spec : Spec}
    {steps : List Schema.Step}
    {origin : Origin}
    (known : ∀ name type, types.lookup name = some type → others.lookup name = some type)
    (leads : Leads types enclosing spec steps origin) :
    Leads others enclosing spec steps origin := by
  induction leads with
  | here enclosing spec keyed => exact .here enclosing spec keyed
  | compiled enclosing type steps => exact .compiled enclosing type steps
  | name enclosing name type steps origin unnamed found _ hypothesis =>
      exact .name enclosing name type steps origin unnamed (known name type found) hypothesis
  | type enclosing name rest type steps origin unnamed found _ hypothesis =>
      exact .type enclosing name rest type steps origin unnamed (known name type found) hypothesis
  | fill enclosing frame filler steps origin _ hypothesis =>
      exact .fill enclosing frame filler steps origin hypothesis

/-- Whether two specifications differ at most in the options of definitions in them. -/
inductive Rescoped : Spec → Spec → Prop
  | refl (spec : Spec) : Rescoped spec spec
  | options
      (name : String)
      (spec : Spec)
      (before after : CompileOptions) :
      Rescoped (.definition name spec before) (.definition name spec after)
  | fill
      (frame : SpecFrame)
      (spec other : Spec)
      (inside : Rescoped spec other) :
      Rescoped (frame.fill spec) (frame.fill other)
  | trans
      (spec between other : Spec)
      (first : Rescoped spec between)
      (second : Rescoped between other) :
      Rescoped spec other

end Spec

namespace Compiler

open Spec (Leads Origin)

section Origins

variable
  {compiler : Compiler}
  {types : List (String × Spec)}
  {scope : Scope}
  {root : Path}

/-- What a name is compiled to is what its type is compiled to, constrained; whether the name can
be looked up in its type makes no difference. -/
theorem exists_type_of_compileName
    {name : String}
    {type : Spec}
    {extra : List Predicate}
    {schema : Schema}
    (unnamed : Tag.ofName? name = none)
    (found : types.lookup name = some type)
    (made : compileName compiler types scope name extra = .ok schema) :
    ∃ plain, compileSpec compiler (without types name) scope [] type = .ok plain ∧
      compileSpec compiler types scope [] type = .ok plain ∧
      plain.constrain extra = .ok schema := by
  rw [compileName_of_lookup unnamed found] at made
  obtain ⟨plain, compiled, constrained⟩ := Attempt.bind_eq_ok.mp made
  refine ⟨plain, compiled, ?_, constrained⟩
  rw [← compileSpec_without name ⟨scope, [], plain, compiled⟩, compiled]

/-- A map has the options that it has by its origin. -/
theorem optionsAt?_of_leads
    {enclosing : List CompileOptions}
    {spec : Spec}
    {steps : List Schema.Step}
    {origin : Origin}
    {schema : Schema}
    (leads : Leads types enclosing spec steps origin)
    (made : compileSpec compiler types (compiler.settings.inForce enclosing) root spec =
      .ok schema) :
    schema.optionsAt? steps = origin.options? compiler.settings := by
  induction leads generalizing root schema with
  | here enclosing spec keyed =>
      unfold Spec.isKeyed at keyed
      split at keyed
      · rw [compileSpec_keys] at made
        obtain ⟨keys, chain, -, -, rfl⟩ := compileMap_eq_ok.mp made
        rfl
      · rw [compileSpec_map] at made
        obtain ⟨keys, chain, -, -, rfl⟩ := compileMap_eq_ok.mp made
        rfl
      · cases keyed
  | compiled enclosing type steps =>
      rw [compileSpec] at made
      obtain ⟨shown, -, same⟩ := Attempt.bind_eq_ok.mp made
      cases same
      rfl
  | name enclosing name type steps origin unnamed found _ hypothesis =>
      rw [compileSpec_text] at made
      obtain ⟨plain, -, compiled, constrained⟩ := exists_type_of_compileName unnamed found made
      rw [Schema.optionsAt?_of_constrain constrained, hypothesis compiled]
  | type enclosing name rest type steps origin unnamed found _ hypothesis =>
      obtain ⟨text, extra, same, -, made⟩ := compileSpec_type_eq_ok.mp made
      cases same
      obtain ⟨plain, -, compiled, constrained⟩ := exists_type_of_compileName unnamed found made
      rw [Schema.optionsAt?_of_constrain constrained, hypothesis compiled]
  | fill enclosing frame filler steps origin _ hypothesis =>
      obtain ⟨inner, compiled, reached, -⟩ := exists_inner_of_fill made
      rw [SpecFrame.scope_inForce] at compiled
      rw [Schema.optionsAt?_append reached, hypothesis compiled]

theorem length_of_compileKeys
    {seen : List Value}
    {entries : List (Value × Spec)}
    {keys : List Key}
    (made : compileKeys compiler types scope root seen entries = .ok keys) :
    keys.length = entries.length := by
  induction entries generalizing seen keys with
  | nil =>
      rw [compileKeys] at made
      cases made
      rfl
  | cons entry rest hypothesis =>
      obtain ⟨type, inline, others, -, -, remaining, rfl⟩ := compileKeys_cons_eq_ok.mp made
      rw [List.length_cons, List.length_cons, hypothesis remaining]

/-- A step from a map to a map inside it leads to one of its entries. -/
theorem exists_entry_of_optionsAt?
    {entries : List (Value × Spec)}
    {list : Spec}
    {schema : Schema}
    {step : Schema.Step}
    {rest : List Schema.Step}
    (made : compileMap compiler types scope root entries list = .ok schema)
    (found : (schema.optionsAt? (step :: rest)).isSome = true) :
    ∃ before name spec after, entries = before ++ (name, spec) :: after ∧
      step = .key before.length := by
  obtain ⟨keys, chain, keysMade, -, rfl⟩ := compileMap_eq_ok.mp made
  cases step with
  | key index =>
      have inside : index < entries.length := by
        by_contra outside
        have missing : keys[index]? = none := by
          rw [List.getElem?_eq_none_iff, length_of_compileKeys keysMade]
          omega
        rw [Schema.optionsAt?_cons_of_none (by simp [Schema.part?, missing])] at found
        cases found
      have split := List.take_append_drop index entries
      rw [List.drop_eq_getElem_cons inside] at split
      refine ⟨entries.take index, entries[index].1, entries[index].2, entries.drop (index + 1),
        split.symm, ?_⟩
      rw [List.length_take, Nat.min_eq_left (Nat.le_of_lt inside)]
  | _ => cases found

/-- Some steps from alternatives to a map inside them lead to one of the alternatives first. -/
theorem exists_alternative_of_optionsAt?
    {specs : List Spec}
    {schema : Schema}
    {steps : List Schema.Step}
    (made : compileAlternatives compiler types scope specs = .ok schema)
    (found : (schema.optionsAt? steps).isSome = true) :
    ∃ before spec after rest, specs = before ++ spec :: after ∧
      steps = SpecFrame.alternativeSteps before after ++ rest := by
  induction specs generalizing schema steps with
  | nil =>
      rw [compileAlternatives] at made
      cases made
  | cons first others hypothesis =>
      cases others with
      | nil => exact ⟨[], first, [], steps, rfl, rfl⟩
      | cons second others =>
          rw [compileAlternatives] at made
          obtain ⟨left, -, made⟩ := Attempt.bind_eq_ok.mp made
          obtain ⟨right, rightMade, same⟩ := Attempt.bind_eq_ok.mp made
          cases same
          cases steps with
          | nil => cases found
          | cons step rest =>
              cases step with
              | left => exact ⟨[], first, second :: others, rest, rfl, rfl⟩
              | right =>
                  obtain ⟨before, spec, after, more, same, rfl⟩ := hypothesis rightMade found
                  exact ⟨first :: before, spec, after, more, by rw [same]; rfl, rfl⟩
              | _ => cases found

/-- Whether every map in the schema of a specification has an origin. -/
def HasOrigins
    (compiler : Compiler)
    (types : List (String × Spec))
    (spec : Spec) : Prop :=
  ∀ enclosing scope root schema steps, compileSpec compiler types scope root spec = .ok schema →
    (schema.optionsAt? steps).isSome = true →
      ∃ origin, Leads types enclosing spec steps origin

/-- Behind the steps to a gap, a map has an origin in what fills the gap. -/
theorem exists_leads_of_fill
    (frame : SpecFrame)
    {filler : Spec}
    {whole : Schema}
    {rest : List Schema.Step}
    (inner : HasOrigins compiler types filler)
    (made : compileSpec compiler types scope root (frame.fill filler) = .ok whole)
    (found : (whole.optionsAt? (frame.steps ++ rest)).isSome = true)
    (enclosing : List CompileOptions) :
    ∃ origin, Leads types enclosing (frame.fill filler) (frame.steps ++ rest) origin := by
  obtain ⟨part, compiled, reached, -⟩ := exists_inner_of_fill made
  rw [Schema.optionsAt?_append reached] at found
  obtain ⟨origin, leads⟩ := inner (frame.enclosing enclosing) _ _ part rest compiled found
  exact ⟨origin, .fill enclosing frame filler rest origin leads⟩

/-- If every map in the type of a name has an origin, so has every map in the name. -/
theorem exists_leads_of_compileName
    {name : String}
    {extra : List Predicate}
    {schema : Schema}
    {steps : List Schema.Step}
    (shorter : ∀ type, types.lookup name = some type →
      HasOrigins compiler (without types name) type)
    (made : compileName compiler types scope name extra = .ok schema)
    (found : (schema.optionsAt? steps).isSome = true)
    (enclosing : List CompileOptions) :
    ∃ type origin, Tag.ofName? name = none ∧ types.lookup name = some type ∧
      Leads types enclosing type steps origin := by
  cases named : Tag.ofName? name with
  | some tag =>
      rw [compileName, named] at made
      obtain ⟨chain, -, same⟩ := Attempt.bind_eq_ok.mp made
      cases same
      cases steps with
      | nil => cases found
      | cons step rest => cases step <;> cases found
  | none =>
      obtain ⟨type, known⟩ := exists_lookup_of_resolves named ⟨scope, extra, schema, made⟩
      obtain ⟨plain, compiled, -, constrained⟩ := exists_type_of_compileName named known made
      rw [Schema.optionsAt?_of_constrain constrained] at found
      obtain ⟨origin, leads⟩ := shorter type known enclosing _ _ plain steps compiled found
      refine ⟨type, origin, rfl, known, leads.mono fun other inner present => ?_⟩
      have differs : other ≠ name := by
        rintro rfl
        simp at present
      rwa [lookup_without_of_ne differs] at present

namespace HasOrigins

variable {rest : List Spec}

/-- A map of keys has origins if the values of its entries have. -/
theorem keys
    {entries : List (Value × Spec)}
    (values : ∀ entry ∈ entries, HasOrigins compiler types entry.2) :
    HasOrigins compiler types (.map entries) := by
  intro enclosing scope root schema steps made found
  cases steps with
  | nil => exact ⟨_, .here enclosing _ rfl⟩
  | cons step steps =>
      have mapped := made
      rw [compileSpec_keys] at mapped
      obtain ⟨before, name, spec, after, rfl, rfl⟩ := exists_entry_of_optionsAt? mapped found
      exact exists_leads_of_fill (.entry before name after) (values (name, spec) (by simp)) made
        found enclosing

/-- The same for a map of keys with predicates. -/
theorem map
    {entries : List (Value × Spec)}
    (values : ∀ entry ∈ entries, HasOrigins compiler types entry.2) :
    HasOrigins compiler types (.tuple (.text "map" :: .map entries :: rest)) := by
  intro enclosing scope root schema steps made found
  cases steps with
  | nil => exact ⟨_, .here enclosing _ rfl⟩
  | cons step steps =>
      have mapped := made
      rw [compileSpec_map] at mapped
      obtain ⟨before, name, spec, after, rfl, rfl⟩ := exists_entry_of_optionsAt? mapped found
      exact exists_leads_of_fill (.key before name after rest) (values (name, spec) (by simp)) made
        found enclosing

/-- A list of alternatives has origins if all of them have. -/
theorem alternatives
    {first second : Spec}
    (each : ∀ spec ∈ first :: second :: rest, HasOrigins compiler types spec) :
    HasOrigins compiler types (.list (first :: second :: rest)) := by
  intro enclosing scope root schema steps made found
  have alternatives := made
  rw [compileSpec_alternatives] at alternatives
  obtain ⟨before, spec, after, more, same, rfl⟩ :=
    exists_alternative_of_optionsAt? alternatives found
  rw [same] at made each ⊢
  exact exists_leads_of_fill (.alternative before after) (each spec (by simp)) made found enclosing

/-- A list has origins if its member has. -/
theorem list
    {member : Spec}
    (inner : HasOrigins compiler types member) :
    HasOrigins compiler types (.tuple (.text "list" :: member :: rest)) := by
  intro enclosing scope root schema steps made found
  obtain ⟨chain, type, -, -, rfl⟩ := compileSpec_list_eq_ok.mp made
  cases steps with
  | nil => cases found
  | cons step steps =>
      cases step with
      | member => exact exists_leads_of_fill (.member rest) inner made found enclosing
      | _ => cases found

/-- A union has origins if both sides have. -/
theorem union
    {left right : Spec}
    (lefts : HasOrigins compiler types left)
    (rights : HasOrigins compiler types right) :
    HasOrigins compiler types (.tuple (.text "union" :: left :: right :: rest)) := by
  intro enclosing scope root schema steps made found
  obtain ⟨first, second, entries, options, -, -, -, -, rfl⟩ := compileSpec_union_eq_ok.mp made
  cases steps with
  | nil => cases found
  | cons step steps =>
      cases step with
      | left => exact exists_leads_of_fill (.left right rest) lefts made found enclosing
      | right => exact exists_leads_of_fill (.right left rest) rights made found enclosing
      | _ => cases found

/-- A cast has origins if both sides have. -/
theorem cast
    {input output : Spec}
    (inputs : HasOrigins compiler types input)
    (outputs : HasOrigins compiler types output) :
    HasOrigins compiler types (.tuple (.text "cast" :: input :: output :: rest)) := by
  intro enclosing scope root schema steps made found
  obtain ⟨entries, first, second, -, -, -, cast⟩ := compileSpec_cast_eq_ok.mp made
  obtain ⟨-, caster, options, -, -, rfl⟩ := castOf_eq_ok.mp cast
  cases steps with
  | nil => cases found
  | cons step steps =>
      cases step with
      | input => exact exists_leads_of_fill (.input output rest) inputs made found enclosing
      | output => exact exists_leads_of_fill (.output input rest) outputs made found enclosing
      | _ => cases found

end HasOrigins

/-- Every map in the schema of a specification has an origin. The type of a name has its origins
with fewer types, and everything else is inside the specification. -/
theorem hasOrigins
    (compiler : Compiler)
    (types : List (String × Spec))
    (spec : Spec) :
    HasOrigins compiler types spec := by
  induction size : types.length using Nat.strongRecOn generalizing types spec with
  | ind count shorter =>
      subst size
      have names (name : String) (type : Spec) (known : types.lookup name = some type) :
          HasOrigins compiler (without types name) type :=
        shorter _ (length_without_lt types name type known) _ _ rfl
      induction spec using Spec.induct with
      | definition name inner options hypothesis =>
          intro enclosing scope root schema steps made found
          exact exists_leads_of_fill (.definition name options) hypothesis made found enclosing
      | compiled type => exact fun enclosing _ _ _ steps _ _ => ⟨_, .compiled enclosing type steps⟩
      | text name =>
          intro enclosing scope root schema steps made found
          rw [compileSpec_text] at made
          obtain ⟨type, origin, unnamed, known, leads⟩ :=
            exists_leads_of_compileName (names name) made found enclosing
          exact ⟨origin, .name enclosing name type steps origin unnamed known leads⟩
      | keys entries hypothesis => exact .keys hypothesis
      | alternatives first second rest hypothesis => exact .alternatives hypothesis
      | type name rest =>
          intro enclosing scope root schema steps made found
          obtain ⟨text, extra, rfl, -, named⟩ := compileSpec_type_eq_ok.mp made
          obtain ⟨type, origin, unnamed, known, leads⟩ :=
            exists_leads_of_compileName (names text) named found enclosing
          exact ⟨origin, .type enclosing text rest type steps origin unnamed known leads⟩
      | list member rest hypothesis => exact .list hypothesis
      | map entries rest hypothesis => exact .map hypothesis
      | union left right rest leftHypothesis rightHypothesis =>
          exact .union leftHypothesis rightHypothesis
      | cast input output rest inputHypothesis outputHypothesis =>
          exact .cast inputHypothesis outputHypothesis
      | misshapen spec refused =>
          intro enclosing scope root schema steps made found
          obtain ⟨cause, -, refused⟩ := refused
          rw [refused] at made
          cases made

end Origins

section Rescoped

/-- Two compilers side by side, whatever options are in force, where schemas are compared without
the options of maps. -/
def unscopedComparison (compiler other : Compiler) : Comparison where
  compiler
  other
  scopes _ _ := True
  faults _ _ := True
  related := Schema.Rescoped

variable
  {compiler other : Compiler}
  {types others : List (String × Spec)}

theorem isParallel_unscopedComparison
    (predicates : other.predicates = compiler.predicates)
    (registered : ∀ name, compiler.types.isRegistered name = other.types.isRegistered name) :
    (unscopedComparison compiler other).IsParallel where
  predicate := by rw [unscopedComparison, predicates]
  registered := registered
  enter _ _ _ _ := trivial
  ofFaults _ := trivial
  reflexive _ := rfl
  list chain _ _ same := congrArg (Schema.list chain) same
  map chain _ _ _ _ _ same :=
    congrArg (fun keys => Schema.map chain keys false .same)
      (Schema.unscopedKeys_eq_of_parallel same)
  union _ _ _ _ options lefts rights :=
    congrArg₂ (fun left right => Schema.union left right options) lefts rights
  cast _ _ _ _ caster options inputs outputs :=
    congrArg₂ (fun input output => Schema.cast input output caster options) inputs outputs
  tag _ _ same := Schema.Rescoped.tag_eq same
  constrain _ _ extra same := (Schema.Rescoped.constrain same extra).matches_any

/-- Specifications that differ in the options of definitions are compiled to schemas that differ
at most in the options of maps, if the names in them are. -/
theorem together_of_rescoped
    (parallel : (unscopedComparison compiler other).IsParallel)
    (names : (unscopedComparison compiler other).NamesTogether types others)
    {spec otherSpec : Spec}
    (rescoped : spec.Rescoped otherSpec) :
    (unscopedComparison compiler other).Together types others spec otherSpec := by
  induction rescoped with
  | refl spec => exact .refl parallel names spec
  | options name spec before after =>
      refine ⟨rfl, fun scope otherScope root _ => ?_⟩
      rw [compileSpec_definition, compileSpec_definition]
      exact (Comparison.Together.refl parallel names spec).matched _ _ [] trivial
  | fill frame spec otherSpec _ hypothesis =>
      exact .fill parallel names (fun _ _ => trivial) hypothesis frame
  | trans spec between otherSpec _ _ first second =>
      refine ⟨first.keyed.trans second.keyed, fun scope otherScope root _ => ?_⟩
      have composes (schema middle last : Schema) :
          schema.Rescoped middle → middle.Rescoped last → schema.Rescoped last :=
        Schema.Rescoped.trans
      have there := (first.matched scope otherScope root trivial).agree
      have back := ((Comparison.Together.refl parallel names between).matched scope otherScope root
        trivial).agree.symm fun _ _ => Schema.Rescoped.symm
      have again := (second.matched scope otherScope root trivial).agree
      exact (there.trans composes (back.trans composes again)).matches_any

theorem lookup_rel_of_rescoped
    (rescoped : List.Forall₂ (fun type other => type.1 = other.1 ∧ type.2.Rescoped other.2)
      types others)
    (name : String) :
    Option.Rel Spec.Rescoped (types.lookup name) (others.lookup name) := by
  induction rescoped with
  | nil => exact .none
  | @cons type other rest otherRest same _ hypothesis =>
      obtain ⟨known, spec⟩ := type
      obtain ⟨_, otherSpec⟩ := other
      obtain ⟨rfl, same⟩ := same
      rw [List.lookup_cons, List.lookup_cons]
      cases name == known with
      | true => exact .some same
      | false => exact hypothesis

end Rescoped

/-- Options are lexically scoped. Going along a specification as one goes along its schema, one
comes to where every map has its options from, and the map has the options that are in force
there: those of the innermost definitions, or else of the compilation, or else of the settings,
unless the map is of a schema that was compiled before. With other options, of definitions, of the
compilation or of the settings, nothing in the schema changes but the options of maps. -/
theorem compile_scoped
    (compiler : Compiler)
    (spec : Spec)
    (options : CompileOptions) :
    (∀ schema, compiler.compile spec options = .ok schema →
      (∀ steps, (schema.optionsAt? steps).isSome = true →
        ∃ origin, Leads compiler.types.types [options] spec steps origin) ∧
      ∀ steps origin, Leads compiler.types.types [options] spec steps origin →
        schema.optionsAt? steps = origin.options? compiler.settings) ∧
    ∀ (other : Compiler) (otherSpec : Spec) (otherOptions : CompileOptions),
      other.predicates = compiler.predicates →
      List.Forall₂ (fun type other => type.1 = other.1 ∧ type.2.Rescoped other.2)
        compiler.types.types other.types.types →
      spec.Rescoped otherSpec →
        Attempt.Agree Schema.Rescoped (compiler.compile spec options)
          (other.compile otherSpec otherOptions) := by
  refine ⟨fun schema made => ⟨fun steps found => ?_, fun steps origin leads => ?_⟩, ?_⟩
  · exact hasOrigins compiler _ spec _ _ _ schema steps made found
  · rw [compile, Settings.enter_scope] at made
    exact optionsAt?_of_leads leads made
  · intro other otherSpec otherOptions predicates types rescoped
    have alike := lookup_rel_of_rescoped types
    have registered (name : String) :
        compiler.types.isRegistered name = other.types.isRegistered name := by
      have found := alike name
      rw [TypeRegistry.isRegistered, TypeRegistry.isRegistered]
      generalize compiler.types.types.lookup name = first at found ⊢
      generalize other.types.types.lookup name = second at found ⊢
      cases found <;> rfl
    have parallel := isParallel_unscopedComparison predicates registered
    have names := parallel.names (fun _ _ names _ _ => together_of_rescoped parallel names) alike
    exact ((together_of_rescoped parallel names rescoped).matched _ _ [] trivial).agree

/-- A compiler that knows the lines of orders, which have their own names on the wire. -/
def orders : Compiler where
  types :=
    ⟨[("line", .definition "line" (.map [(.text "unit_price", .text "integer")])
      ⟨none, some .camel, []⟩)]⟩
  predicates := .standard
  settings := .standard

/-- An order that renames its entries, with lines and with a map that was compiled before. -/
def orderSpec : Spec :=
  .definition "order"
    (.map
      [(.text "lines", .tuple [.text "list", .text "line"]),
        (.text "extra", .compiled (.map [.typeCheck .map] [] false .camel))])
    ⟨some (.bool true), none, []⟩

/-- Options of a compilation in which maps keep the names of their keys. -/
def sameNames : CompileOptions := ⟨none, some .same, []⟩

theorem compile_order : ∃ schema, orders.compile orderSpec sameNames = .ok schema := by
  have integer (types : List (String × Spec)) (scope : Scope) :
      compileName orders types scope "integer" [] =
        .ok (.primitive .integer [.typeCheck .integer]) := by
    rw [compileName]
    rfl
  have line (scope : Scope) : compileName orders orders.types.types scope "line" [] = _ :=
    compileName_of_lookup (by decide) rfl scope []
  simp [orderSpec, Compiler.compile, Compiler.compileSpec, Compiler.compileMap,
    Compiler.compileKeys, Compiler.compileEntry, Compiler.declaredKey, integer, line]
  exact ⟨_, rfl⟩

theorem compile_scoped_order :
    ∃ schema, orders.compile orderSpec sameNames = .ok schema ∧
      schema.optionsAt? [] = some (true, .same) ∧
      schema.optionsAt? [.key 0, .member] = some (true, .camel) ∧
      schema.optionsAt? [.key 1] = some (false, .camel) ∧
      Attempt.Agree Schema.Rescoped (orders.compile orderSpec sameNames)
        (Compiler.compile { orders with settings := ⟨true, true, true⟩ } orderSpec .none) := by
  obtain ⟨schema, made⟩ := compile_order
  obtain ⟨origins, same⟩ := compile_scoped orders orderSpec sameNames
  have options := (origins schema made).2
  refine ⟨schema, made, ?_, ?_, ?_, same _ _ _ rfl ?_ (.refl _)⟩
  · exact options _ _ (.fill _ (.definition "order" _) _ _ _ (.here _ _ rfl))
  · exact options _ _ (.fill _ (.definition "order" _) _ _ _
      (.fill _ (.entry [] (.text "lines") _) _ _ _
        (.fill _ (.member []) _ _ _
          (.name _ "line" _ _ _ (by decide) rfl
            (.fill _ (.definition "line" _) _ _ _ (.here _ _ rfl))))))
  · exact options _ _ (.fill _ (.definition "order" _) _ _ _
      (.fill _ (.entry [_] (.text "extra") []) _ _ _ (.compiled _ _ [])))
  · exact .cons ⟨rfl, .refl _⟩ .nil

end Compiler
end DataContract
