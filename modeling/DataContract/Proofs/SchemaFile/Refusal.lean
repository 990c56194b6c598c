import DataContract.Proofs.SchemaFile.Form
import DataContract.Proofs.SchemaFile.Predicates
import DataContract.Proofs.Spec.Refusal

/-!
# Refused schema files

A document is read or refused with a message if it can be written and no part is inside
itself, whatever its entries are. What is read is compiled or refused with a message if
besides the options of casts have names. Reading takes over all that stands beside the two
sides of a cast, and a key that is no name is not noticed before the cast is made.
-/

namespace DataContract
namespace SchemaFile

open Attempt

/-- Whether a value can be written and is nowhere inside itself. -/
def IsTame (value : Value) : Prop :=
  value.isWritable = true ∧ value.IsAcyclic

theorem isPervasive_isTame : Value.IsPervasive IsTame :=
  Value.isPervasive_isWritable.and Value.isPervasive_isAcyclic

section Reading

variable {location : String}

/-- A value that can be written has a plain text. -/
theorem tellsMistakes_write
    {value : Value}
    (writable : value.isWritable = true) :
    TellsMistakes value.write := by
  have plain : value.hasPlain = true := by
    unfold Value.hasPlain
    split
    · rfl
    · exact writable
  rw [Value.write, if_pos plain]
  exact .ok _

theorem tellsMistakes_predicatesOf
    {given : Option Value}
    (writable : ∀ value ∈ given, value.isWritable = true) :
    TellsMistakes (predicatesOf location given) := by
  have single {item : Value} (writable : item.isWritable = true) :
      TellsMistakes (predicateOf location item) := by
    unfold predicateOf
    split
    · exact .ok _
    · exact .ok _
    · exact tellsMistakes_refuse (by simpa [DefinitionFault.values] using writable)
  unfold predicatesOf
  split
  · exact .ok _
  · rename_i items
    have each := Value.areWritable_iff.mp (writable _ rfl)
    exact .mapM fun item member => single (each item member)
  · exact .bind (single (writable _ rfl)) fun predicate _ => .ok _

/-- A description that is missing something is refused with a message that shows nothing. -/
theorem tellsMistakes_describe
    (location : String)
    (entries : Entries) :
    TellsMistakes (describe location entries) := by
  have refused {cause : DefinitionFault} (nothing : cause.values = []) :
      TellsMistakes (refuse cause : Attempt Description) :=
    tellsMistakes_refuse (by simp [nothing])
  unfold describe describeCast
  repeat' split
  all_goals first
    | exact .ok _
    | exact refused rfl

/-- Keys are read or refused if their entries are. -/
theorem tellsMistakes_parseKeys
    {entries : Entries}
    (writable : ∀ entry ∈ entries, entry.1.isWritable = true)
    (each : ∀ entry ∈ entries, ∀ location, TellsMistakes (parseEntry location entry.2)) :
    TellsMistakes (parseKeys location entries) := by
  induction entries with
  | nil =>
      rw [parseKeys]
      exact .ok _
  | cons entry rest hypothesis =>
      rw [List.forall_mem_cons] at writable each
      have name := holds_declared Value.isPervasive_isWritable writable.1
      rw [parseKeys]
      refine .bind (tellsMistakes_write name) fun text _ => ?_
      refine .bind (each.1 _) fun spec _ => ?_
      exact .bind (hypothesis writable.2 each.2) fun others _ => .ok _

/-- Alternatives are read or refused if each of them is. -/
theorem tellsMistakes_parseOptions
    {options : List Value}
    (each : ∀ option ∈ options, ∀ location, TellsMistakes (parseEntry location option)) :
    TellsMistakes (parseOptions location options) := by
  induction options with
  | nil =>
      rw [parseOptions]
      exact .ok _
  | cons option rest hypothesis =>
      rw [List.forall_mem_cons] at each
      rw [parseOptions]
      refine .bind (each.1 _) fun spec _ => ?_
      exact .bind (hypothesis each.2) fun others _ => .ok _

/-- There is a place for the predicates beside whatever is read. -/
theorem tellsMistakes_withPredicates
    {extra : List Spec}
    {spec : Spec}
    (shape : IsConstrainable spec) :
    TellsMistakes (withPredicates location extra spec) := by
  obtain ⟨result, made, -⟩ :
      ∃ result, withPredicates location extra spec = .ok result ∧ IsConstrainable result :=
    shape.exists_withPredicates
  rw [made]
  exact .ok result

/-- What is described is read or refused if the entries inside it are. -/
theorem tellsMistakes_read
    {description : Description}
    {predicates : List Spec}
    (tame : ∀ value ∈ description.values, IsTame value)
    (each : ∀ part ∈ description.entries, ∀ location, TellsMistakes (parseEntry location part)) :
    TellsMistakes (description.read location predicates) := by
  cases description with
  | type name => exact .ok _
  | list member => exact .bind (each member (by simp [Description.entries]) _) fun spec _ => .ok _
  | map keys =>
      have keysTame := (isPervasive_isTame.map keys).mp (tame _ (by simp [Description.values]))
      refine .bind (tellsMistakes_parseKeys (fun entry member => (keysTame entry member).1.1)
        fun entry member => each entry.2 (List.mem_map_of_mem member)) fun specs _ => .ok _
  | union options =>
      refine .bind (tellsMistakes_parseOptions each) fun specs read => ?_
      refine tellsMistakes_withPredicates (.union specs fun spec member => ?_)
      have shapes : List.Forall₂ (fun _ spec => IsConstrainable spec) options specs :=
        forall₂_of_parseOptions (fun _ _ _ _ => isConstrainable_of_parseEntry) read
      obtain ⟨option, -, shape⟩ := Attempt.exists_item_of_mem shapes member
      exact shape
  | cast source output options =>
      refine .bind (each source (by simp [Description.entries]) _) fun input _ => ?_
      refine .bind (each output (by simp [Description.entries]) _) fun result read => ?_
      exact tellsMistakes_withPredicates
        (.cast input result _ (isConstrainable_of_parseEntry read))

/-- An entry is read, or refused with a message. -/
theorem tellsMistakes_parseEntry
    {entry : Value}
    (tame : IsTame entry)
    (location : String) :
    TellsMistakes (parseEntry location entry) := by
  induction entry using induct generalizing location with
  | name name =>
      rw [parseEntry]
      exact .ok _
  | keys entries plain hypothesis =>
      rw [isPervasive_isTame.map] at tame
      rw [parseEntry_map, plain, if_neg Bool.false_ne_true]
      refine .bind (tellsMistakes_parseKeys (fun entry member => (tame entry member).1.1)
        fun entry member => hypothesis entry member (tame entry member).2) fun keys _ => .ok _
  | described entries reserved hypothesis =>
      rw [parseEntry_map, if_pos reserved]
      refine .bind (tellsMistakes_predicatesOf fun value found => ?_) fun predicates _ => ?_
      · exact (holds_of_get? isPervasive_isTame tame found).1
      · refine .bind (tellsMistakes_describe location entries) fun description described => ?_
        have stands := standsIn_of_describe described
        have values := stands.holds isPervasive_isTame tame
        refine tellsMistakes_read values fun part inside => ?_
        exact hypothesis description stands part inside
          (Description.holds_entries isPervasive_isTame values part inside)
  | other entry unnamed unmapped =>
      have unsigned (parts : List Value) : entry ≠ .record .sign parts := by
        rintro rfl
        cases tame.2
        contradiction
      rw [parseEntry_other unnamed unsigned unmapped]
      exact tellsMistakes_refuse (by simpa [DefinitionFault.values] using tame.1)

/-- A document is read, or refused with a message. -/
theorem tellsMistakes_parseDocument
    {document : Entries}
    (tame : IsTame (.map document))
    (location : String) :
    TellsMistakes (parseKeys location document) := by
  rw [isPervasive_isTame.map] at tame
  exact tellsMistakes_parseKeys (fun entry member => (tame entry member).1.1)
    fun entry member => tellsMistakes_parseEntry (tame entry member).2

end Reading

section Compiling

variable {property : Value → Prop}

/-- Whether all options have names. -/
def AreNamed (options : Entries) : Prop :=
  ∀ option ∈ options, ∃ name, option.1.asName = .ok name

/-- Options with names are given as the options of casts must be. -/
theorem exists_namedOptions
    {options : Entries}
    (named : AreNamed options) :
    ∃ found, Spec.namedOptions (Compiler.takeCaster (Spec.ofEntries options)).2 = .ok found := by
  have total : StopsOnlyWith (fun _ => False)
      (Spec.namedOptions (Compiler.takeCaster (Spec.ofEntries options)).2) := by
    refine .bind (.mapM fun entry member => ?_) fun pairs _ => .ok _
    obtain ⟨inside, -⟩ := List.mem_filter.mp member
    rw [Spec.ofEntries_eq_map] at inside
    obtain ⟨option, among, rfl⟩ := List.mem_map.mp inside
    obtain ⟨name, read⟩ := named option among
    exact .bind (by rw [read]; exact .ok _) fun name _ => .ok _
  cases made : Spec.namedOptions (Compiler.takeCaster (Spec.ofEntries options)).2 with
  | ok found => exact ⟨found, rfl⟩
  | error fault => exact (total fault made).elim

/-- Predicates as entries list them can be gone through. -/
theorem AreListed.listsPredicates
    {predicates : List Spec}
    (listed : AreListed property predicates) :
    (Spec.list predicates).ListsPredicates := by
  refine ⟨predicates, ?_, fun entries member => ((listed _ member).2 entries rfl).elim⟩
  unfold Compiler.predicateItems
  cases predicates with
  | nil => rfl
  | cons first rest => rfl

/-- Nothing that is loaded brings a tag along. -/
theorem IsLoaded.ownTag?_eq_none
    {given : Entries → Prop}
    {spec : Spec}
    (loaded : IsLoaded property given spec) :
    spec.ownTag? = none := by
  induction loaded with
  | cast source output options _ _ held allowed _ outputHypothesis =>
      rw [Spec.ownTag?, outputHypothesis]
  | _ => rfl

/-- All positions of a loaded specification are readable if the options of casts have
names. -/
theorem IsLoaded.isReadable
    {spec : Spec}
    (loaded : IsLoaded property AreNamed spec) :
    ∀ part, spec.HasPosition part → part.IsReadable := by
  induction loaded with
  | name name =>
      rintro part ⟨⟩
      trivial
  | keys entries names each hypothesis =>
      intro part inside
      cases inside with
      | self => trivial
      | entry _ entry part member inside => exact hypothesis entry member part inside
  | type name predicates held listed =>
      intro part inside
      rw [Spec.hasPosition_type.mp inside]
      exact listed.listsPredicates
  | list spec predicates inner listed hypothesis =>
      intro part inside
      rcases Spec.hasPosition_list.mp inside with rfl | inside
      · exact listed.listsPredicates
      · exact hypothesis part inside
  | map entries predicates names each listed hypothesis =>
      intro part inside
      rcases Spec.hasPosition_map.mp inside with rfl | ⟨entry, member, inside⟩
      · exact listed.listsPredicates
      · exact hypothesis entry member part inside
  | union specs each hypothesis =>
      intro part inside
      cases inside with
      | self => trivial
      | alternative _ spec part member inside => exact hypothesis spec member part inside
  | cast source output options sourceLoaded outputLoaded held allowed sourceHypothesis
      outputHypothesis =>
      intro part inside
      rcases Spec.hasPosition_cast.mp inside with rfl | inside | inside
      · obtain ⟨found, named⟩ := exists_namedOptions allowed
        refine ⟨Spec.ofEntries options, found, rfl, named, fun _ => ?_⟩
        rw [sourceLoaded.ownTag?_eq_none, outputLoaded.ownTag?_eq_none]
        simp
      · exact sourceHypothesis part inside
      · exact outputHypothesis part inside

end Compiling

/-- The schema that a document is read and compiled to. -/
def compileDocument
    (location : String)
    (document : Entries) : Attempt Schema := do
  Compiler.standard.compile (.map (← parseKeys location document)) .none

/-- A document comes to a schema or is refused with a message if it can be written, no part of
it is inside itself, and the options of all casts that are read have names. -/
theorem compileDocument_named
    (location : String)
    (document : Entries)
    (writable : (Value.map document).isWritable = true)
    (acyclic : (Value.map document).IsAcyclic)
    (named : ∀ entry ∈ document, AllowsCasts AreNamed entry.2) :
    (∃ schema, compileDocument location document = .ok schema) ∨
      ∃ cause, compileDocument location document = .error (.definition cause) := by
  have tame : IsTame (.map document) := ⟨writable, acyclic⟩
  refine exists_ok_or_definition (.bind (tellsMistakes_parseDocument tame location) ?_)
  intro keys read
  have loaded := isLoaded_of_parseKeys isPervasive_isTame tame named read
  have written : (Spec.map keys).IsWritable := (loaded.holds isPervasive_isTame).1
  exact Compiler.isDecided_of_isReadable loaded.isReadable written _ _

/-- A document with the moment of joining as a number of seconds, which may be missing. -/
def joinedDocument : Entries :=
  [(.text "?joined",
    .map
      [(.text "cast",
        .map
          [(.text "from", .text "integer"), (.text "to", .text "date_time"),
          (.text "unit", .text "second")]),
      (.text "predicates", .list [.text "filled?"])])]

theorem allowsCasts_joined : ∀ entry ∈ joinedDocument, AllowsCasts AreNamed entry.2 := by
  intro entry member
  obtain rfl := List.mem_singleton.mp member
  intro part options inside cast
  cases inside with
  | self =>
      obtain ⟨_, _, source, output, ⟨⟩, -, described⟩ := cast
      cases described
      rintro option among
      obtain rfl := List.mem_singleton.mp among
      exact ⟨"unit", rfl⟩
  | key _ _ _ plain => cases plain
  | inner _ description entry _ _ _ described member inside =>
      cases described
      simp only [Description.entries, List.mem_cons, List.not_mem_nil, or_false] at member
      rcases member with rfl | rfl
      · cases inside
        obtain ⟨_, _, _, _, ⟨⟩, -⟩ := cast
      · cases inside
        obtain ⟨_, _, _, _, ⟨⟩, -⟩ := cast

theorem compileDocument_named_joined :
    (∃ schema, compileDocument "<schema>" joinedDocument = .ok schema) ∨
      ∃ cause, compileDocument "<schema>" joinedDocument = .error (.definition cause) := by
  have acyclic : (Value.map joinedDocument).IsAcyclic := by
    simp [joinedDocument, Value.isPervasive_isAcyclic.map, Value.isPervasive_isAcyclic.list,
      Value.IsAcyclic.scalar]
  exact compileDocument_named "<schema>" joinedDocument rfl acyclic allowsCasts_joined

/-- An option of a cast under a number is read, but no cast can be made with it, and no message
says so. -/
theorem compileDocument_number_as_option :
    compileDocument "<schema>"
        [(.text "a",
          .map
            [(.text "cast",
              .map
                [(.text "from", .text "string"), (.text "to", .text "integer"),
                (.int 1, .int 2)])])] =
      .error .invalidField := by
  have read : parseKeys "<schema>"
      [(.text "a",
        .map
          [(.text "cast",
            .map
              [(.text "from", .text "string"), (.text "to", .text "integer"),
              (.int 1, .int 2)])])] =
      .ok [(.tuple [.text "required", .text "a"],
        .tuple
          [.text "cast", .text "string", .text "integer",
          .map [(.int 1, .scalar (.int 2))]])] := by
    cbv
  rw [compileDocument, read]
  simp [Compiler.compile, Compiler.compileSpec, Compiler.compileMap, Compiler.compileKeys,
    Compiler.compileEntry, Compiler.compileName, Compiler.declaredKey]
  rfl

end SchemaFile
end DataContract
