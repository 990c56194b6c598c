import DataContract.Casting.Default
import DataContract.Proofs.Predicate.TypeCheck
import DataContract.Proofs.Schema.Report

/-!
# Inhabitants of schemas

A schema is a description of values, and this module says which values it
describes, with regard to the value that was examined: a primitive describes a
value of which its predicates hold, a list as many inhabitants of its member as
the examined sequence has items, a map inhabitants of the schemas of its keys
under their names, a union an inhabitant of either alternative, and a cast an
inhabitant of its output.

Whatever validation answers with inhabits the schema. What it answers with is
put together anew at every node, so this is said about the answer and not about
the examined value.
-/

namespace DataContract

mutual

/-- Whether an output inhabits a schema as the answer for a value. -/
def Schema.Inhabits : Schema → Value → Value → Prop
  | .primitive _ chain, value, output =>
      output = value ∧ ∀ predicate ∈ chain, predicate.holds output = .ok true
  | .list _ member, value, output =>
      ∃ items outputs, value.items? = some items ∧ output = .list outputs ∧
        List.Forall₂ member.Inhabits items outputs
  | .map _ keys atomize style, value, output =>
      ∃ data entries, mapData keys atomize style value = .ok data ∧ output = .map entries ∧
        (entries.map Prod.fst).Sublist (keys.map Key.name) ∧
        (∀ key ∈ keys, key.presence = .required → key.name ∈ entries.map Prod.fst) ∧
        ∀ entry ∈ entries, EntryInhabits keys data entry
  | .union left right _, value, output =>
      left.Inhabits value output ∨ right.Inhabits value output
  | .cast input output caster options, value, answer =>
      ∃ accepted given, input.validate value = .ok (.ok accepted) ∧
        caster.run input.tag output.tag accepted options.entries = .ok given ∧
        output.Inhabits given answer
  | .custom type, value, output => type.now.validate value = .ok (.ok output)

/-- Whether an entry has the name of one of the keys and a value that inhabits the
schema of that key, as the answer for what the data has under the name. -/
def EntryInhabits : List Key → Value → Value × Value → Prop
  | [], _, _ => False
  | .mk _ name _ type _ :: rest, data, entry =>
      (entry.1 = name ∧
        ∃ value, data.entry? name = .ok (some value) ∧ type.Inhabits value entry.2) ∨
      EntryInhabits rest data entry

end

/-- An entry inhabits keys if it inhabits one of them. -/
theorem entryInhabits_iff
    {keys : List Key}
    {data : Value}
    {entry : Value × Value} :
    EntryInhabits keys data entry ↔
      ∃ key ∈ keys, entry.1 = key.name ∧
        ∃ value, data.entry? key.name = .ok (some value) ∧
          key.type.Inhabits value entry.2 := by
  induction keys with
  | nil => simp [EntryInhabits]
  | cons key rest hypothesis =>
      cases key
      simp [EntryInhabits, hypothesis]

section Entries

variable
  {data : Value}
  {keys : List Key}
  {reports : List (Option (Except Failure (Value × Value)))}
  {entries : List (Value × Value)}

/-- Accepted entries have names of keys, in the order of the keys. -/
theorem names_sublist_of_reports
    (reported : List.Forall₂ (fun key report => key.report data = .ok report) keys reports)
    (accepted : reports.filterMap id = entries.map .ok) :
    (entries.map Prod.fst).Sublist (keys.map Key.name) := by
  induction reported generalizing entries with
  | nil => simpa using accepted
  | @cons key report keys reports reported _ hypothesis =>
      cases report with
      | none =>
          exact (hypothesis (by simpa using accepted)).cons _
      | some report =>
          cases entries with
          | nil => simp at accepted
          | cons entry entries =>
              simp only [List.filterMap_cons, id_eq, List.map_cons, List.cons.injEq] at accepted
              obtain ⟨rfl, accepted⟩ := accepted
              have named := (Key.report_eq_accepted.mp reported).1
              simpa only [List.map_cons, named] using (hypothesis accepted).cons_cons key.name

/-- If all entries are accepted, no required key is left out. -/
theorem required_mem_of_reports
    (reported : List.Forall₂ (fun key report => key.report data = .ok report) keys reports)
    (accepted : reports.filterMap id = entries.map .ok)
    {key : Key}
    (member : key ∈ keys)
    (required : key.presence = .required) :
    key.name ∈ entries.map Prod.fst := by
  induction reported generalizing entries with
  | nil => simp at member
  | @cons first report keys reports reported _ hypothesis =>
      cases report with
      | none =>
          have optional := (Key.report_eq_none.mp reported).2
          rcases List.mem_cons.mp member with rfl | member
          · simp [required] at optional
          · exact hypothesis (by simpa using accepted) member
      | some report =>
          cases entries with
          | nil => simp at accepted
          | cons entry entries =>
              simp only [List.filterMap_cons, id_eq, List.map_cons, List.cons.injEq] at accepted
              obtain ⟨rfl, accepted⟩ := accepted
              have named := (Key.report_eq_accepted.mp reported).1
              rcases List.mem_cons.mp member with rfl | member
              · simp [named]
              · exact List.mem_cons_of_mem _ (hypothesis accepted member)

/-- Every accepted entry is the report of a key. -/
theorem exists_report_of_mem
    (reported : List.Forall₂ (fun key report => key.report data = .ok report) keys reports)
    (accepted : reports.filterMap id = entries.map .ok)
    {entry : Value × Value}
    (member : entry ∈ entries) :
    ∃ key ∈ keys, key.report data = .ok (some (.ok entry)) := by
  have listed : .ok entry ∈ reports.filterMap id := by
    rw [accepted]
    exact List.mem_map_of_mem member
  have inside : some (.ok entry) ∈ reports := by
    simpa using listed
  obtain ⟨key, among, report⟩ := Attempt.exists_item_of_mem reported inside
  exact ⟨key, among, report⟩

end Entries

namespace Schema

/-- What a list answers with inhabits it, if what its member answers with does. -/
theorem inhabits_list
    {chain : List Predicate}
    {member : Schema}
    (sound : ∀ value output, member.validate value = .ok (.ok output) →
      member.Inhabits value output)
    {value output : Value}
    (validated : (list chain member).validate value = .ok (.ok output)) :
    (list chain member).Inhabits value output := by
  obtain ⟨-, items, outputs, parts, rfl, each⟩ := validate_list_eq_accepted.mp validated
  refine ⟨items, outputs, parts, rfl, ?_⟩
  exact each.imp fun item answer validated => sound item answer validated

/-- What a map answers with inhabits it, if what the schemas of its keys answer
with does. -/
theorem inhabits_map
    {chain : List Predicate}
    {keys : List Key}
    {atomize : Bool}
    {style : KeyStyle}
    (sound : ∀ key ∈ keys, ∀ value output, key.type.validate value = .ok (.ok output) →
      key.type.Inhabits value output)
    {value output : Value}
    (validated : (map chain keys atomize style).validate value = .ok (.ok output)) :
    (map chain keys atomize style).Inhabits value output := by
  rcases validate_map_eq_ok.mp validated with ⟨failure, -, failed⟩ | ⟨-, answered⟩
  · cases failed
  · obtain ⟨data, reports, read, reported, whole⟩ := keysOutcome_eq_ok.mp answered
    obtain ⟨entries, accepted, rfl⟩ := Parts.outcome_collect_eq_ok.mp whole.symm
    refine ⟨data, entries, read, rfl, names_sublist_of_reports reported accepted, ?_, ?_⟩
    · intro key member required
      exact required_mem_of_reports reported accepted member required
    · intro entry member
      obtain ⟨key, present, report⟩ := exists_report_of_mem reported accepted member
      obtain ⟨named, found, looked, validated⟩ := Key.report_eq_accepted.mp report
      rw [entryInhabits_iff]
      exact ⟨key, present, named, found, looked, sound key present found entry.2 validated⟩

/-- What validation answers with inhabits the schema. -/
theorem inhabits_of_validate
    (schema : Schema)
    (value output : Value)
    (validated : schema.validate value = .ok (.ok output)) :
    schema.Inhabits value output := by
  induction schema generalizing value output with
  | primitive tag chain =>
      obtain ⟨rfl, held⟩ := checkChain_eq_accepted.mp validated
      exact ⟨rfl, held⟩
  | list chain member hypothesis => exact inhabits_list hypothesis validated
  | map chain keys atomize style hypothesis => exact inhabits_map hypothesis validated
  | union left right options leftHypothesis rightHypothesis =>
      rcases validate_union_eq_ok.mp validated with
        ⟨accepted, first, same⟩ | ⟨failure, -, stopped | ⟨-, second⟩⟩
      · cases same
        exact Or.inl (leftHypothesis value output first)
      · cases stopped.2
      · rcases second with ⟨accepted, second, same⟩ | ⟨other, -, failed⟩
        · cases same
          exact Or.inr (rightHypothesis value output second)
        · cases failed
  | cast input result caster options _ resultHypothesis =>
      rcases validate_cast_eq_ok.mp validated with
        ⟨failure, -, failed⟩ | ⟨accepted, given, first, converted, second⟩
      · cases failed
      · exact ⟨accepted, given, first, converted, resultHypothesis given output second⟩
  | custom type => exact validated

/-- A map under names on the wire, of an identifier that may be written as text, a
list of names with gaps and a remark. -/
def profile : Schema :=
  .map [.typeCheck .map]
    [.mk [] (.text "user_id") .required
      (.cast (.primitive .string [.typeCheck .string])
        (.primitive .integer [.typeCheck .integer]) .default [])
      false,
    .mk [] (.text "tags") .optional
      (.list [.typeCheck .list]
        (.union (.primitive .string [.typeCheck .string])
          (.primitive .none [.typeCheck .none]) []))
      false,
    .mk [] (.text "note") .optional (.primitive .any [.typeCheck .any]) false]
    true .camel

theorem inhabits_of_validate_profile :
    profile.Inhabits
      (.map [(.text "tags", .tuple [.text "a", .null]), (.text "userId", .text "42"),
        (.text "extra", .null)])
      (.map [(.text "user_id", .int 42), (.text "tags", .list [.text "a", .null])]) :=
  inhabits_of_validate profile _ _ rfl

end Schema
end DataContract
