import DataContract.Proofs.Fault
import DataContract.Proofs.Rule

/-!
# Answers of rules

The body of a rule may answer with a list of answers, in which there may be lists again. However
they are nested, what counts are the answers at the leaves, from left to right: each of them
reports what it stands for, and the first that stands for nothing is refused. A tuple of two is
an answer of its own, and so are the lists and tuples in it no answers but paths.
-/

namespace DataContract

namespace Value

mutual

/-- The answers inside a value from left to right: a list has those of its items. -/
def leaves : Value → List Value
  | .list items => leavesOfAll items
  | value => [value]

/-- The answers inside several values. -/
def leavesOfAll : List Value → List Value
  | [] => []
  | value :: rest => value.leaves ++ leavesOfAll rest

end

/-- Whether a value gives a path: as a list or a tuple of its segments, or else as the only
segment. -/
inductive GivesPath : Value → Path → Prop
  | list (path : Path) : GivesPath (.list path) path
  | tuple (path : Path) : GivesPath (.tuple path) path
  | segment
      (value : Value)
      (noList : ∀ items, value ≠ .list items)
      (noTuple : ∀ items, value ≠ .tuple items) :
      GivesPath value [value]

/-- Whether a value is a pair of a path and a text, or a failure of a rule, at a path. -/
inductive IsLocated : Value → Path → Prop
  | pair
      {given : Value}
      {path : Path}
      (text : String)
      (gives : given.GivesPath path) :
      IsLocated (.tuple [given, .text text]) path
  | record
      (kind : Value)
      (path : Path)
      (text : String) :
      IsLocated (.record .brokenRule [kind, .tuple path, .text text]) path

/-- Whether a value that is no list stands for no answer: it is neither absent nor a truth value
or a text, and it is not located anywhere. -/
structure IsUnsupported (value : Value) : Prop where
  /-- It is not absent. -/
  present : value ≠ .null
  /-- It is no truth value. -/
  noFlag : ∀ flag, value ≠ .bool flag
  /-- It is no text. -/
  noText : ∀ content, value ≠ .text content
  /-- It is no list. -/
  noList : ∀ items, value ≠ .list items
  /-- It is not located anywhere. -/
  nowhere : ∀ path, ¬ value.IsLocated path

/-- Whether a value reports some failures of the rule with a name. -/
inductive ReportsAs (rule : String) : Value → List Failure → Prop
  | null : ReportsAs rule .null []
  | holds : ReportsAs rule (.bool true) []
  | fails : ReportsAs rule (.bool false) [.rule [] (rule ++ " failed")]
  | text (content : String) : ReportsAs rule (.text content) [.rule [] content]
  | pair
      {given : Value}
      {path : Path}
      (text : String)
      (gives : given.GivesPath path) :
      ReportsAs rule (.tuple [given, .text text]) [.rule path text]
  | record
      (kind : Value)
      (path : Path)
      (text : String) :
      ReportsAs rule (.record .brokenRule [kind, .tuple path, .text text]) [.rule path text]

end Value

open Value

namespace Verdict

/-- The first part of a pair gives the path of its segments. -/
theorem gives_segments (given : Value) : given.GivesPath (segments given) := by
  unfold segments
  split
  · exact .list _
  · exact .tuple _
  · rename_i noList noTuple
    exact .segment given noList noTuple

section Leaves

variable
  {rule : String}
  {value : Value}

mutual

/-- An answer reports what the answers inside it report, one after another. -/
theorem failures_ofValue (value : Value) :
    (ofValue value).failures rule =
      (value.leaves.mapM fun leaf => (ofValue leaf).failures rule).map List.flatten := by
  have alone (leaf : Value) (single : leaf.leaves = [leaf]) :
      (ofValue leaf).failures rule =
        (leaf.leaves.mapM fun leaf => (ofValue leaf).failures rule).map List.flatten := by
    rw [single, List.mapM_cons, List.mapM_nil]
    cases (ofValue leaf).failures rule with
    | error fault => rfl
    | ok found => simp [pure, Except.pure, Except.map]
  cases value with
  | list items =>
      rw [ofValue, failures, leaves]
      exact failuresOfAll_ofValues items
  | _ => exact alone _ rfl

/-- Several answers report what the answers inside them report, one after another. -/
theorem failuresOfAll_ofValues (values : List Value) :
    failuresOfAll rule (ofValues values) =
      ((leavesOfAll values).mapM fun leaf => (ofValue leaf).failures rule).map List.flatten := by
  cases values with
  | nil => rfl
  | cons value rest =>
      rw [ofValues, failuresOfAll, failures_ofValue value, failuresOfAll_ofValues rest, leavesOfAll,
        List.mapM_append]
      cases value.leaves.mapM fun leaf => (ofValue leaf).failures rule with
      | error fault => rfl
      | ok first =>
          cases (leavesOfAll rest).mapM fun leaf => (ofValue leaf).failures rule with
          | error fault => rfl
          | ok others => simp [pure, Except.pure, Except.map]

end


variable {leaf : Value}

mutual

/-- The answers inside a value are no lists. -/
theorem ne_list_of_mem_leaves
    (value : Value)
    (member : leaf ∈ value.leaves)
    (items : List Value) :
    leaf ≠ .list items := by
  cases value with
  | list others => exact ne_list_of_mem_leavesOfAll others member items
  | _ =>
      obtain rfl := List.mem_singleton.mp member
      nofun

/-- The answers inside several values are no lists. -/
theorem ne_list_of_mem_leavesOfAll
    (values : List Value)
    (member : leaf ∈ leavesOfAll values)
    (items : List Value) :
    leaf ≠ .list items := by
  cases values with
  | nil => cases member
  | cons value rest =>
      rcases List.mem_append.mp member with inside | inside
      · exact ne_list_of_mem_leaves value inside items
      · exact ne_list_of_mem_leavesOfAll rest inside items

end

/-- Whether the path at which an answer is located, if it is, consists of segments. -/
def IsUsable (leaf : Value) : Prop :=
  ∀ path, leaf.IsLocated path → ∀ segment ∈ path, segment.isSegment = true

theorem failureAt_of_segments
    {path : Path}
    (text : String)
    (usable : ∀ segment ∈ path, segment.isSegment = true) :
    failureAt path text = .ok (.rule path text) := by
  rw [failureAt, if_pos (List.all_eq_true.mpr usable)]

/-- What an answer that is no list stands for is reported. -/
theorem failures_of_reportsAs
    {found : List Failure}
    (usable : IsUsable leaf)
    (reports : leaf.ReportsAs rule found) :
    (ofValue leaf).failures rule = .ok found := by
  cases reports with
  | null => rfl
  | holds => rfl
  | fails => rfl
  | text content => rfl
  | @pair given path text gives =>
      obtain rfl : path = segments given := by
        cases gives with
        | list => rfl
        | tuple => rfl
        | segment _ noList noTuple =>
            unfold segments
            split
            · exact absurd rfl (noList _)
            · exact absurd rfl (noTuple _)
            · rfl
      have segmented := usable _ (.pair text (gives_segments given))
      rw [ofValue, failures, failureAt_of_segments text segmented]
      rfl
  | record kind path text =>
      have segmented := usable _ (.record kind path text)
      rw [ofValue, failures, failureAt_of_segments text segmented]
      rfl

/-- What stands for no answer is refused, with a message that shows it if it has a text. -/
theorem failures_of_isUnsupported (unsupported : leaf.IsUnsupported) :
    (ofValue leaf).failures rule =
      .error (if leaf.isWritable then .definition (.unsupportedRuleResult rule leaf)
        else .badContent) := by
  have refused : (refuse (.unsupportedRuleResult rule leaf) : Attempt (List Failure)) =
      .error (if leaf.isWritable then .definition (.unsupportedRuleResult rule leaf)
        else .badContent) := by
    simp [refuse, DefinitionFault.values]
  rw [← refused]
  unfold ofValue
  split
  · exact absurd rfl unsupported.present
  · exact absurd rfl (unsupported.noFlag _)
  · exact absurd rfl (unsupported.noText _)
  · exact absurd (.pair _ (gives_segments _)) (unsupported.nowhere _)
  · exact absurd (.record _ _ _) (unsupported.nowhere _)
  · exact absurd rfl (unsupported.noList _)
  · rfl

/-- An answer that is no list stands for something or is unsupported. -/
theorem exists_reportsAs_or_isUnsupported
    (rule : String)
    (single : ∀ items, leaf ≠ .list items) :
    (∃ found, leaf.ReportsAs rule found) ∨ leaf.IsUnsupported := by
  by_cases located : ∃ path, leaf.IsLocated path
  · obtain ⟨path, located⟩ := located
    cases located with
    | pair text gives => exact .inl ⟨_, .pair text gives⟩
    | record kind path text => exact .inl ⟨_, .record kind path text⟩
  have nowhere (path : Path) : ¬ leaf.IsLocated path := fun there => located ⟨path, there⟩
  cases leaf with
  | scalar content =>
      cases content with
      | null => exact .inl ⟨_, .null⟩
      | bool flag =>
          cases flag with
          | true => exact .inl ⟨_, .holds⟩
          | false => exact .inl ⟨_, .fails⟩
      | text content => exact .inl ⟨_, .text content⟩
      | _ => exact .inr ⟨nofun, nofun, nofun, nofun, nowhere⟩
  | list items => exact absurd rfl (single items)
  | _ => exact .inr ⟨nofun, nofun, nofun, nofun, nowhere⟩

/-- What is unsupported stands for nothing. -/
theorem not_isUnsupported_of_reportsAs
    {found : List Failure}
    (reports : leaf.ReportsAs rule found) :
    ¬ leaf.IsUnsupported := by
  intro unsupported
  cases reports with
  | null => exact unsupported.present rfl
  | holds => exact unsupported.noFlag _ rfl
  | fails => exact unsupported.noFlag _ rfl
  | text content => exact unsupported.noText _ rfl
  | pair text gives => exact unsupported.nowhere _ (.pair text gives)
  | record kind path text => exact unsupported.nowhere _ (.record kind path text)

/-- What is reported for an answer that is no list is what it stands for. -/
theorem failures_eq_ok_iff
    {found : List Failure}
    (single : ∀ items, leaf ≠ .list items)
    (usable : IsUsable leaf) :
    (ofValue leaf).failures rule = .ok found ↔ leaf.ReportsAs rule found := by
  constructor
  · intro reported
    rcases exists_reportsAs_or_isUnsupported rule single with ⟨own, reports⟩ | unsupported
    · rw [failures_of_reportsAs usable reports] at reported
      obtain rfl := Except.ok.inj reported
      exact reports
    · rw [failures_of_isUnsupported unsupported] at reported
      cases reported
  · exact failures_of_reportsAs usable

/-- An answer that is no list is refused exactly if it is unsupported. -/
theorem failures_eq_error_iff
    {fault : Fault}
    (single : ∀ items, leaf ≠ .list items)
    (usable : IsUsable leaf) :
    (ofValue leaf).failures rule = .error fault ↔
      leaf.IsUnsupported ∧
        fault = if leaf.isWritable then .definition (.unsupportedRuleResult rule leaf)
          else .badContent := by
  constructor
  · intro stopped
    rcases exists_reportsAs_or_isUnsupported rule single with ⟨own, reports⟩ | unsupported
    · rw [failures_of_reportsAs usable reports] at stopped
      cases stopped
    · rw [failures_of_isUnsupported unsupported] at stopped
      exact ⟨unsupported, (Except.error.inj stopped).symm⟩
  · rintro ⟨unsupported, rfl⟩
    exact failures_of_isUnsupported unsupported

/-- Only absent values and the truth value of what holds report nothing. -/
theorem reportsAs_nil_iff : leaf.ReportsAs rule [] ↔ leaf = .null ∨ leaf = .bool true := by
  constructor
  · rintro (_ | _)
    · exact .inl rfl
    · exact .inr rfl
  · rintro (rfl | rfl)
    · exact .null
    · exact .holds

end Leaves

end Verdict

/-- Whether a rule applies to a value and its body answers with another. -/
structure Rule.AnswersWith
    (rule : Rule)
    (value result : Value) : Prop where
  /-- The guard lets the value pass. -/
  applies : rule.appliesTo value = .ok true
  /-- The body answers with the result. -/
  answers : rule.body value = .ok (.ofValue result)

section Rules

variable
  {rule : Rule}
  {rules : List Rule}
  {value result : Value}
  {found : List Failure}
  {fault : Fault}

namespace Rule.AnswersWith

/-- A rule that applies reports what the answers inside the answer of its body report. -/
theorem apply_eq (answersWith : rule.AnswersWith value result) :
    rule.apply value =
      (result.leaves.mapM fun leaf => (Verdict.ofValue leaf).failures rule.name).map
        List.flatten := by
  rw [Rule.apply, answersWith.applies, Attempt.ok_bind, if_pos rfl, answersWith.answers,
    Attempt.ok_bind, Verdict.failures_ofValue]

/-- The failures that a rule reports are those of the answers inside the answer of its body,
from left to right. -/
theorem apply_eq_ok
    (answersWith : rule.AnswersWith value result)
    (usable : ∀ leaf ∈ result.leaves, Verdict.IsUsable leaf) :
    rule.apply value = .ok found ↔
      ∃ each, List.Forall₂ (ReportsAs rule.name) result.leaves each ∧ found = each.flatten := by
  rw [answersWith.apply_eq, Attempt.map_eq_ok]
  refine exists_congr fun each => ?_
  rw [Attempt.mapM_eq_ok, eq_comm]
  refine and_congr_left fun _ => ?_
  have alike (leaf : Value) (own : List Failure) :
      (leaf ∈ result.leaves ∧ (Verdict.ofValue leaf).failures rule.name = .ok own) ↔
        (leaf ∈ result.leaves ∧ leaf.ReportsAs rule.name own) := by
    refine and_congr_right fun member => ?_
    exact Verdict.failures_eq_ok_iff (Verdict.ne_list_of_mem_leaves result member)
      (usable leaf member)
  have inside : ∀ leaf ∈ result.leaves, leaf ∈ result.leaves := fun _ member => member
  have reported := List.forall₂_and_left
    (R := fun leaf own => (Verdict.ofValue leaf).failures rule.name = .ok own)
    (p := (· ∈ result.leaves)) result.leaves each
  have standing := List.forall₂_and_left (R := ReportsAs rule.name)
    (p := (· ∈ result.leaves)) result.leaves each
  simp only [alike] at reported
  exact ⟨fun made => (standing.mp (reported.mpr ⟨inside, made⟩)).2,
    fun made => (reported.mp (standing.mpr ⟨inside, made⟩)).2⟩

/-- A rule is stopped by the first unsupported answer inside the answer of its body. -/
theorem apply_eq_error
    (answersWith : rule.AnswersWith value result)
    (usable : ∀ leaf ∈ result.leaves, Verdict.IsUsable leaf) :
    rule.apply value = .error fault ↔
      ∃ before leaf after, result.leaves = before ++ leaf :: after ∧
        (∀ earlier ∈ before, ¬ earlier.IsUnsupported) ∧ leaf.IsUnsupported ∧
        fault = if leaf.isWritable then .definition (.unsupportedRuleResult rule.name leaf)
          else .badContent := by
  rw [answersWith.apply_eq, Attempt.map_eq_error, Attempt.mapM_eq_error]
  refine exists_congr fun before => exists_congr fun leaf => exists_congr fun after => ?_
  refine and_congr_right fun split => ?_
  have inside : ∀ other ∈ before ++ leaf :: after,
      (∀ items, other ≠ .list items) ∧ Verdict.IsUsable other := by
    intro other member
    rw [← split] at member
    exact ⟨Verdict.ne_list_of_mem_leaves result member, usable other member⟩
  rw [List.forall_mem_append, List.forall_mem_cons] at inside
  obtain ⟨earlier, ⟨single, usable⟩, -⟩ := inside
  refine and_congr (forall₂_congr fun other member => ?_)
    (Verdict.failures_eq_error_iff single usable)
  obtain ⟨single, usable⟩ := earlier other member
  constructor
  · rintro ⟨own, reported⟩
    exact Verdict.not_isUnsupported_of_reportsAs
      ((Verdict.failures_eq_ok_iff single usable).mp reported)
  · intro supported
    rcases Verdict.exists_reportsAs_or_isUnsupported rule.name single with ⟨own, reports⟩ | refused
    · exact ⟨own, Verdict.failures_of_reportsAs usable reports⟩
    · exact absurd refused supported

/-- A rule reports nothing exactly if no answer inside the answer of its body tells anything. -/
theorem apply_eq_nil
    (answersWith : rule.AnswersWith value result)
    (usable : ∀ leaf ∈ result.leaves, Verdict.IsUsable leaf) :
    rule.apply value = .ok [] ↔ ∀ leaf ∈ result.leaves, leaf = .null ∨ leaf = .bool true := by
  rw [answersWith.apply_eq_ok usable]
  constructor
  · rintro ⟨each, reports, empty⟩ leaf member
    obtain ⟨own, inside, reported⟩ := Attempt.exists_answer_of_mem reports member
    obtain rfl := List.flatten_eq_nil_iff.mp empty.symm own inside
    exact Verdict.reportsAs_nil_iff.mp reported
  · intro silent
    refine ⟨result.leaves.map fun _ => [], ?_, ?_⟩
    · rw [List.forall₂_map_right_iff, List.forall₂_same]
      intro leaf member
      exact Verdict.reportsAs_nil_iff.mpr (silent leaf member)
    · simp

/-- A rule is stopped exactly if an answer inside the answer of its body is unsupported. -/
theorem exists_error_iff
    (answersWith : rule.AnswersWith value result)
    (usable : ∀ leaf ∈ result.leaves, Verdict.IsUsable leaf) :
    (∃ fault, rule.apply value = .error fault) ↔
      ∃ leaf ∈ result.leaves, leaf.IsUnsupported := by
  constructor
  · rintro ⟨fault, stopped⟩
    obtain ⟨before, leaf, after, split, -, unsupported, -⟩ :=
      (answersWith.apply_eq_error usable).mp stopped
    exact ⟨leaf, split ▸ List.mem_append_right before List.mem_cons_self, unsupported⟩
  · rintro ⟨leaf, member, unsupported⟩
    cases applied : rule.apply value with
    | error fault => exact ⟨fault, rfl⟩
    | ok found =>
        obtain ⟨each, reports, -⟩ := (answersWith.apply_eq_ok usable).mp applied
        obtain ⟨own, -, reported⟩ := Attempt.exists_answer_of_mem reports member
        exact absurd unsupported (Verdict.not_isUnsupported_of_reportsAs reported)

/-- What stops a rule is a mistake in a definition exactly if the first unsupported answer inside
the answer of its body has a text. -/
theorem exists_definition_iff
    (answersWith : rule.AnswersWith value result)
    (usable : ∀ leaf ∈ result.leaves, Verdict.IsUsable leaf) :
    (∃ cause, rule.apply value = .error (.definition cause)) ↔
      ∃ before leaf after, result.leaves = before ++ leaf :: after ∧
        (∀ earlier ∈ before, ¬ earlier.IsUnsupported) ∧ leaf.IsUnsupported ∧
        leaf.isWritable = true := by
  simp only [answersWith.apply_eq_error usable]
  constructor
  · rintro ⟨cause, before, leaf, after, split, earlier, unsupported, told⟩
    refine ⟨before, leaf, after, split, earlier, unsupported, ?_⟩
    by_contra unwritable
    rw [if_neg unwritable] at told
    cases told
  · rintro ⟨before, leaf, after, split, earlier, unsupported, writable⟩
    exact ⟨_, before, leaf, after, split, earlier, unsupported, (if_pos writable).symm⟩

end Rule.AnswersWith

/-- Rules report one after another, as far as none of them is stopped. -/
theorem applyRules_eq_mapM (rules : List Rule) :
    applyRules rules value =
      (rules.mapM fun (rule : Rule) => rule.apply value).map List.flatten := by
  induction rules with
  | nil => rfl
  | cons rule rest hypothesis =>
      rw [applyRules, hypothesis, List.mapM_cons]
      cases rule.apply value with
      | error fault => rfl
      | ok first =>
          cases rest.mapM fun (rule : Rule) => rule.apply value with
          | error fault => rfl
          | ok others => rfl

/-- What rules report is what each of them reports, in order. -/
theorem applyRules_eq_ok :
    applyRules rules value = .ok found ↔
      ∃ each, List.Forall₂ (fun rule own => rule.apply value = .ok own) rules each ∧
        found = each.flatten := by
  rw [applyRules_eq_mapM, Attempt.map_eq_ok]
  refine exists_congr fun each => ?_
  rw [Attempt.mapM_eq_ok, eq_comm]

/-- Rules are stopped by the first that is stopped. -/
theorem applyRules_eq_error :
    applyRules rules value = .error fault ↔
      ∃ before rule after, rules = before ++ rule :: after ∧
        (∀ earlier ∈ before, ∃ own, earlier.apply value = .ok own) ∧
        rule.apply value = .error fault := by
  rw [applyRules_eq_mapM, Attempt.map_eq_error, Attempt.mapM_eq_error]

end Rules

/-- Nothing is lost of what rules answer. However lists are nested in the answer of a rule that
applies, the rule reports exactly what the answers at the leaves stand for, from left to right:
nothing exactly if each of them is absent or true. It is stopped exactly if one of them is
unsupported, and then it refuses the first such one. This is a mistake in a definition exactly if
that one has a text, which only whole numbers with too many digits lack. Several rules report
what each of them does, in their order, or are stopped by the first that is. -/
theorem applyRules_lossless :
    (∀ (rule : Rule) (value result : Value),
      rule.AnswersWith value result →
      (∀ leaf ∈ result.leaves, Verdict.IsUsable leaf) →
      (∀ found, rule.apply value = .ok found ↔
        ∃ each, List.Forall₂ (ReportsAs rule.name) result.leaves each ∧ found = each.flatten) ∧
      (rule.apply value = .ok [] ↔ ∀ leaf ∈ result.leaves, leaf = .null ∨ leaf = .bool true) ∧
      ((∃ fault, rule.apply value = .error fault) ↔
        ∃ leaf ∈ result.leaves, leaf.IsUnsupported) ∧
      (∀ fault, rule.apply value = .error fault ↔
        ∃ before leaf after, result.leaves = before ++ leaf :: after ∧
          (∀ earlier ∈ before, ¬ earlier.IsUnsupported) ∧ leaf.IsUnsupported ∧
          fault = if leaf.isWritable then .definition (.unsupportedRuleResult rule.name leaf)
            else .badContent) ∧
      ((∃ cause, rule.apply value = .error (.definition cause)) ↔
        ∃ before leaf after, result.leaves = before ++ leaf :: after ∧
          (∀ earlier ∈ before, ¬ earlier.IsUnsupported) ∧ leaf.IsUnsupported ∧
          leaf.isWritable = true)) ∧
    ∀ (rules : List Rule) (value : Value),
      (∀ found, applyRules rules value = .ok found ↔
        ∃ each, List.Forall₂ (fun rule own => rule.apply value = .ok own) rules each ∧
          found = each.flatten) ∧
      ∀ fault, applyRules rules value = .error fault ↔
        ∃ before rule after, rules = before ++ rule :: after ∧
          (∀ earlier ∈ before, ∃ own, earlier.apply value = .ok own) ∧
          rule.apply value = .error fault := by
  constructor
  · intro rule value result answersWith usable
    refine ⟨?_, answersWith.apply_eq_nil usable, answersWith.exists_error_iff usable, ?_, ?_⟩
    · intro found
      exact answersWith.apply_eq_ok usable
    · intro fault
      exact answersWith.apply_eq_error usable
    · exact answersWith.exists_definition_iff usable
  · intro rules value
    constructor
    · intro found
      exact applyRules_eq_ok
    · intro fault
      exact applyRules_eq_error

/-- The rule with a name that answers with one value always. -/
def Rule.answering (name : String) (result : Value) : Rule :=
  ⟨name, .always, fun _ => .ok (.ofValue result)⟩

theorem Rule.answering_answersWith
    (name : String)
    (value result : Value) :
    (answering name result).AnswersWith value result :=
  ⟨rfl, rfl⟩

/-- Answers at two levels, one of them with a path in a list. -/
def nestedAnswer : Value :=
  .list [.null, .list [.bool false, .tuple [.list [.text "stock", .int 0], .text "too low"]],
    .text "unpaid"]

/-- Every path in the answers at two levels can be one. -/
theorem isUsable_of_mem_nestedAnswer : ∀ leaf ∈ nestedAnswer.leaves, Verdict.IsUsable leaf := by
  intro leaf member path located
  simp only [nestedAnswer, leaves, leavesOfAll, List.append_nil, List.cons_append, List.nil_append,
    List.mem_cons, List.not_mem_nil, or_false] at member
  rcases member with rfl | rfl | rfl | rfl <;> cases located
  rename_i gives
  cases gives with
  | list => decide
  | segment _ noList => exact absurd rfl (noList _)

/-- Two rules report the three failures in the nested answer of the first and the one of the
second. An answer with an empty tuple in it is refused. -/
theorem applyRules_lossless_nestedAnswer :
    applyRules [.answering "order" nestedAnswer, .answering "rest" (.text "open")] .null =
      .ok [.rule [] "order failed", .rule [.text "stock", .int 0] "too low", .rule [] "unpaid",
        .rule [] "open"] ∧
    ∃ cause, (Rule.answering "order" (.list [.text "unpaid", .list [.tuple []]])).apply .null =
      .error (.definition cause) := by
  constructor
  · have orders := Rule.answering_answersWith "order" .null nestedAnswer
    have first := ((applyRules_lossless.1 _ _ _ orders isUsable_of_mem_nestedAnswer).1
      [.rule [] "order failed", .rule [.text "stock", .int 0] "too low", .rule [] "unpaid"]).mpr
      ⟨[[], [.rule [] "order failed"], [.rule [.text "stock", .int 0] "too low"],
        [.rule [] "unpaid"]],
        .cons .null (.cons .fails (.cons (.pair _ (.list _)) (.cons (.text _) .nil))), rfl⟩
    refine ((applyRules_lossless.2 _ _).1 _).mpr
      ⟨[_, [.rule [] "open"]], .cons first (.cons ?_ .nil), rfl⟩
    rfl
  · have single : (Value.list [.text "unpaid", .list [.tuple []]]).leaves =
        [.text "unpaid", .tuple []] := rfl
    have answers := Rule.answering_answersWith "order" .null
      (.list [.text "unpaid", .list [.tuple []]])
    refine (applyRules_lossless.1 _ _ _ answers ?_).2.2.2.2.mpr
      ⟨[.text "unpaid"], .tuple [], [], single, ?_, ?_, rfl⟩
    · intro leaf member path located
      rw [single, List.mem_cons, List.mem_singleton] at member
      rcases member with rfl | rfl <;> cases located
    · intro earlier member unsupported
      obtain rfl := List.mem_singleton.mp member
      exact unsupported.noText _ rfl
    · exact ⟨nofun, nofun, nofun, nofun, nofun⟩

/-- A whole number is unsupported, and if it is too long for a text this is told by no mistake in
a definition. -/
theorem apply_longNumber_stops :
    (∃ leaf ∈ (Value.int wholeTextLimit).leaves, leaf.IsUnsupported) ∧
    (Rule.answering "order" (.int wholeTextLimit)).apply .null = .error .badContent ∧
    ¬ ∃ cause, (Rule.answering "order" (.int wholeTextLimit)).apply .null =
      .error (.definition cause) := by
  have unsupported : (Value.int wholeTextLimit).IsUnsupported :=
    ⟨nofun, nofun, nofun, nofun, nofun⟩
  have stopped : (Rule.answering "order" (.int wholeTextLimit)).apply .null =
      .error .badContent := by
    have long : (Value.int wholeTextLimit).isWritable = false :=
      Attempt.not_isWritable_of_long (Nat.le_of_eq (Int.natAbs_natCast _).symm)
    have answers := Rule.answering_answersWith "order" .null (.int wholeTextLimit)
    rw [Rule.apply, answers.applies, Attempt.ok_bind, if_pos rfl, answers.answers, Attempt.ok_bind,
      Verdict.failures_of_isUnsupported unsupported, long]
    rfl
  refine ⟨⟨_, List.mem_singleton_self _, unsupported⟩, stopped, ?_⟩
  rintro ⟨cause, told⟩
  rw [stopped] at told
  cases told

end DataContract
