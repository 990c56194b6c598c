import DataContract.Proofs.Attempt
import DataContract.Proofs.Schema.Node
import DataContract.Schema.Validate

/-!
# Reports of parts

A chain of predicates accepts a value unchanged or fails at its first predicate
that does not hold. What a list or a map comes to is put together from the
reports of its parts: one for each item of a list, and at most one for each key
of a map, since an absent optional entry is not reported.
-/

namespace DataContract

/-! ## Chains -/

/-- The failure of a predicate that does not hold of a value. -/
def Predicate.failure
    (predicate : Predicate)
    (value : Value) : Failure :=
  .predicate [] predicate.name (predicate.args ++ [value]) value

section Chains

variable
  {predicate : Predicate}
  {chain : List Predicate}
  {value : Value}

@[simp] theorem checkChain_nil : checkChain [] value = .ok (.ok value) := rfl

theorem checkChain_cons :
    checkChain (predicate :: chain) value = (do
      match ← predicate.check value with
      | .ok value => checkChain chain value
      | .error failure => .ok (.error failure)) := rfl

theorem checkChain_cons_of_holds
    (holds : predicate.holds value = .ok true) :
    checkChain (predicate :: chain) value = checkChain chain value := by
  simp [checkChain_cons, Predicate.check, holds]

theorem checkChain_cons_of_not_holds
    (fails : predicate.holds value = .ok false) :
    checkChain (predicate :: chain) value = .ok (.error (predicate.failure value)) := by
  simp [checkChain_cons, Predicate.check, Predicate.failure, fails]

theorem checkChain_cons_of_fault
    {fault : Fault}
    (stops : predicate.holds value = .error fault) :
    checkChain (predicate :: chain) value = .error fault := by
  simp [checkChain_cons, Predicate.check, stops]

/-- Chains come to the same for a value if their first predicates and the chains after these
do. -/
theorem checkChain_cons_congr
    {other : Predicate}
    {others : List Predicate}
    (same : other.check value = predicate.check value)
    (later : checkChain others value = checkChain chain value) :
    checkChain (other :: others) value = checkChain (predicate :: chain) value := by
  simp only [checkChain_cons, same]
  unfold Predicate.check
  cases predicate.holds value with
  | error fault => rfl
  | ok truth =>
      cases truth with
      | false => rfl
      | true => exact later

/-- A chain accepts a value, and hands it on unchanged, if all its predicates
hold. -/
theorem checkChain_eq_accepted
    {output : Value} :
    checkChain chain value = .ok (.ok output) ↔
      output = value ∧ ∀ predicate ∈ chain, predicate.holds value = .ok true := by
  induction chain with
  | nil => simp [eq_comm]
  | cons first rest hypothesis =>
      cases held : first.holds value with
      | error fault => simp [checkChain_cons_of_fault held, held]
      | ok truth =>
          cases truth with
          | false => simp [checkChain_cons_of_not_holds held, held]
          | true => simp [checkChain_cons_of_holds held, held, hypothesis]

/-- A chain hands on the value that it accepts. -/
theorem eq_of_checkChain
    {output : Value}
    (accepted : checkChain chain value = .ok (.ok output)) :
    output = value := by
  rw [checkChain_eq_accepted] at accepted
  exact accepted.1

/-- A chain that fails reports its first predicate that does not hold. -/
theorem exists_of_checkChain_failed
    {failure : Failure}
    (failed : checkChain chain value = .ok (.error failure)) :
    ∃ before predicate after,
      chain = before ++ predicate :: after ∧
        (∀ earlier ∈ before, earlier.holds value = .ok true) ∧
        predicate.holds value = .ok false ∧
        failure = predicate.failure value := by
  induction chain with
  | nil => simp at failed
  | cons first rest hypothesis =>
      cases held : first.holds value with
      | error fault => simp [checkChain_cons_of_fault held] at failed
      | ok truth =>
          cases truth with
          | false =>
              rw [checkChain_cons_of_not_holds held] at failed
              simp only [Except.ok.injEq, Except.error.injEq] at failed
              exact ⟨[], first, rest, rfl, by simp, held, failed.symm⟩
          | true =>
              rw [checkChain_cons_of_holds held] at failed
              obtain ⟨before, predicate, after, split, earlier, fails, reported⟩ :=
                hypothesis failed
              refine ⟨first :: before, predicate, after, by rw [split]; rfl, ?_, fails, reported⟩
              intro other member
              rcases List.mem_cons.mp member with rfl | member
              · exact held
              · exact earlier other member

end Chains

/-! ## Collected reports -/

namespace Parts

/-- The parts that reports are about, in order. -/
def collect (reports : List (Except Failure α)) : Parts α :=
  reports.foldr cons none

@[simp] theorem collect_nil : (collect [] : Parts α) = none := rfl

@[simp] theorem collect_cons
    (report : Except Failure α)
    (rest : List (Except Failure α)) :
    collect (report :: rest) = cons report (collect rest) := rfl

/-- A failure is collected if some part reports it. -/
theorem mem_failures_collect
    {reports : List (Except Failure α)}
    {failure : Failure} :
    failure ∈ (collect reports).failures ↔ .error failure ∈ reports := by
  induction reports with
  | nil => simp [none]
  | cons report rest hypothesis =>
      cases report <;> simp [cons, hypothesis]

@[simp] theorem collect_map_ok (valid : List α) :
    collect (valid.map .ok) = ⟨valid, []⟩ := by
  induction valid with
  | nil => rfl
  | cons part rest hypothesis => simp [hypothesis, cons]

/-- If nothing fails, every part reports an answer, and all of them are
collected. -/
theorem eq_map_ok_of_no_failures
    {reports : List (Except Failure α)}
    (clean : (collect reports).failures = []) :
    reports = (collect reports).valid.map .ok := by
  induction reports with
  | nil => rfl
  | cons report rest hypothesis =>
      cases report with
      | error failure => simp [cons] at clean
      | ok part =>
          have remaining := hypothesis (by simpa [cons] using clean)
          simpa [cons] using remaining

/-- The whole is accepted if every part is. -/
theorem outcome_collect_eq_ok
    {reports : List (Except Failure α)}
    {whole : List α → Value}
    {output : Value} :
    (collect reports).outcome whole = .ok output ↔
      ∃ valid, reports = valid.map .ok ∧ output = whole valid := by
  constructor
  · intro accepted
    unfold outcome at accepted
    split at accepted
    · rename_i empty
      have clean := eq_map_ok_of_no_failures (List.isEmpty_iff.mp empty)
      exact ⟨_, clean, (Except.ok.inj accepted).symm⟩
    · simp at accepted
  · rintro ⟨valid, rfl, rfl⟩
    simp [outcome]

/-- The whole fails with the failures of its parts. -/
theorem outcome_collect_eq_error
    {reports : List (Except Failure α)}
    {whole : List α → Value}
    {failure : Failure}
    (failed : (collect reports).outcome whole = .error failure) :
    failure = .several (collect reports).failures := by
  unfold outcome at failed
  split at failed
  · simp at failed
  · exact (Except.error.inj failed).symm

end Parts

/-! ## Lists -/

/-- The outcomes of the items of a list, seen from the list. -/
def itemReports (index : Nat) : List Outcome → List Outcome
  | [] => []
  | outcome :: rest => outcome.nest [.int index] :: itemReports (index + 1) rest

/-- Items are validated one by one. -/
theorem validateItems_eq
    (validate : Value → Attempt Outcome)
    (index : Nat)
    (items : List Value) :
    validateItems validate index items = (do
      let outcomes ← items.mapM validate
      .ok (.collect (itemReports index outcomes))) := by
  induction items generalizing index with
  | nil => rfl
  | cons item rest hypothesis =>
      simp only [validateItems, hypothesis, List.mapM_cons, bind_assoc]
      rfl

/-- The items of a list are accepted if each of them is, and the list then answers
with what they are accepted as. -/
theorem itemReports_eq_accepted
    {index : Nat}
    {outcomes : List Outcome}
    {outputs : List Value}
    (accepted : itemReports index outcomes = outputs.map .ok) :
    outcomes = outputs.map .ok := by
  induction outcomes generalizing index outputs with
  | nil => simpa [itemReports] using accepted
  | cons outcome rest hypothesis =>
      cases outputs with
      | nil => simp [itemReports] at accepted
      | cons output outputs =>
          simp only [itemReports, List.map_cons, List.cons.injEq] at accepted
          cases outcome with
          | error failure => simp [Outcome.nest] at accepted
          | ok found =>
              have same : found = output := by simpa [Outcome.nest] using accepted.1
              rw [List.map_cons, same, hypothesis accepted.2]

/-- Items that are accepted are reported as they are. -/
theorem itemReports_map_ok
    (index : Nat)
    (outputs : List Value) :
    itemReports index (outputs.map .ok) = outputs.map .ok := by
  induction outputs generalizing index with
  | nil => rfl
  | cons output rest hypothesis => simp [itemReports, Outcome.nest, hypothesis]

/-! ## Maps -/

/-- What a key of a map reports about the data of the map: the validated entry
or the failure of the entry, and nothing if an optional entry is absent. -/
def Key.report
    (key : Key)
    (data : Value) : Attempt (Option (Except Failure (Value × Value))) := do
  match ← data.entry? key.name with
  | some value => do
      let outcome ← key.type.validate value
      .ok (some ((outcome.nest [key.name]).map fun valid => (key.name, valid)))
  | none =>
      match key.presence with
      | .required => .ok (some (.error (.missing [key.name])))
      | .optional => .ok none

namespace Key

section Reports

variable
  {key : Key}
  {data : Value}

/-- A key reports an entry if its own entry is accepted. -/
theorem report_eq_accepted
    {entry : Value × Value} :
    key.report data = .ok (some (.ok entry)) ↔
      entry.1 = key.name ∧
        ∃ value, data.entry? key.name = .ok (some value) ∧
          key.type.validate value = .ok (.ok entry.2) := by
  unfold report
  cases data.entry? key.name with
  | error fault => simp
  | ok found =>
      cases found with
      | none => cases key.presence <;> simp
      | some value =>
          cases validated : key.type.validate value with
          | error fault => simp [validated]
          | ok outcome =>
              cases outcome with
              | error failure => simp [validated, Outcome.nest, Except.map]
              | ok output => simp [validated, Outcome.nest, Except.map, Prod.ext_iff, eq_comm]

/-- A key reports a failure if its required entry is absent, or if its entry
fails. -/
theorem report_eq_failed
    {failure : Failure} :
    key.report data = .ok (some (.error failure)) ↔
      (data.entry? key.name = .ok none ∧ key.presence = .required ∧
        failure = .missing [key.name]) ∨
      ∃ value inner, data.entry? key.name = .ok (some value) ∧
        key.type.validate value = .ok (.error inner) ∧ failure = inner.nest [key.name] := by
  unfold report
  cases data.entry? key.name with
  | error fault => simp
  | ok found =>
      cases found with
      | none => cases key.presence <;> simp [eq_comm]
      | some value =>
          cases validated : key.type.validate value with
          | error fault => simp [validated]
          | ok outcome =>
              cases outcome with
              | error inner => simp [validated, Outcome.nest, Except.map, eq_comm]
              | ok output => simp [validated, Outcome.nest, Except.map]

/-- A key reports nothing if its optional entry is absent. -/
theorem report_eq_none :
    key.report data = .ok none ↔
      data.entry? key.name = .ok none ∧ key.presence = .optional := by
  unfold report
  cases data.entry? key.name with
  | error fault => simp
  | ok found =>
      cases found with
      | none => cases key.presence <;> simp
      | some value =>
          cases validated : key.type.validate value with
          | error fault => simp [validated]
          | ok outcome => simp [validated]

end Reports

end Key

/-- The keys of a map report one after another. -/
theorem validateKeys_cons
    (key : Key)
    (rest : List Key)
    (data : Value) :
    validateKeys (key :: rest) data = (do
      let report ← key.report data
      let others ← validateKeys rest data
      .ok (report.elim others (Parts.cons · others))) := by
  cases key with
  | mk around name presence type inline =>
      simp only [validateKeys, Key.report, Key.name_mk, Key.type_mk, Key.presence_mk]
      cases data.entry? name with
      | error fault => rfl
      | ok found =>
          cases found with
          | none => cases presence <;> rfl
          | some value =>
              cases validated : type.validate value with
              | error fault => simp [validated]
              | ok outcome => simp [validated]

/-- What the keys of a map come to is collected from their reports. -/
theorem validateKeys_eq
    (keys : List Key)
    (data : Value) :
    validateKeys keys data = (do
      let reports ← keys.mapM (Key.report · data)
      .ok (.collect (reports.filterMap id))) := by
  induction keys with
  | nil => rfl
  | cons key rest hypothesis =>
      rw [validateKeys_cons, hypothesis, List.mapM_cons]
      simp only [bind_assoc]
      congr 1
      funext report
      congr 1
      funext reports
      cases report <;> rfl

/-- What a map looks its keys up in: the value itself, or the entries of the keys
under their own names. -/
def mapData
    (keys : List Key)
    (atomize : Bool)
    (style : KeyStyle)
    (value : Value) : Attempt Value :=
  if atomize then (atomizeKeys style keys value).map .map else .ok value

/-- What the keys of a map come to for a value that the map itself accepts. -/
def keysOutcome
    (keys : List Key)
    (atomize : Bool)
    (style : KeyStyle)
    (value : Value) : Attempt Outcome := do
  let data ← mapData keys atomize style value
  let reports ← keys.mapM (Key.report · data)
  .ok ((Parts.collect (reports.filterMap id)).outcome .map)

theorem keysOutcome_eq_ok
    {keys : List Key}
    {atomize : Bool}
    {style : KeyStyle}
    {value : Value}
    {outcome : Outcome} :
    keysOutcome keys atomize style value = .ok outcome ↔
      ∃ data reports, mapData keys atomize style value = .ok data ∧
        List.Forall₂ (fun key report => key.report data = .ok report) keys reports ∧
        outcome = (Parts.collect (reports.filterMap id)).outcome .map := by
  simp only [keysOutcome, Attempt.bind_eq_ok, Attempt.mapM_eq_ok, Except.ok.injEq]
  constructor
  · rintro ⟨data, read, reports, reported, rfl⟩
    exact ⟨data, reports, read, reported, rfl⟩
  · rintro ⟨data, reports, read, reported, rfl⟩
    exact ⟨data, read, reports, reported, rfl⟩

namespace Schema

/-- Whether a union stays with a failure of its left alternative. -/
def commitsTo
    (left : Schema)
    (failure : Failure) : Bool :=
  left.isPrimitive && failure.isPastTypeCheck

/-- A failure that a list collects is that of one of its items, from one step further
out. -/
theorem exists_item_of_itemReports
    {member : Schema}
    {start : Nat}
    {items : List Value}
    {outcomes : List Outcome}
    {failure : Failure}
    (each : List.Forall₂ (fun item outcome => member.validate item = .ok outcome)
      items outcomes)
    (reported : .error failure ∈ itemReports start outcomes) :
    ∃ (index : Nat) (item : Value) (inner : Failure), items[index]? = some item ∧
      member.validate item = .ok (.error inner) ∧
      failure = inner.nest [.int (start + index : Nat)] := by
  induction each generalizing start with
  | nil => simp [itemReports] at reported
  | @cons item outcome items outcomes validated _ hypothesis =>
      rcases List.mem_cons.mp reported with first | later
      · cases outcome with
        | ok output => simp [Outcome.nest] at first
        | error inner =>
            refine ⟨0, item, inner, rfl, validated, ?_⟩
            simpa [Outcome.nest] using first
      · obtain ⟨index, item, inner, found, validated, rfl⟩ := hypothesis later
        refine ⟨index + 1, item, inner, by simpa using found, validated, ?_⟩
        rw [Nat.add_right_comm, Nat.add_assoc]

section Whole

variable
  {chain : List Predicate}
  {value : Value}
  {outcome : Outcome}

attribute [local simp] validate

/-- A list fails with its own chain, or comes to what its items come to. -/
theorem validate_list_eq_ok
    {member : Schema} :
    (list chain member).validate value = .ok outcome ↔
      (∃ failure, checkChain chain value = .ok (.error failure) ∧ outcome = .error failure) ∨
      (checkChain chain value = .ok (.ok value) ∧
        ∃ items outcomes, value.items? = some items ∧
          List.Forall₂ (fun item outcome => member.validate item = .ok outcome)
            items outcomes ∧
          outcome = (Parts.collect (itemReports 0 outcomes)).outcome .list) := by
  cases checked : checkChain chain value with
  | error fault => simp [checked]
  | ok answer =>
      cases answer with
      | error failure => simp [checked, eq_comm]
      | ok accepted =>
          obtain rfl := eq_of_checkChain checked
          simp only [validate, checked, validateItems_eq, Attempt.ok_bind, Except.ok.injEq,
            reduceCtorEq, false_and, exists_false, false_or, true_and]
          cases accepted.items? with
          | none => simp
          | some items =>
              simp only [Attempt.bind_eq_ok, Attempt.mapM_eq_ok, Except.ok.injEq,
                Option.some.injEq]
              constructor
              · rintro ⟨_, ⟨outcomes, validated, rfl⟩, rfl⟩
                exact ⟨items, outcomes, rfl, validated, rfl⟩
              · rintro ⟨_, outcomes, rfl, validated, rfl⟩
                exact ⟨_, ⟨outcomes, validated, rfl⟩, rfl⟩

/-- A list accepts a value if its chain and, for all items, its member does. -/
theorem validate_list_eq_accepted
    {member : Schema}
    {output : Value} :
    (list chain member).validate value = .ok (.ok output) ↔
      checkChain chain value = .ok (.ok value) ∧
        ∃ items outputs, value.items? = some items ∧ output = .list outputs ∧
          List.Forall₂ (fun item output => member.validate item = .ok (.ok output))
            items outputs := by
  rw [validate_list_eq_ok]
  constructor
  · rintro (⟨failure, -, failed⟩ | ⟨passed, items, outcomes, parts, each, whole⟩)
    · cases failed
    · rw [eq_comm, Parts.outcome_collect_eq_ok] at whole
      obtain ⟨outputs, accepted, rfl⟩ := whole
      obtain rfl := itemReports_eq_accepted accepted
      rw [List.forall₂_map_right_iff] at each
      exact ⟨passed, items, outputs, parts, rfl, each⟩
  · rintro ⟨passed, items, outputs, parts, rfl, each⟩
    refine .inr ⟨passed, items, outputs.map .ok, parts, ?_, ?_⟩
    · rwa [List.forall₂_map_right_iff]
    · rw [eq_comm, Parts.outcome_collect_eq_ok]
      exact ⟨outputs, itemReports_map_ok 0 outputs, rfl⟩

/-- A map fails with its own chain, or comes to what its keys come to. -/
theorem validate_map_eq_ok
    {keys : List Key}
    {atomize : Bool}
    {style : KeyStyle} :
    (map chain keys atomize style).validate value = .ok outcome ↔
      (∃ failure, checkChain chain value = .ok (.error failure) ∧ outcome = .error failure) ∨
      (checkChain chain value = .ok (.ok value) ∧
        keysOutcome keys atomize style value = .ok outcome) := by
  cases checked : checkChain chain value with
  | error fault => simp [checked]
  | ok answer =>
      cases answer with
      | error failure => simp [checked, eq_comm]
      | ok accepted =>
          obtain rfl := eq_of_checkChain checked
          simp only [validate, checked, validateKeys_eq, keysOutcome, mapData, Attempt.ok_bind,
            bind_assoc, Except.ok.injEq, reduceCtorEq, false_and, exists_false, false_or,
            true_and]
          cases atomize <;> rfl

/-- A union answers with its left alternative if that accepts or fails past its
type check, and otherwise with its right one; both failures are kept. -/
theorem validate_union_eq_ok
    {left right : Schema}
    {options : Options} :
    (union left right options).validate value = .ok outcome ↔
      (∃ accepted, left.validate value = .ok (.ok accepted) ∧ outcome = .ok accepted) ∨
      (∃ failure, left.validate value = .ok (.error failure) ∧
        (left.commitsTo failure = true ∧ outcome = .error failure ∨
        left.commitsTo failure = false ∧
          ((∃ accepted, right.validate value = .ok (.ok accepted) ∧ outcome = .ok accepted) ∨
          ∃ other, right.validate value = .ok (.error other) ∧
            outcome = .error (.either [] failure other options)))) := by
  rw [validate]
  cases left.validate value with
  | error fault => simp
  | ok answer =>
      cases answer with
      | ok accepted => simp [@eq_comm Outcome outcome]
      | error failure =>
          have commits :
              (left.isPrimitive && failure.isPastTypeCheck) = left.commitsTo failure := rfl
          simp only [Attempt.ok_bind, commits]
          cases committed : left.commitsTo failure with
          | true => simp [committed, @eq_comm Outcome outcome]
          | false =>
              cases right.validate value with
              | error fault => simp [committed]
              | ok other => cases other <;> simp [committed, @eq_comm Outcome outcome]

/-- A cast fails with its input, or hands the converted value to its output. -/
theorem validate_cast_eq_ok
    {input output : Schema}
    {caster : Caster}
    {options : Options} :
    (cast input output caster options).validate value = .ok outcome ↔
      (∃ failure, input.validate value = .ok (.error failure) ∧
        outcome = .error (.cast failure)) ∨
      ∃ accepted given, input.validate value = .ok (.ok accepted) ∧
        caster.run input.tag output.tag accepted options.entries = .ok given ∧
        output.validate given = .ok outcome := by
  cases first : input.validate value with
  | error fault => simp [first]
  | ok answer =>
      cases answer with
      | error failure => simp [first, eq_comm]
      | ok accepted => simp [first, Attempt.bind_eq_ok]

/-- Lists that are accepted come to the same if their items do. -/
theorem validate_list_congr
    {member : Schema}
    {other : Value}
    {items others : List Value}
    (passed : checkChain chain value = .ok (.ok value))
    (otherPassed : checkChain chain other = .ok (.ok other))
    (parts : value.items? = some items)
    (otherParts : other.items? = some others)
    (each : List.Forall₂ (fun item other => member.validate other = member.validate item)
      items others) :
    (list chain member).validate other = (list chain member).validate value := by
  have same (index : Nat) :
      validateItems member.validate index others =
        validateItems member.validate index items := by
    clear parts otherParts
    induction each generalizing index with
    | nil => rfl
    | cons here _ hypothesis => simp only [validateItems, here, hypothesis]
  simp [passed, otherPassed, parts, otherParts, same]

/-- Maps that are accepted come to the same if their keys report the same. -/
theorem validate_map_congr
    {keys : List Key}
    {atomize : Bool}
    {style : KeyStyle}
    {other data otherData : Value}
    (passed : checkChain chain value = .ok (.ok value))
    (otherPassed : checkChain chain other = .ok (.ok other))
    (read : mapData keys atomize style value = .ok data)
    (otherRead : mapData keys atomize style other = .ok otherData)
    (each : ∀ key ∈ keys, key.report otherData = key.report data) :
    (map chain keys atomize style).validate other =
      (map chain keys atomize style).validate value := by
  have same : validateKeys keys otherData = validateKeys keys data := by
    clear read otherRead
    induction keys with
    | nil => rfl
    | cons key rest hypothesis =>
        rw [List.forall_mem_cons] at each
        rw [validateKeys_cons, validateKeys_cons, each.1, hypothesis each.2]
  cases atomize with
  | false =>
      cases read
      cases otherRead
      simp [passed, otherPassed, same]
  | true =>
      have collected : (atomizeKeys style keys value).map .map = .ok data := read
      have otherCollected : (atomizeKeys style keys other).map .map = .ok otherData := otherRead
      simp [passed, otherPassed, collected, otherCollected, same]

end Whole

end Schema
end DataContract
