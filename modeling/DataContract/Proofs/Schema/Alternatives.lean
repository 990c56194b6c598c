import DataContract.Proofs.Schema.Report

/-!
# Alternatives

Several alternatives are a union that nests to the right. Validating against it is a scan of
the alternatives from left to right: the first that accepts the value decides, and a primitive
before the last that fails a predicate after its type check ends the scan, so that nothing
after it makes a difference. If no alternative accepts the value, the failures of those that
were tried are chained in order.
-/

namespace DataContract

/-- The failure of alternatives that were tried one after another: each is beside the failure
of all after it. -/
def Failure.chained : List Failure → Failure
  | [] => .several []
  | [failure] => failure
  | failure :: next :: rest => .either [] failure (chained (next :: rest)) []

/-- Failures at the end of a chain can be taken together, since a chain nests to the right. -/
theorem Failure.chained_append_pair
    (tried : List Failure)
    (failure last : Failure) :
    chained (tried ++ [failure, last]) = chained (tried ++ [.either [] failure last []]) := by
  induction tried with
  | nil => rfl
  | cons first rest hypothesis =>
      cases rest with
      | nil => rfl
      | cons second others =>
          have longer (ending : List Failure) :
              chained (first :: second :: others ++ ending) =
                .either [] first (chained (second :: others ++ ending)) [] := rfl
          rw [longer, longer, hypothesis]

namespace Schema

/-- The union of an alternative and those after it, with options for the outermost union. One
alternative alone is no union. -/
def oneOf (options : Options) : Schema → List Schema → Schema
  | type, [] => type
  | type, next :: rest => .union type (oneOf [] next rest) options

/-- Try alternatives from left to right after others have been tried. An alternative before the
last whose failure is final ends the scan. -/
def scan
    (value : Value)
    (tried : List Failure) : List Schema → Attempt Outcome
  | [] => .ok (.error (.chained tried))
  | type :: rest => do
      match ← type.validate value with
      | .ok accepted => .ok (.ok accepted)
      | .error failure =>
          if !rest.isEmpty && type.commitsTo failure then
            .ok (.error (.chained (tried ++ [failure])))
          else scan value (tried ++ [failure]) rest

/-- Whether an alternative stops the scan for a value. -/
def Stops
    (type : Schema)
    (value : Value) : Prop :=
  ∃ failure, type.validate value = .ok (.error failure) ∧ type.commitsTo failure = true

/-- An alternative stops with a fault, accepts a value, or fails, finally or not. -/
theorem verdict_cases
    (type : Schema)
    (value : Value) :
    (∃ fault, type.validate value = .error fault) ∨
    (∃ accepted, type.validate value = .ok (.ok accepted)) ∨
    (∃ failure, type.validate value = .ok (.error failure) ∧ type.commitsTo failure = true) ∨
    ∃ failure, type.validate value = .ok (.error failure) ∧ type.commitsTo failure = false := by
  cases type.validate value with
  | error fault => exact Or.inl ⟨fault, rfl⟩
  | ok outcome =>
      cases outcome with
      | ok accepted => exact Or.inr (Or.inl ⟨accepted, rfl⟩)
      | error failure =>
          cases final : type.commitsTo failure with
          | true => exact Or.inr (Or.inr (Or.inl ⟨failure, rfl, final⟩))
          | false => exact Or.inr (Or.inr (Or.inr ⟨failure, rfl, final⟩))

section Scan

variable
  {value accepted : Value}
  {type : Schema}
  {failure : Failure}
  {tried : List Failure}
  {rest : List Schema}

theorem scan_cons_of_accepted
    (accepts : type.validate value = .ok (.ok accepted)) :
    scan value tried (type :: rest) = .ok (.ok accepted) := by
  rw [scan, accepts]
  rfl

theorem scan_cons_of_fault
    {fault : Fault}
    (stops : type.validate value = .error fault) :
    scan value tried (type :: rest) = .error fault := by
  rw [scan, stops]
  rfl

/-- The scan goes on after a failure that is not final. -/
theorem scan_cons_of_passed
    (fails : type.validate value = .ok (.error failure))
    (passed : type.commitsTo failure = false) :
    scan value tried (type :: rest) = scan value (tried ++ [failure]) rest := by
  rw [scan, fails, Attempt.ok_bind]
  simp [passed]

/-- The scan ends at a failure that is final. For the last alternative it ends anyway. -/
theorem scan_cons_of_commits
    (fails : type.validate value = .ok (.error failure))
    (final : type.commitsTo failure = true) :
    scan value tried (type :: rest) = .ok (.error (.chained (tried ++ [failure]))) := by
  rw [scan, fails, Attempt.ok_bind]
  cases rest with
  | nil => rfl
  | cons next others => simp [final]

/-- What comes after an alternative that stops the scan makes no difference. -/
theorem scan_append_of_stops
    (stops : type.Stops value)
    (before after others : List Schema) :
    scan value tried (before ++ type :: after) = scan value tried (before ++ type :: others) := by
  obtain ⟨failure, fails, final⟩ := stops
  induction before generalizing tried with
  | nil =>
      rw [List.nil_append, List.nil_append, scan_cons_of_commits fails final,
        scan_cons_of_commits fails final]
  | cons first rest hypothesis =>
      rw [List.cons_append, List.cons_append]
      rcases first.verdict_cases value with
        ⟨fault, broken⟩ | ⟨accepted, accepts⟩ | ⟨refusal, refuses, ends⟩ | ⟨refusal, refuses, goes⟩
      · rw [scan_cons_of_fault broken, scan_cons_of_fault broken]
      · rw [scan_cons_of_accepted accepts, scan_cons_of_accepted accepts]
      · rw [scan_cons_of_commits refuses ends, scan_cons_of_commits refuses ends]
      · rw [scan_cons_of_passed refuses goes, scan_cons_of_passed refuses goes, hypothesis]

/-- A union hands on what its left side accepts. -/
theorem validate_union_of_accepted
    {left right : Schema}
    {options : Options}
    (accepts : left.validate value = .ok (.ok accepted)) :
    (union left right options).validate value = .ok (.ok accepted) := by
  rw [validate, accepts]
  rfl

theorem validate_union_of_fault
    {left right : Schema}
    {options : Options}
    {fault : Fault}
    (stops : left.validate value = .error fault) :
    (union left right options).validate value = .error fault := by
  rw [validate, stops]
  rfl

/-- A union does not try its right side after a final failure of the left one. -/
theorem validate_union_of_commits
    {left right : Schema}
    {options : Options}
    (fails : left.validate value = .ok (.error failure))
    (final : left.commitsTo failure = true) :
    (union left right options).validate value = .ok (.error failure) := by
  rw [commitsTo] at final
  rw [validate, fails, Attempt.ok_bind]
  simp [final]

/-- A union whose left side is given up comes to what the right side comes to, with both
failures if that fails as well. -/
theorem validate_union_of_passed
    {left right : Schema}
    {options : Options}
    (fails : left.validate value = .ok (.error failure))
    (passed : left.commitsTo failure = false) :
    (union left right options).validate value =
      (right.validate value).map
        (Except.mapError fun other => .either [] failure other options) := by
  rw [commitsTo] at passed
  rw [validate, fails, Attempt.ok_bind]
  simp only [passed, Bool.false_eq_true, if_false]
  cases right.validate value with
  | error fault => rfl
  | ok outcome => cases outcome <;> rfl

/-- The last alternative decides, its failure being the last in the chain. -/
theorem scan_singleton
    (value : Value)
    (tried : List Failure)
    (type : Schema) :
    scan value tried [type] =
      (type.validate value).map
        (Except.mapError fun failure => .chained (tried ++ [failure])) := by
  rw [scan]
  cases type.validate value with
  | error fault => rfl
  | ok outcome => cases outcome <;> rfl

/-- After some alternatives have been tried, the scan of those that are left comes to what
their union comes to, the failure of the union being the last in the chain. -/
theorem scan_eq_validate_oneOf
    (value : Value)
    (tried : List Failure)
    (type : Schema)
    (rest : List Schema) :
    scan value tried (type :: rest) =
      ((oneOf [] type rest).validate value).map
        (Except.mapError fun failure => .chained (tried ++ [failure])) := by
  induction rest generalizing tried type with
  | nil => exact scan_singleton value tried type
  | cons next rest hypothesis =>
      rcases type.verdict_cases value with
        ⟨fault, broken⟩ | ⟨accepted, accepts⟩ | ⟨failure, fails, ends⟩ | ⟨failure, fails, goes⟩
      · rw [oneOf, scan_cons_of_fault broken, validate_union_of_fault broken]
        rfl
      · rw [oneOf, scan_cons_of_accepted accepts, validate_union_of_accepted accepts]
        rfl
      · rw [oneOf, scan_cons_of_commits fails ends, validate_union_of_commits fails ends]
        rfl
      · rw [oneOf, scan_cons_of_passed fails goes, validate_union_of_passed fails goes, hypothesis]
        cases (oneOf [] next rest).validate value with
        | error fault => rfl
        | ok outcome =>
            cases outcome with
            | ok accepted => rfl
            | error last =>
                have together := Failure.chained_append_pair tried failure last
                simp [Except.map, Except.mapError, together]

/-- A union that nests to the right comes to what the scan of its alternatives comes to. -/
theorem validate_oneOf
    (value : Value)
    (type : Schema)
    (rest : List Schema) :
    (oneOf [] type rest).validate value = scan value [] (type :: rest) := by
  rw [scan_eq_validate_oneOf]
  cases (oneOf [] type rest).validate value with
  | error fault => rfl
  | ok outcome => cases outcome <;> rfl

end Scan

end Schema
end DataContract
