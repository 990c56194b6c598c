import DataContract.Proofs.Attempt

/-!
# What attempts stop with

Which faults an attempt of several steps can stop with is decided step by step: the whole stops
with faults of a kind if every step does that is reached. There is one lemma for each way to put
attempts together. A refusal is a mistake in a definition if its message can be written.
-/

namespace DataContract
namespace Attempt

/-- Whether an attempt comes to an answer or stops with a fault of a kind. -/
def StopsOnlyWith
    (kind : Fault → Prop)
    (attempt : Attempt α) : Prop :=
  ∀ fault, attempt = .error fault → kind fault

/-- Whether an attempt comes to an answer or tells a mistake in a definition. -/
abbrev TellsMistakes (attempt : Attempt α) : Prop :=
  StopsOnlyWith (fun fault => fault.isDefinition = true) attempt

namespace StopsOnlyWith

variable
  {kind : Fault → Prop}
  {attempt : Attempt α}

theorem ok (answer : α) : StopsOnlyWith kind (.ok answer) :=
  fun _ stopped => nomatch stopped

theorem error
    {fault : Fault}
    (expected : kind fault) :
    StopsOnlyWith kind (.error fault : Attempt α) := by
  rintro _ ⟨⟩
  exact expected

/-- A sequence stops as its first attempt does, or as what follows on an answer. -/
theorem bind
    {next : α → Attempt β}
    (first : StopsOnlyWith kind attempt)
    (second : ∀ answer, attempt = .ok answer → StopsOnlyWith kind (next answer)) :
    StopsOnlyWith kind (attempt >>= next) := by
  intro fault stopped
  cases attempt with
  | ok answer => exact second answer rfl fault stopped
  | error other =>
      cases stopped
      exact first _ rfl

theorem map
    {change : α → β}
    (stops : StopsOnlyWith kind attempt) :
    StopsOnlyWith kind (attempt.map change) := by
  intro fault stopped
  cases attempt with
  | ok answer => cases stopped
  | error other =>
      cases stopped
      exact stops _ rfl

theorem mono
    {weaker : Fault → Prop}
    (stops : StopsOnlyWith kind attempt)
    (implied : ∀ fault, kind fault → weaker fault) :
    StopsOnlyWith weaker attempt :=
  fun fault stopped => implied fault (stops fault stopped)

/-- An attempt for every item stops as one of them does. -/
theorem mapM
    {attempt : α → Attempt β}
    {items : List α}
    (each : ∀ item ∈ items, StopsOnlyWith kind (attempt item)) :
    StopsOnlyWith kind (items.mapM attempt) := by
  induction items with
  | nil => exact .ok []
  | cons item rest hypothesis =>
      rw [List.forall_mem_cons] at each
      rw [List.mapM_cons]
      refine .bind each.1 fun answer _ => ?_
      exact .bind (hypothesis each.2) fun answers _ => .ok _

theorem orIfWrongKind
    (stops : StopsOnlyWith kind attempt)
    (fallback : α) :
    StopsOnlyWith kind (orIfWrongKind attempt fallback) := by
  unfold DataContract.orIfWrongKind
  split
  · exact .ok fallback
  · exact stops

end StopsOnlyWith

/-- With a fallback for values of the wrong kind an attempt stops with the other faults. -/
theorem orIfWrongKind_eq_error
    {attempt : Attempt α}
    {fallback : α}
    {fault : Fault} :
    orIfWrongKind attempt fallback = .error fault ↔
      attempt = .error fault ∧ fault ≠ .wrongKind := by
  unfold orIfWrongKind
  split
  · simp [eq_comm]
  · rename_i other
    constructor
    · rintro rfl
      refine ⟨rfl, ?_⟩
      rintro rfl
      exact other rfl
    · exact And.left

/-- A whole number with too many digits has no text. -/
theorem not_isWritable_of_long
    {number : Int}
    (long : wholeTextLimit ≤ number.natAbs) :
    (Value.int number).isWritable = false :=
  decide_eq_false (Nat.not_lt.mpr long)

/-- A refusal that can be written is a mistake in a definition. -/
theorem tellsMistakes_refuse
    {cause : DefinitionFault}
    (writable : ∀ value ∈ cause.values, value.isWritable = true) :
    TellsMistakes (refuse cause : Attempt α) := by
  rw [refuse, if_pos (List.all_eq_true.mpr writable)]
  exact .error rfl

/-- Whether the mistakes in a definition that an attempt tells are all of a kind. With other
faults it may stop as it likes. -/
abbrev BlamesOnly
    (blamed : DefinitionFault → Prop)
    (attempt : Attempt α) : Prop :=
  StopsOnlyWith (fun fault => ∀ cause, fault = .definition cause → blamed cause) attempt

section Blame

variable
  {blamed weaker : DefinitionFault → Prop}
  {attempt : Attempt α}

theorem blamesOnly_error
    {fault : Fault}
    (other : fault.isDefinition = false) :
    BlamesOnly blamed (.error fault : Attempt α) := by
  refine .error ?_
  rintro cause rfl
  simp [Fault.isDefinition] at other

theorem blamesOnly_refuse
    {cause : DefinitionFault}
    (expected : blamed cause) :
    BlamesOnly blamed (refuse cause : Attempt α) := by
  unfold refuse
  split
  · refine .error ?_
    rintro _ ⟨⟩
    exact expected
  · exact blamesOnly_error rfl

theorem BlamesOnly.mono
    (stops : BlamesOnly blamed attempt)
    (implied : ∀ cause, blamed cause → weaker cause) :
    BlamesOnly weaker attempt :=
  StopsOnlyWith.mono stops fun _ only cause same => implied cause (only cause same)

end Blame

theorem exists_ok_or_definition
    {attempt : Attempt α}
    (stops : TellsMistakes attempt) :
    (∃ answer, attempt = .ok answer) ∨ ∃ cause, attempt = .error (.definition cause) := by
  cases attempt with
  | ok answer => exact .inl ⟨answer, rfl⟩
  | error fault =>
      cases fault with
      | definition cause => exact .inr ⟨cause, rfl⟩
      | _ => exact absurd (stops _ rfl) Bool.false_ne_true

end Attempt
end DataContract
