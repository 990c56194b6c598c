import DataContract.Fault
import Mathlib.Data.List.Forall2

/-!
# Attempts that succeed

An attempt that consists of several steps comes to an answer exactly if every
step does. The lemmas here read the success of the whole as the success of its
steps, for a sequence of two attempts and for one attempt per item of a list.

Two attempts agree if both come to answers, which are related in a given way, or
neither does. They match if, in the second case, the faults are related as well.
-/

namespace DataContract

/-- A list is related to itself with one item replaced by a related one. -/
theorem forall₂_replaced
    {related : α → α → Prop}
    (reflexive : ∀ item, related item item)
    (before after : List α)
    (replaced : related item other) :
    List.Forall₂ related (before ++ item :: after) (before ++ other :: after) := by
  have unchanged (items : List α) : List.Forall₂ related items items :=
    List.forall₂_same.mpr fun item _ => reflexive item
  exact List.rel_append (unchanged before) (.cons replaced (unchanged after))

namespace Attempt

/-- Two attempts in sequence succeed if the first succeeds and the second does
with its answer. -/
theorem bind_eq_ok
    {attempt : Attempt α}
    {next : α → Attempt β}
    {answer : β} :
    attempt >>= next = .ok answer ↔
      ∃ found, attempt = .ok found ∧ next found = .ok answer := by
  cases attempt with
  | error fault => simp [bind, Except.bind]
  | ok found => simp [bind, Except.bind]

@[simp] theorem ok_bind
    (found : α)
    (next : α → Attempt β) :
    (Except.ok found : Attempt α) >>= next = next found := rfl

@[simp] theorem error_bind
    (fault : Fault)
    (next : α → Attempt β) :
    (Except.error fault : Attempt α) >>= next = .error fault := rfl

/-- A sequence stops if its first attempt does, or if what follows on an answer does. -/
theorem bind_eq_error
    {attempt : Attempt α}
    {next : α → Attempt β}
    {fault : Fault} :
    attempt >>= next = .error fault ↔
      attempt = .error fault ∨ ∃ found, attempt = .ok found ∧ next found = .error fault := by
  cases attempt with
  | ok found => simp
  | error other => simp

/-- A changed answer is the answer of the attempt, changed. -/
theorem map_eq_ok
    {attempt : Attempt α}
    {change : α → β}
    {answer : β} :
    attempt.map change = .ok answer ↔
      ∃ found, attempt = .ok found ∧ change found = answer := by
  cases attempt with
  | error fault => simp [Except.map]
  | ok found => simp [Except.map]

/-- Changing the answer makes no difference to the fault. -/
theorem map_eq_error
    {attempt : Attempt α}
    {change : α → β}
    {fault : Fault} :
    attempt.map change = .error fault ↔ attempt = .error fault := by
  cases attempt with
  | ok found => simp [Except.map]
  | error other => simp [Except.map]

/-- A refusal is never an answer. -/
@[simp] theorem refuse_ne_ok
    (cause : DefinitionFault)
    (answer : α) :
    refuse cause ≠ .ok answer := by
  simp [refuse]

/-- An attempt for every item succeeds if each of them does. -/
theorem mapM_eq_ok
    {attempt : α → Attempt β}
    {items : List α}
    {answers : List β} :
    items.mapM attempt = .ok answers ↔
      List.Forall₂ (fun item answer => attempt item = .ok answer) items answers := by
  induction items generalizing answers with
  | nil => simp [pure, Except.pure, eq_comm]
  | cons item rest hypothesis =>
      rw [List.mapM_cons, List.forall₂_cons_left_iff]
      simp only [bind_eq_ok, hypothesis, pure, Except.pure, Except.ok.injEq]
      constructor
      · rintro ⟨answer, first, others, remaining, rfl⟩
        exact ⟨answer, others, first, remaining, rfl⟩
      · rintro ⟨answer, others, first, remaining, rfl⟩
        exact ⟨answer, first, others, remaining, rfl⟩

/-- Attempts for items in order stop at the first that stops. -/
theorem mapM_eq_error
    {attempt : α → Attempt β}
    {items : List α}
    {fault : Fault} :
    items.mapM attempt = .error fault ↔
      ∃ before item after, items = before ++ item :: after ∧
        (∀ earlier ∈ before, ∃ answer, attempt earlier = .ok answer) ∧
        attempt item = .error fault := by
  induction items with
  | nil => simp [pure, Except.pure]
  | cons item rest hypothesis =>
      rw [List.mapM_cons, bind_eq_error]
      constructor
      · rintro (stopped | ⟨answer, answered, later⟩)
        · exact ⟨[], item, rest, rfl, List.forall_mem_nil _, stopped⟩
        · rcases bind_eq_error.mp later with stopped | ⟨others, -, made⟩
          · obtain ⟨before, other, after, rfl, earlier, stopped⟩ := hypothesis.mp stopped
            refine ⟨item :: before, other, after, rfl, ?_, stopped⟩
            exact List.forall_mem_cons.mpr ⟨⟨answer, answered⟩, earlier⟩
          · cases made
      · rintro ⟨before, other, after, split, earlier, stopped⟩
        cases before with
        | nil =>
            obtain ⟨rfl, -⟩ := List.cons.inj split
            exact .inl stopped
        | cons first before =>
            obtain ⟨rfl, rfl⟩ := List.cons.inj split
            rw [List.forall_mem_cons] at earlier
            obtain ⟨⟨answer, answered⟩, earlier⟩ := earlier
            have later := hypothesis.mpr ⟨before, other, after, rfl, earlier, stopped⟩
            exact .inr ⟨answer, answered, bind_eq_error.mpr (.inl later)⟩

/-- Each answer comes from one of the items. -/
theorem exists_item_of_mem
    {related : α → β → Prop}
    {items : List α}
    {answers : List β}
    {answer : β}
    (answered : List.Forall₂ related items answers)
    (member : answer ∈ answers) :
    ∃ item ∈ items, related item answer := by
  induction answered with
  | nil => simp at member
  | @cons item first items answers answered _ hypothesis =>
      rcases List.mem_cons.mp member with rfl | member
      · exact ⟨item, List.mem_cons_self, answered⟩
      · obtain ⟨other, present, found⟩ := hypothesis member
        exact ⟨other, List.mem_cons_of_mem _ present, found⟩

/-- Each item has one of the answers. -/
theorem exists_answer_of_mem
    {related : α → β → Prop}
    {items : List α}
    {answers : List β}
    {item : α}
    (answered : List.Forall₂ related items answers)
    (member : item ∈ items) :
    ∃ answer ∈ answers, related item answer := by
  induction answered with
  | nil => simp at member
  | @cons first answer items answers answered _ hypothesis =>
      rcases List.mem_cons.mp member with rfl | member
      · exact ⟨answer, List.mem_cons_self, answered⟩
      · obtain ⟨other, present, found⟩ := hypothesis member
        exact ⟨other, List.mem_cons_of_mem _ present, found⟩

/-- The answers for a list with an item in the middle have that of the item in the middle. -/
theorem exists_split_of_forall₂
    {related : α → β → Prop}
    {before after : List α}
    {item : α}
    {answers : List β}
    (answered : List.Forall₂ related (before ++ item :: after) answers) :
    ∃ first answer last, answers = first ++ answer :: last ∧
      List.Forall₂ related before first ∧ related item answer ∧
      List.Forall₂ related after last := by
  induction before generalizing answers with
  | nil =>
      rw [List.nil_append, List.forall₂_cons_left_iff] at answered
      obtain ⟨answer, last, single, remaining, rfl⟩ := answered
      exact ⟨[], answer, last, rfl, .nil, single, remaining⟩
  | cons other rest hypothesis =>
      rw [List.cons_append, List.forall₂_cons_left_iff] at answered
      obtain ⟨found, others, single, remaining, rfl⟩ := answered
      obtain ⟨first, answer, last, rfl, earlier, middle, later⟩ := hypothesis remaining
      exact ⟨found :: first, answer, last, rfl, .cons single earlier, middle, later⟩

/-- There is one list of answers for a list of items. -/
theorem eq_of_forall₂_ok
    {attempt : α → Attempt β}
    {items : List α}
    {answers others : List β}
    (answered : List.Forall₂ (fun item answer => attempt item = .ok answer) items answers)
    (again : List.Forall₂ (fun item answer => attempt item = .ok answer) items others) :
    answers = others := by
  have first := mapM_eq_ok.mpr answered
  rw [mapM_eq_ok.mpr again] at first
  exact (Except.ok.inj first).symm

/-- What every step of a fold passes on holds of its answer. -/
theorem holds_of_foldlM
    {step : β → α → Attempt β}
    {items : List α}
    {start answer : β}
    (property : β → Prop)
    (kept : ∀ item ∈ items, ∀ made next, property made → step made item = .ok next →
      property next)
    (first : property start)
    (made : items.foldlM step start = .ok answer) :
    property answer := by
  induction items generalizing start with
  | nil =>
      cases made
      exact first
  | cons item rest hypothesis =>
      rw [List.foldlM_cons] at made
      obtain ⟨next, stepped, remaining⟩ := bind_eq_ok.mp made
      rw [List.forall_mem_cons] at kept
      exact hypothesis kept.2 (kept.1 start next first stepped) remaining

/-- Whether two attempts come to related answers or both fail, for whatever reasons. -/
inductive Agree (related : α → β → Prop) : Attempt α → Attempt β → Prop
  | ok
      {answer : α}
      {other : β}
      (same : related answer other) :
      Agree related (.ok answer) (.ok other)
  | error (fault other : Fault) : Agree related (.error fault) (.error other)

namespace Agree

variable
  {related : α → β → Prop}
  {attempt : Attempt α}
  {other : Attempt β}

theorem of_eq
    {related : α → α → Prop}
    {attempt other : Attempt α}
    (reflexive : ∀ answer, related answer answer)
    (same : attempt = other) :
    Agree related attempt other := by
  subst same
  cases attempt with
  | ok answer => exact .ok (reflexive answer)
  | error fault => exact .error fault fault

/-- Of attempts that agree both come to an answer or none. -/
theorem exists_ok_iff (agree : Agree related attempt other) :
    (∃ answer, attempt = .ok answer) ↔ ∃ answer, other = .ok answer := by
  cases agree with
  | ok _ => exact iff_of_true ⟨_, rfl⟩ ⟨_, rfl⟩
  | error _ _ => simp

theorem mono
    {weaker : α → β → Prop}
    (agree : Agree related attempt other)
    (implied : ∀ answer other, related answer other → weaker answer other) :
    Agree weaker attempt other := by
  cases agree with
  | ok same => exact .ok (implied _ _ same)
  | error fault other => exact .error fault other

theorem trans
    {step : β → γ → Prop}
    {composed : α → γ → Prop}
    {third : Attempt γ}
    (composes : ∀ answer middle last, related answer middle → step middle last →
      composed answer last)
    (first : Agree related attempt other)
    (second : Agree step other third) :
    Agree composed attempt third := by
  cases first with
  | ok same =>
      cases second with
      | ok next => exact .ok (composes _ _ _ same next)
  | error fault _ =>
      cases second with
      | error _ last => exact .error fault last

theorem symm
    {reversed : β → α → Prop}
    (reverses : ∀ answer other, related answer other → reversed other answer)
    (agree : Agree related attempt other) :
    Agree reversed other attempt := by
  cases agree with
  | ok same => exact .ok (reverses _ _ same)
  | error fault other => exact .error other fault

/-- Sequences agree if their first attempts agree, and what follows agrees on related
answers. -/
theorem bind
    {next : α → Attempt γ}
    {otherNext : β → Attempt δ}
    {goal : γ → δ → Prop}
    (first : Agree related attempt other)
    (second : ∀ answer other, related answer other → Agree goal (next answer) (otherNext other)) :
    Agree goal (attempt >>= next) (other >>= otherNext) := by
  cases first with
  | ok same => exact second _ _ same
  | error fault other => exact .error fault other

/-- Sequences that begin with the same attempt agree if what follows agrees on its answer. -/
theorem bind_same
    {goal : γ → δ → Prop}
    (attempt : Attempt α)
    {next : α → Attempt γ}
    {otherNext : α → Attempt δ}
    (second : ∀ answer, Agree goal (next answer) (otherNext answer)) :
    Agree goal (attempt >>= next) (attempt >>= otherNext) := by
  cases attempt with
  | ok answer => exact second answer
  | error fault => exact .error fault fault

/-- Attempts whose answers become equal by a change agree on what the change makes of them. -/
theorem of_map_eq
    {attempt other : Attempt α}
    {change : α → γ}
    (same : attempt.map change = other.map change) :
    Agree (fun answer other => change answer = change other) attempt other := by
  cases attempt with
  | ok answer =>
      cases other with
      | ok found => exact .ok (Except.ok.inj same)
      | error fault => cases same
  | error fault =>
      cases other with
      | ok found => cases same
      | error fault' => exact .error fault fault'

end Agree

/-- Whether two attempts come to related answers or stop with related faults. -/
inductive Matches
    (faults : Fault → Fault → Prop)
    (related : α → β → Prop) : Attempt α → Attempt β → Prop
  | ok
      {answer : α}
      {other : β}
      (same : related answer other) :
      Matches faults related (.ok answer) (.ok other)
  | error
      {fault other : Fault}
      (same : faults fault other) :
      Matches faults related (.error fault) (.error other)

namespace Matches

variable
  {faults : Fault → Fault → Prop}
  {related : α → β → Prop}
  {attempt : Attempt α}
  {other : Attempt β}

theorem refl
    {related : α → α → Prop}
    (ofFaults : ∀ fault, faults fault fault)
    (reflexive : ∀ answer, related answer answer)
    (attempt : Attempt α) :
    Matches faults related attempt attempt := by
  cases attempt with
  | ok answer => exact .ok (reflexive answer)
  | error fault => exact .error (ofFaults fault)

/-- Sequences match if their first attempts match, and what follows matches on related
answers. -/
theorem bind
    {next : α → Attempt γ}
    {otherNext : β → Attempt δ}
    {goal : γ → δ → Prop}
    (first : Matches faults related attempt other)
    (second : ∀ answer other, related answer other →
      Matches faults goal (next answer) (otherNext other)) :
    Matches faults goal (attempt >>= next) (other >>= otherNext) := by
  cases first with
  | ok same => exact second _ _ same
  | error same => exact .error same

/-- Sequences that begin with the same attempt match if what follows matches on its answer. -/
theorem bind_same
    {goal : γ → δ → Prop}
    (ofFaults : ∀ fault, faults fault fault)
    (attempt : Attempt α)
    {next : α → Attempt γ}
    {otherNext : α → Attempt δ}
    (second : ∀ answer, Matches faults goal (next answer) (otherNext answer)) :
    Matches faults goal (attempt >>= next) (attempt >>= otherNext) := by
  cases attempt with
  | ok answer => exact second answer
  | error fault => exact .error (ofFaults fault)

/-- Attempts match after a change of their answers if the change relates the answers. -/
theorem map
    {change : α → γ}
    {otherChange : β → δ}
    {goal : γ → δ → Prop}
    (same : Matches faults related attempt other)
    (changed : ∀ answer other, related answer other → goal (change answer) (otherChange other)) :
    Matches faults goal (attempt.map change) (other.map otherChange) := by
  cases same with
  | ok equal => exact .ok (changed _ _ equal)
  | error equal => exact .error equal

/-- Attempts that match on equal answers and equal faults are the same. -/
theorem eq
    {attempt other : Attempt α}
    (same : Matches Eq Eq attempt other) :
    attempt = other := by
  cases same with
  | ok equal => rw [equal]
  | error equal => rw [equal]

/-- Attempts that match agree. -/
theorem agree (same : Matches faults related attempt other) : Agree related attempt other := by
  cases same with
  | ok same => exact .ok same
  | error _ => exact .error _ _

end Matches

namespace Agree

variable
  {related : α → β → Prop}
  {attempt : Attempt α}
  {other : Attempt β}

/-- Attempts agree if they match whatever they stop with. -/
theorem matches_any (agree : Agree related attempt other) :
    Matches (fun _ _ => True) related attempt other := by
  cases agree with
  | ok same => exact .ok same
  | error _ _ => exact .error trivial

end Agree

end Attempt
end DataContract
