import DataContract.Proofs.Value.Equivalence
import DataContract.Rule
import Mathlib.Logic.Relation

/-!
# Guards of rules

A guard that is a pattern asks for some entries of a map, and inside the maps under its keys for
some entries again; everything else has to be equal. On data without anything that is not a number,
patterns are a preorder: each one matches itself, and what matches a match of a pattern matches the
pattern. A map that gains entries is matched by what it was before, so that a rule goes on applying,
and a pattern that loses entries goes on matching.
-/

namespace DataContract

open Value

/-- Whether a pattern matches a value. -/
abbrev IsMatch (pattern value : Value) : Prop :=
  matchesPattern pattern value = .ok true

/-- Whether a value is as a pattern expects it under one of its keys. -/
abbrev IsAsExpected (expected found : Value) : Prop :=
  matchesExpected expected found = .ok true

/-! ## Matching -/

section Matching

variable
  {pattern value : Value}
  {expected found : Value}
  {wanted entries : Entries}

/-- A map has the entries that are wanted if each is found under its key and is as expected. -/
theorem matchesEntries_eq_true_iff :
    matchesEntries wanted entries = .ok true ↔
      ∀ entry ∈ wanted, ∃ found, entries.get? entry.1 = some found ∧
        IsAsExpected entry.2 found := by
  induction wanted with
  | nil => simp [matchesEntries]
  | cons entry rest hypothesis =>
      obtain ⟨key, expected⟩ := entry
      rw [matchesEntries, List.forall_mem_cons, ← hypothesis]
      cases entries.get? key with
      | none => simp
      | some found => simp [bind_ite_eq_true]

/-- What is expected as a map has its entries. -/
theorem isAsExpected_map_iff :
    IsAsExpected (.map wanted) found ↔
      ∃ entries : Entries, found = .map entries ∧
        ∀ entry ∈ wanted, ∃ found, entries.get? entry.1 = some found ∧
          IsAsExpected entry.2 found := by
  simp only [← matchesEntries_eq_true_iff]
  unfold IsAsExpected matchesExpected
  cases found <;> simp

/-- What is expected as anything else is equal to it. -/
theorem isAsExpected_iff (single : ∀ entries, expected ≠ .map entries) :
    IsAsExpected expected found ↔ found.IsEqualTo expected := by
  unfold IsAsExpected matchesExpected
  split
  · exact absurd rfl (single _)
  · exact Iff.rfl

/-- A pattern that is a map matches what is as it expects. -/
theorem isMatch_map_iff : IsMatch (.map wanted) value ↔ IsAsExpected (.map wanted) value := by
  unfold IsMatch IsAsExpected matchesPattern matchesExpected
  cases value <;> simp

/-- Only a map is a pattern. -/
theorem exists_map_of_isMatch
    (matched : IsMatch pattern value) :
    ∃ wanted, pattern = .map wanted := by
  unfold IsMatch matchesPattern at matched
  split at matched
  · split at matched
    · exact ⟨_, rfl⟩
    · cases matched
  · cases matched

end Matching

/-! ## Patterns as a preorder -/

/-- A regular value is as it expects itself. -/
theorem isAsExpected_self
    (value : Value)
    (regular : value.isRegular = true) :
    IsAsExpected value value := by
  induction value using Value.induct with
  | map entries hypothesis =>
      obtain ⟨entriesRegular, distinct⟩ := areRegularEntries_iff.mp regular
      refine isAsExpected_map_iff.mpr ⟨entries, rfl, fun entry member => ?_⟩
      refine ⟨entry.2, Entries.get?_of_mem distinct member, ?_⟩
      exact hypothesis entry member (entriesRegular entry member).2.2
  | _ => exact (isAsExpected_iff (by nofun)).mpr (isEqualTo_self _ regular)

section Transitivity

variable {middle found : Value}

/-- What equals no map equals what a pattern expects there, and so does what equals it. -/
theorem isAsExpected_trans_of_single
    {expected : Value}
    (single : ∀ entries, expected ≠ .map entries)
    (regular : expected.isRegular = true)
    (middleRegular : middle.isRegular = true)
    (foundRegular : found.isRegular = true)
    (first : IsAsExpected expected middle)
    (second : IsAsExpected middle found) :
    IsAsExpected expected found := by
  have same := (isAsExpected_iff single).mp first
  have middleSingle : ∀ entries, middle ≠ .map entries := by
    rintro entries rfl
    obtain ⟨others, whole, -⟩ := (isEqualTo_map_iff middleRegular).mp same
    exact single others whole
  have next := (isAsExpected_iff middleSingle).mp second
  exact (isAsExpected_iff single).mpr
    (isEqualTo_trans found foundRegular middleRegular regular next same)

/-- What is as a pattern expects of what is as another pattern expects is as the first expects. -/
theorem isAsExpected_trans
    (expected : Value)
    (regular : expected.isRegular = true)
    (middleRegular : middle.isRegular = true)
    (foundRegular : found.isRegular = true)
    (first : IsAsExpected expected middle)
    (second : IsAsExpected middle found) :
    IsAsExpected expected found := by
  induction expected using Value.induct generalizing middle found with
  | map wanted hypothesis =>
      obtain ⟨entries, rfl, wantedFound⟩ := isAsExpected_map_iff.mp first
      obtain ⟨lasts, rfl, entriesFound⟩ := isAsExpected_map_iff.mp second
      refine isAsExpected_map_iff.mpr ⟨lasts, rfl, fun entry member => ?_⟩
      obtain ⟨usable, keyRegular, entryRegular⟩ :=
        (areRegularEntries_iff.mp regular).1 entry member
      obtain ⟨_, looked, asExpected⟩ := wantedFound entry member
      obtain ⟨middle, inside, sameKey, rfl⟩ := Entries.exists_mem_of_get? looked
      obtain ⟨middleUsable, middleKey, valueRegular⟩ :=
        (areRegularEntries_iff.mp middleRegular).1 middle inside
      obtain ⟨_, lastLooked, asNext⟩ := entriesFound middle inside
      obtain ⟨last, lastInside, -, rfl⟩ := Entries.exists_mem_of_get? lastLooked
      have lastRegular := ((areRegularEntries_iff.mp foundRegular).1 last lastInside).2.2
      refine ⟨last.2, ?_, ?_⟩
      · rw [← lastLooked]
        exact Entries.get?_eq_of_sameKey foundRegular usable keyRegular middleUsable middleKey
          sameKey
      · exact hypothesis entry member entryRegular valueRegular lastRegular asExpected asNext
  | _ =>
      exact isAsExpected_trans_of_single (by nofun) regular middleRegular foundRegular first second

/-- What matches a match of a pattern matches the pattern. -/
theorem IsMatch.trans
    {pattern value : Value}
    (regular : pattern.isRegular = true)
    (middleRegular : middle.isRegular = true)
    (valueRegular : value.isRegular = true)
    (first : IsMatch pattern middle)
    (second : IsMatch middle value) :
    IsMatch pattern value := by
  obtain ⟨wanted, rfl⟩ := exists_map_of_isMatch first
  obtain ⟨entries, rfl⟩ := exists_map_of_isMatch second
  exact isMatch_map_iff.mpr (isAsExpected_trans _ regular middleRegular valueRegular
    (isMatch_map_iff.mp first) (isMatch_map_iff.mp second))

end Transitivity

/-! ## Gained entries -/

/-- Whether a value is made from another by adding one entry to a map that is reached through
maps only. -/
inductive Gains : Value → Value → Prop
  | entry
      (before after : Entries)
      (added : Value × Value) :
      Gains (.map (before ++ after)) (.map (before ++ added :: after))
  | inside
      (before after : Entries)
      (key : Value)
      {value grown : Value}
      (gains : Gains value grown) :
      Gains (.map (before ++ (key, value) :: after)) (.map (before ++ (key, grown) :: after))

section Growth

variable {value grown : Value}

/-- Whether entries are regular does not depend on the values but for their being so. -/
theorem areRegularEntries_replaced
    {before after : Entries}
    {key : Value}
    (implied : grown.isRegular = true → value.isRegular = true)
    (regular : areRegularEntries (before ++ (key, grown) :: after) = true) :
    areRegularEntries (before ++ (key, value) :: after) = true := by
  rw [areRegularEntries_iff] at regular ⊢
  simp only [List.forall_mem_append, List.forall_mem_cons, Entries.AreDistinct,
    List.pairwise_append, List.pairwise_cons] at regular ⊢
  obtain ⟨⟨earlier, ⟨usable, keyRegular, valueRegular⟩, later⟩, distinct⟩ := regular
  exact ⟨⟨earlier, ⟨usable, keyRegular, implied valueRegular⟩, later⟩, distinct⟩

/-- What a regular value is made from by adding an entry is regular. -/
theorem Gains.isRegular
    (gains : Gains value grown)
    (regular : grown.isRegular = true) :
    value.isRegular = true := by
  induction gains with
  | entry before after added =>
      obtain ⟨entriesRegular, distinct⟩ := areRegularEntries_iff.mp regular
      have fewer : List.Sublist (before ++ after) (before ++ added :: after) :=
        (List.sublist_cons_self added after).append_left before
      refine areRegularEntries_iff.mpr ⟨fun entry member => ?_, distinct.sublist fewer⟩
      exact entriesRegular entry (fewer.subset member)
  | inside before after key gains hypothesis => exact areRegularEntries_replaced hypothesis regular

/-- A map has what is expected if it has an entry under each of the keys that is as expected. -/
theorem isAsExpected_map_of_entries
    {wanted entries : Entries}
    (regular : areRegularEntries entries = true)
    (each : ∀ entry ∈ wanted, ∃ found, (entry.1, found) ∈ entries ∧ IsAsExpected entry.2 found) :
    IsAsExpected (.map wanted) (.map entries) := by
  refine isAsExpected_map_iff.mpr ⟨entries, rfl, fun entry member => ?_⟩
  obtain ⟨found, inside, asExpected⟩ := each entry member
  exact ⟨found, Entries.get?_of_mem (areRegularEntries_iff.mp regular).2 inside, asExpected⟩

/-- A value with one entry more is as the value expects. -/
theorem Gains.isAsExpected
    (gains : Gains value grown)
    (regular : grown.isRegular = true) :
    IsAsExpected value grown := by
  induction gains with
  | entry before after added =>
      refine isAsExpected_map_of_entries regular fun entry member => ?_
      have inside : entry ∈ before ++ added :: after := by
        rcases List.mem_append.mp member with earlier | later
        · exact List.mem_append_left _ earlier
        · exact List.mem_append_right _ (List.mem_cons_of_mem _ later)
      have entryRegular := ((areRegularEntries_iff.mp regular).1 entry inside).2.2
      exact ⟨entry.2, inside, isAsExpected_self entry.2 entryRegular⟩
  | @inside before after key value grown gains hypothesis =>
      have entriesRegular := (areRegularEntries_iff.mp regular).1
      refine isAsExpected_map_of_entries regular fun entry member => ?_
      rcases List.mem_append.mp member with earlier | here
      · have inside := List.mem_append_left ((key, grown) :: after) earlier
        exact ⟨entry.2, inside, isAsExpected_self entry.2 (entriesRegular entry inside).2.2⟩
      rcases List.mem_cons.mp here with rfl | later
      · have inside : (key, grown) ∈ before ++ (key, grown) :: after :=
          List.mem_append_right before List.mem_cons_self
        exact ⟨grown, inside, hypothesis (entriesRegular _ inside).2.2⟩
      · have inside := List.mem_append_right before (List.mem_cons_of_mem (key, grown) later)
        exact ⟨entry.2, inside, isAsExpected_self entry.2 (entriesRegular entry inside).2.2⟩

/-- A value that gains entries, however many, is as expected where it was expected before. -/
theorem isAsExpected_of_growth
    (gains : Relation.ReflTransGen Gains value grown)
    (regular : grown.isRegular = true) :
    value.isRegular = true ∧ IsAsExpected value grown := by
  induction gains using Relation.ReflTransGen.head_induction_on with
  | refl => exact ⟨regular, isAsExpected_self grown regular⟩
  | @head value middle step later hypothesis =>
      obtain ⟨middleRegular, asExpected⟩ := hypothesis
      have valueRegular := step.isRegular middleRegular
      exact ⟨valueRegular, isAsExpected_trans value valueRegular middleRegular regular
        (step.isAsExpected middleRegular) asExpected⟩

end Growth

/-- Guards that are patterns form a preorder on values without anything that is not a number. Each
pattern matches itself, and what matches a match of a pattern matches the pattern. So a rule with
a pattern for its guard goes on applying when the output gains entries in maps that are reached
through maps only, and a pattern from which such entries are taken goes on matching. -/
theorem isMatch_preorder :
    (∀ entries : Entries, (Value.map entries).isRegular = true →
      IsMatch (.map entries) (.map entries)) ∧
    (∀ pattern middle value : Value,
      pattern.isRegular = true → middle.isRegular = true → value.isRegular = true →
      IsMatch pattern middle → IsMatch middle value → IsMatch pattern value) ∧
    (∀ (rule : Rule) (entries : Entries) (output grown : Value),
      rule.guard = .pattern entries → (Value.map entries).isRegular = true →
      grown.isRegular = true → Relation.ReflTransGen Gains output grown →
      rule.appliesTo output = .ok true → rule.appliesTo grown = .ok true) ∧
    ∀ (fewer entries : Entries) (value : Value),
      (Value.map entries).isRegular = true → value.isRegular = true →
      Relation.ReflTransGen Gains (.map fewer) (.map entries) →
      IsMatch (.map entries) value → IsMatch (.map fewer) value := by
  refine ⟨?_, ?_, ?_, ?_⟩
  · intro entries regular
    exact isMatch_map_iff.mpr (isAsExpected_self _ regular)
  · intro pattern middle value regular middleRegular valueRegular first second
    exact first.trans regular middleRegular valueRegular second
  · intro rule entries output grown guarded regular grownRegular gains applies
    obtain ⟨outputRegular, asExpected⟩ := isAsExpected_of_growth gains grownRegular
    simp only [Rule.appliesTo, guarded] at applies ⊢
    exact isMatch_map_iff.mpr (isAsExpected_trans _ regular outputRegular grownRegular
      (isMatch_map_iff.mp applies) asExpected)
  · intro fewer entries value regular valueRegular gains matched
    obtain ⟨fewerRegular, asExpected⟩ := isAsExpected_of_growth gains regular
    exact isMatch_map_iff.mpr (isAsExpected_trans _ fewerRegular regular valueRegular asExpected
      (isMatch_map_iff.mp matched))

/-- A pattern for one order of an account. -/
def accountPattern : Entries :=
  [(.text "orders", .map [(.int 1, .list [.map [(.text "total", .int 2)]])])]

/-- The account, in which numbers are written in other ways. -/
def account : Entries :=
  [(.text "orders", .map
    [(.bool true, .list [.map [(.text "total", .decimal (.finite false 20 (-1)))]])])]

/-- The account with an order more. -/
def grownAccount : Entries :=
  [(.text "orders", .map
    [(.int 2, .null),
      (.bool true, .list [.map [(.text "total", .decimal (.finite false 20 (-1)))]])])]

/-- The account matches the pattern, and goes on matching it with one order more. -/
theorem isMatch_preorder_account :
    IsMatch (.map accountPattern) (.map grownAccount) ∧
      (Rule.mk "orders" (.pattern accountPattern) fun _ => .ok .pass).appliesTo
        (.map grownAccount) = .ok true ∧
      IsMatch (.map [(.text "orders", .map [])]) (.map account) := by
  have regular : (Value.map accountPattern).isRegular = true := by decide
  have accountRegular : (Value.map account).isRegular = true := by decide
  have grownRegular : (Value.map grownAccount).isRegular = true := by decide
  have matched : IsMatch (.map accountPattern) (.map account) := by decide
  have gained : Gains (.map account) (.map grownAccount) :=
    .inside [] [] (.text "orders") (.entry [] _ (.int 2, .null))
  have later : IsMatch (.map account) (.map grownAccount) := by decide
  refine ⟨?_, ?_, ?_⟩
  · exact isMatch_preorder.2.1 _ _ _ regular accountRegular grownRegular matched later
  · exact isMatch_preorder.2.2.1 _ accountPattern _ _ rfl regular grownRegular (.single gained)
      matched
  · exact isMatch_preorder.2.2.2 _ accountPattern _ regular accountRegular
      (.single (.inside [] [] (.text "orders") (.entry [] [] _))) matched

end DataContract
