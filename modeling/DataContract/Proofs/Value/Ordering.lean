import DataContract.Proofs.Calendar.Position
import DataContract.Proofs.Value.Inquiry

/-!
# Relations and comparisons

All that can be asked about the order of two values is read off one comparison of them: it comes
to one of three orderings, or to none if one of them is something that is not a number, or it
stops. Wherever it comes to something, it is equality that it comes to exactly for equal values.

Sequences are compared by their first items that differ. Whether items differ is a question of
equality, and so is whether the sequences are equal; that is why both questions go together
through all sequences.
-/

namespace DataContract

/-! ## Comparisons -/

/-- Byte strings compare as equal only if they are the same. -/
theorem compareBytes_eq_eq
    {first second : List UInt8} :
    compareBytes first second = .eq ↔ first = second := by
  induction first generalizing second with
  | nil => cases second <;> simp [compareBytes]
  | cons byte rest hypothesis =>
      cases second with
      | nil => simp [compareBytes]
      | cons other others =>
          rw [compareBytes, List.cons.injEq, ← UInt8.toNat_inj, ← hypothesis,
            ← Nat.compare_eq_eq]
          cases compare byte.toNat other.toNat <;> simp

/-- Days compare as equal only if they are the same. -/
theorem Calendar.Date.compare_eq_eq
    {first second : Date} :
    first.compare second = .eq ↔ first = second := by
  rw [compare, Nat.compare_eq_eq, ordinal_injective.eq_iff]

/-- What a comparison comes to, which may be no ordering at all. -/
abbrev Comparison := Attempt (Option Ordering)

/-- The answer of a comparison to the question for a relation. -/
def Comparison.holds
    (comparison : Comparison)
    (relation : Relation) : Attempt Bool :=
  comparison.map fun found => found.any relation.holds

/-- Whether a comparison is that of two scalars: all relations between them are read off it, and
also whether they are equal. -/
structure Scalar.ComparesAs
    (first second : Scalar)
    (comparison : Comparison) : Prop where
  /-- Every relation is read off the comparison. -/
  related : ∀ relation, first.related relation second = comparison.holds relation
  /-- Equality is read off the comparison. -/
  equals : ∀ found, comparison = .ok found → first.equals second = .ok (found == some .eq)

/-- Whether a comparison is that of two values. -/
structure Value.ComparesAs
    (value other : Value)
    (comparison : Comparison) : Prop where
  /-- Every relation is read off the comparison. -/
  related : ∀ relation, value.related relation other = comparison.holds relation
  /-- Equality is read off the comparison. -/
  equals : ∀ found, comparison = .ok found → value.equals other = .ok (found == some .eq)

/-- Whether a comparison is that of two sequences, which are equal if they have the same length
and their items are equal. -/
structure Value.ItemsCompareAs
    (items others : List Value)
    (comparison : Comparison) : Prop where
  /-- Every relation is read off the comparison. -/
  related : ∀ relation, relatedItems relation items others = comparison.holds relation
  /-- Equality is read off the comparison and the lengths. -/
  equals : ∀ found, comparison = .ok found →
    (if items.length = others.length then equalsItems items others else .ok false) =
      .ok (found == some .eq)

/-! ## Scalars -/

namespace Number.Decimal

/-- Numbers that signal are no numbers. -/
theorem isNaN_of_isSignaling
    {number : Decimal}
    (signaling : number.isSignaling = true) :
    number.isNaN = true := by
  cases number with
  | nan => rfl
  | finite => cases signaling
  | infinite => cases signaling

end Number.Decimal

namespace Scalar

variable {first second : Scalar}

/-- The numbers of scalars that are no decimals do not signal. -/
theorem isSignaling_of_isDecimal
    {number : Number.Decimal}
    (plain : first.isDecimal = false)
    (found : first.number? = some number) :
    number.isSignaling = false := by
  cases first with
  | decimal number => cases plain
  | _ => exact isSignaling_of_isKey rfl found

/-- Numbers are compared by value. -/
theorem exists_comparesAs_of_number?
    {number other : Number.Decimal}
    (left : first.number? = some number)
    (right : second.number? = some other) :
    ∃ comparison, first.ComparesAs second comparison := by
  cases compared : number.compare? other with
  | some ordering =>
      have regular : ¬ (number.isNaN = true ∨ other.isNaN = true) := by
        rw [← Number.Decimal.compare?_eq_none, compared]
        simp
      have silent : (number.isSignaling || other.isSignaling) = false := by
        rw [Bool.eq_false_iff, Ne, Bool.or_eq_true]
        exact fun signaling => regular (signaling.imp Number.Decimal.isNaN_of_isSignaling
          Number.Decimal.isNaN_of_isSignaling)
      refine ⟨.ok (some ordering), ⟨fun relation => ?_, fun found same => ?_⟩⟩
      · simp [related, left, right, compared, Comparison.holds, Except.map]
      · cases same
        simp [equals, left, right, compared, silent]
  | none =>
      by_cases decimal : (first.isDecimal || second.isDecimal) = true
      · refine ⟨.error .undefinedDecimal, ⟨fun relation => ?_, fun found same => ?_⟩⟩
        · simp [related, left, right, compared, decimal, Comparison.holds, Except.map]
        · cases same
      · rw [Bool.not_eq_true] at decimal
        obtain ⟨plain, otherPlain⟩ := Bool.or_eq_false_iff.mp decimal
        refine ⟨.ok none, ⟨fun relation => ?_, fun found same => ?_⟩⟩
        · simp [related, left, right, compared, decimal, Comparison.holds, Except.map]
        · cases same
          simp [equals, left, right, compared, isSignaling_of_isDecimal plain left,
            isSignaling_of_isDecimal otherPlain right]

/-- Scalars without an order compare as such. -/
theorem comparesAs_wrongKind
    (unordered : ∀ relation, first.related relation second = .error .wrongKind) :
    first.ComparesAs second (.error .wrongKind) :=
  ⟨unordered, nofun⟩

/-- Scalars that are always ordered are compared by their order if it tells equal ones. -/
theorem comparesAs_of_order
    {ordering : Ordering}
    (ordered : ∀ relation, first.related relation second = .ok (relation.holds ordering))
    (equality : first.equals second = .ok (ordering == .eq)) :
    first.ComparesAs second (.ok (some ordering)) := by
  refine ⟨ordered, fun found same => ?_⟩
  cases same
  exact equality

/-- Scalars of one kind are compared by its order if only the same ones are equal in it. -/
theorem exists_comparesAs_of_linear
    {ordering : Ordering}
    (ordered : ∀ relation, first.related relation second = .ok (relation.holds ordering))
    (equality : first.equals second = .ok (first == second))
    (linear : ordering = .eq ↔ first = second) :
    ∃ comparison, first.ComparesAs second comparison := by
  refine ⟨_, comparesAs_of_order ordered ?_⟩
  rw [equality, Except.ok.injEq, Bool.eq_iff_iff, beq_iff_eq, beq_iff_eq, linear]

/-- Moments are compared by their order if they have one. -/
theorem exists_comparesAs_of_moments
    {found : Option Ordering}
    (ordered : ∀ relation, first.related relation second = related.orWrongKind relation found)
    (equality : first.equals second = .ok (found == some .eq)) :
    ∃ comparison, first.ComparesAs second comparison := by
  cases found with
  | some ordering => exact ⟨_, comparesAs_of_order ordered equality⟩
  | none => exact ⟨_, comparesAs_wrongKind ordered⟩

/-- All that can be asked about two scalars is read off one comparison. -/
theorem exists_comparesAs (first second : Scalar) :
    ∃ comparison, first.ComparesAs second comparison := by
  have numbers {number : Number.Decimal} (left : first.number? = some number)
      (others : second.number? = none →
        ∀ relation, first.related relation second = .error .wrongKind) :
      ∃ comparison, first.ComparesAs second comparison := by
    cases right : second.number? with
    | some other => exact exists_comparesAs_of_number? left right
    | none => exact ⟨_, comparesAs_wrongKind (others right)⟩
  cases first with
  | bool flag | int number | float number | decimal number =>
      refine numbers rfl fun right relation => ?_
      cases second <;> first | rfl | cases right
  | null => exact ⟨_, comparesAs_wrongKind fun _ => rfl⟩
  | text content =>
      cases second with
      | text other =>
          exact exists_comparesAs_of_linear (fun _ => rfl) rfl
            (Std.compare_eq_iff_eq.trans (text.injEq content other).symm.to_iff)
      | _ => exact ⟨_, comparesAs_wrongKind fun _ => rfl⟩
  | bytes content =>
      cases second with
      | bytes other =>
          exact exists_comparesAs_of_linear (fun _ => rfl) rfl
            (compareBytes_eq_eq.trans (bytes.injEq content other).symm.to_iff)
      | _ => exact ⟨_, comparesAs_wrongKind fun _ => rfl⟩
  | date day =>
      cases second with
      | date other =>
          exact exists_comparesAs_of_linear (fun _ => rfl) rfl
            (Calendar.Date.compare_eq_eq.trans (date.injEq day other).symm.to_iff)
      | _ => exact ⟨_, comparesAs_wrongKind fun _ => rfl⟩
  | dateTime moment =>
      cases second with
      | dateTime other => exact exists_comparesAs_of_moments (fun _ => rfl) rfl
      | _ => exact ⟨_, comparesAs_wrongKind fun _ => rfl⟩
  | time clock =>
      cases second with
      | time other => exact exists_comparesAs_of_moments (fun _ => rfl) rfl
      | _ => exact ⟨_, comparesAs_wrongKind fun _ => rfl⟩

end Scalar

/-! ## Values -/

namespace Value

/-- Parts that are equal, or not, are so as values, unless they come from one place. -/
theorem equals_of_equalsAsPart_eq_false
    {part counterpart : Value}
    (apart : part.equalsAsPart counterpart = .ok false) :
    part.equals counterpart = .ok false := by
  rw [equalsAsPart] at apart
  split at apart
  · cases apart
  · exact apart

/-- Sequences are compared by their first items that differ, or by their lengths. -/
theorem exists_itemsCompareAs
    {items : List Value}
    (each : ∀ item ∈ items, ∀ other, ∃ comparison, item.ComparesAs other comparison)
    (others : List Value) :
    ∃ comparison, ItemsCompareAs items others comparison := by
  induction items generalizing others with
  | nil =>
      refine ⟨.ok (some (if others.isEmpty then .eq else .lt)), ⟨fun relation => ?_, ?_⟩⟩
      · rfl
      · rintro found same
        cases same
        cases others <;> simp [equalsItems]
  | cons item rest hypothesis =>
      rw [List.forall_mem_cons] at each
      cases others with
      | nil =>
          refine ⟨.ok (some .gt), ⟨fun relation => rfl, fun found same => ?_⟩⟩
          cases same
          simp
      | cons other remaining =>
          cases equal : item.equalsAsPart other with
          | error fault =>
              refine ⟨.error fault, ⟨fun relation => ?_, nofun⟩⟩
              rw [relatedItems, equal]
              rfl
          | ok flag =>
              cases flag with
              | true =>
                  obtain ⟨comparison, compares⟩ := hypothesis each.2 remaining
                  refine ⟨comparison, ⟨fun relation => ?_, fun found same => ?_⟩⟩
                  · rw [relatedItems, equal]
                    exact compares.related relation
                  · rw [equalsItems, ← equalsAsPart, equal]
                    simpa using compares.equals found same
              | false =>
                  obtain ⟨comparison, compares⟩ := each.1 other
                  refine ⟨comparison, ⟨fun relation => ?_, fun found same => ?_⟩⟩
                  · rw [relatedItems, equal]
                    exact compares.related relation
                  · have differ := equals_of_equalsAsPart_eq_false equal
                    rw [equalsItems, ← equalsAsPart, equal, ← differ.symm.trans
                      (compares.equals found same)]
                    simp

/-- All that can be asked about two values is read off one comparison. -/
theorem exists_comparesAs (value other : Value) :
    ∃ comparison, value.ComparesAs other comparison := by
  have unordered (never : ∀ relation, value.related relation other = .error .wrongKind) :
      ∃ comparison, value.ComparesAs other comparison :=
    ⟨.error .wrongKind, never, nofun⟩
  cases value with
  | scalar first =>
      cases other with
      | scalar second =>
          obtain ⟨comparison, compares⟩ := first.exists_comparesAs second
          exact ⟨comparison, compares.related, compares.equals⟩
      | _ => exact unordered fun _ => rfl
  | list items =>
      cases other with
      | list others =>
          obtain ⟨comparison, compares⟩ :=
            exists_itemsCompareAs (fun item _ other => exists_comparesAs item other) others
          exact ⟨comparison, compares.related, compares.equals⟩
      | _ => exact unordered fun _ => rfl
  | tuple items =>
      cases other with
      | tuple others =>
          obtain ⟨comparison, compares⟩ :=
            exists_itemsCompareAs (fun item _ other => exists_comparesAs item other) others
          exact ⟨comparison, compares.related, compares.equals⟩
      | _ => exact unordered fun _ => rfl
  | _ =>
      refine unordered fun _ => ?_
      simp only [related]
termination_by sizeOf value

end Value
end DataContract
