import DataContract.Proofs.Fault
import DataContract.Value.Order

/-!
# Values that can be compared

Comparing two values stops for one reason only: one of them is a signaling decimal, or has one
inside. Nothing like it can be a key, so that keys can always be compared. Ordering two values
stops with an undefined comparison of decimals as well, or because the values have no order.
-/

namespace DataContract

open Attempt

/-- A whole number is not a signaling decimal. -/
theorem isSignaling_ofInt (number : Int) : (Number.Decimal.ofInt number).isSignaling = false := by
  simp [Number.Decimal.ofInt, Number.Decimal.isSignaling]

theorem isSignaling_ofBinary64 (number : Number.Binary64) :
    (Number.Decimal.ofBinary64 number).isSignaling = false := by
  unfold Number.Decimal.ofBinary64
  split
  · split
    · rfl
    · split <;> rfl
  · rfl
  · rfl

/-- The value of a scalar that can be a key is not a signaling decimal. -/
theorem isSignaling_of_isKey
    {content : Scalar}
    {number : Number.Decimal}
    (usable : (Value.scalar content).isKey = true)
    (found : content.number? = some number) :
    number.isSignaling = false := by
  cases content <;> simp only [Scalar.number?, Option.some.injEq, reduceCtorEq] at found
  all_goals subst found
  · exact isSignaling_ofInt _
  · exact isSignaling_ofInt _
  · exact isSignaling_ofBinary64 _
  · simpa [Value.isKey] using usable

section Stops

variable {kind : Fault → Prop}

theorem Scalar.stops_equals
    (a b : Scalar)
    (expected : ((Value.scalar a).isKey = true → (Value.scalar b).isKey = true → False) →
      kind .undefinedDecimal) :
    StopsOnlyWith kind (a.equals b) := by
  unfold Scalar.equals
  split
  · rename_i x y first second
    split
    · rename_i signaling
      refine .error (expected fun firstUsable secondUsable => ?_)
      simp [isSignaling_of_isKey firstUsable first, isSignaling_of_isKey secondUsable second]
        at signaling
    · exact .ok _
  · split <;> exact .ok _
  · exact .ok _

namespace Value

mutual

/-- Comparing two values stops, if at all, because one of them cannot be a key. -/
theorem stops_equals
    (a b : Value)
    (expected : (a.isKey = true → b.isKey = true → False) → kind .undefinedDecimal) :
    StopsOnlyWith kind (a.equals b) := by
  unfold equals
  split
  · exact Scalar.stops_equals _ _ expected
  · exact .ok _
  · rename_i xs ys
    split
    · exact stops_equalsItems xs ys fun _ => expected (by simp [isKey])
    · exact .ok _
  · rename_i xs ys
    split
    · exact stops_equalsItems xs ys (by simpa only [isKey] using expected)
    · exact .ok _
  · rename_i es fs
    split
    · exact stops_equalsEntries es fs (expected (by simp [isKey]))
    · exact .ok _
  · exact .ok _
  · rename_i xs _ ys _
    split
    · exact stops_equalsItems xs ys (by simpa only [isKey] using expected)
    · exact .ok _
  · exact .ok _
  · exact .ok _
termination_by sizeOf a

theorem stops_equalsItems
    (xs ys : List Value)
    (expected : (areKeys xs = true → areKeys ys = true → False) → kind .undefinedDecimal) :
    StopsOnlyWith kind (equalsItems xs ys) := by
  match xs, ys with
  | x :: xs, y :: ys =>
      simp only [areKeys, Bool.and_eq_true] at expected
      rw [equalsItems]
      refine .bind ?_ fun same _ => ?_
      · split
        · exact .ok _
        · refine stops_equals x y fun doubtful => expected fun first second => ?_
          exact doubtful first.1 second.1
      · split
        · refine stops_equalsItems xs ys fun doubtful => expected fun first second => ?_
          exact doubtful first.2 second.2
        · exact .ok _
  | [], ys =>
      rw [equalsItems]
      exact .ok _
      simp
  | x :: xs, [] =>
      rw [equalsItems]
      exact .ok _
      simp
termination_by sizeOf xs

theorem stops_equalsEntries
    (es fs : List (Value × Value))
    (expected : kind .undefinedDecimal) :
    StopsOnlyWith kind (equalsEntries es fs) := by
  match es with
  | [] =>
      rw [equalsEntries]
      exact .ok _
  | (key, value) :: rest =>
      rw [equalsEntries]
      split
      · rename_i entry _
        refine .bind ?_ fun same _ => ?_
        · split
          · exact .ok _
          · exact stops_equals value entry.2 fun _ => expected
        · split
          · exact stops_equalsEntries rest fs expected
          · exact .ok _
      · exact .ok _
termination_by sizeOf es

end

end Value

/-! ## Orders -/

variable {relation : Relation}

theorem Scalar.stops_related
    (a b : Scalar)
    (wrong : kind .wrongKind)
    (undefined : kind .undefinedDecimal) :
    StopsOnlyWith kind (a.related relation b) := by
  have moments (ordering : Option Ordering) :
      StopsOnlyWith kind (Scalar.related.orWrongKind relation ordering) := by
    cases ordering with
    | some ordering => exact .ok _
    | none => exact .error wrong
  unfold Scalar.related
  split
  · split
    · exact .ok _
    · split
      · exact .error undefined
      · exact .ok _
  · split
    · exact .ok _
    · exact .ok _
    · exact .ok _
    · exact moments _
    · exact moments _
    · exact .error wrong

namespace Value

mutual

/-- Ordering two values stops, if at all, because they have no order or for a decimal. -/
theorem stops_related
    (a b : Value)
    (wrong : kind .wrongKind)
    (undefined : kind .undefinedDecimal) :
    StopsOnlyWith kind (a.related relation b) := by
  unfold related
  split
  · exact Scalar.stops_related _ _ wrong undefined
  · exact stops_relatedItems _ _ wrong undefined
  · exact stops_relatedItems _ _ wrong undefined
  · exact .error wrong
termination_by sizeOf a

theorem stops_relatedItems
    (xs ys : List Value)
    (wrong : kind .wrongKind)
    (undefined : kind .undefinedDecimal) :
    StopsOnlyWith kind (relatedItems relation xs ys) := by
  unfold relatedItems
  split
  · exact .ok _
  · exact .ok _
  · rename_i x xs y ys
    refine .bind ?_ fun same _ => ?_
    · unfold equalsAsPart
      split
      · exact .ok _
      · exact stops_equals x y fun _ => undefined
    · split
      · exact stops_relatedItems xs ys wrong undefined
      · exact stops_related x y wrong undefined
termination_by sizeOf xs

end

end Value

end Stops

end DataContract
