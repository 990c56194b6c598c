import DataContract.Proofs.Number.Quantity
import DataContract.Proofs.Value.Ordering

/-!
# What scalars count as

For every scalar but those that are not numbers there is something that it counts as: what a number
amounts to, a moment, a time of day, or the scalar itself. Scalars are equal exactly if they count
as the same. Two times of day can be equal though they are less than a second apart; their exact
moments count only where they are keys.
-/

namespace DataContract

open Number Calendar

namespace Calendar

/-- Times are equal if both offsets are known or both are unknown, and whole seconds and the
microseconds of the local times are the same. -/
theorem Time.compare?_eq_eq_iff {first second : Time} :
    first.compare? second = some .eq ↔
      first.offset.isSome = second.offset.isSome ∧
        first.universalSeconds = second.universalSeconds ∧
        first.microsecond = second.microsecond := by
  have bounded (time : Time) : time.microsecond < 1000000 := by
    have valid := time.valid
    simp only [isTimeOfDay, Bool.and_eq_true, decide_eq_true_eq] at valid
    exact valid.2
  have firstBound := bounded first
  have secondBound := bounded second
  rw [compare?]
  by_cases known : first.offset.isSome = second.offset.isSome
  · rw [if_pos known, Option.some.injEq]
    by_cases same : first.offset = second.offset
    · rw [if_pos same, Nat.compare_eq_eq]
      simp only [universalSeconds, same, sinceMidnight, true_and]
      omega
    · rw [if_neg same]
      split
      · rename_i seconds
        simp [known, Std.compare_eq_iff_eq.mp seconds]
      · rename_i apart
        have differ : first.universalSeconds ≠ second.universalSeconds :=
          fun equal => apart (Std.compare_eq_iff_eq.mpr equal)
        simp [differ]
  · simp [known]

/-- Moments are equal if both offsets are known or both are unknown and they are the same in
universal time. -/
theorem DateTime.compare?_eq_eq_iff {first second : DateTime} :
    first.compare? second = some .eq ↔
      first.time.offset.isSome = second.time.offset.isSome ∧
        first.universal = second.universal := by
  rw [compare?]
  by_cases known : first.time.offset.isSome = second.time.offset.isSome
  · simp [known]
  · simp [known]

end Calendar

/-- What a scalar counts as where it is asked for equality. -/
inductive Standing
  | number (quantity : Quantity)
  | moment (known : Bool) (universal : Int)
  | clock (known : Bool) (seconds : Int) (microsecond : Nat)
  | itself (content : Scalar)

namespace Scalar

/-- The exact moment of a time, which two equal times need not have in common. -/
def instant? : Scalar → Option Int
  | .time clock => some clock.universal
  | _ => none

/-- What a scalar counts as, unless it is something that is not a number. -/
def standing? (content : Scalar) : Option Standing :=
  match content.number? with
  | some number => number.quantity?.map .number
  | none =>
      match content with
      | .dateTime moment => some (.moment moment.time.offset.isSome moment.universal)
      | .time clock => some (.clock clock.offset.isSome clock.universalSeconds clock.microsecond)
      | content => some (.itself content)

/-- Whether a scalar is something that is not a number. -/
def isNaN (content : Scalar) : Bool :=
  content.number?.any Decimal.isNaN

variable {first second : Scalar}

theorem standing?_eq_none : first.standing? = none ↔ first.isNaN = true := by
  unfold standing? isNaN
  cases first.number? with
  | some number => simp [Decimal.quantity?_eq_none]
  | none =>
      simp only [Option.any_none, Bool.false_eq_true, iff_false]
      split <;> simp

/-- What is no number does not count as one. -/
theorem standing?_ne_number
    (apart : first.number? = none)
    (quantity : Quantity) :
    first.standing? ≠ some (.number quantity) := by
  unfold standing?
  rw [apart]
  cases first <;> simp

/-- A scalar that can be compared equals exactly what counts as the same. -/
theorem equals_eq_true_iff (regular : first.isNaN = false) :
    first.equals second = .ok true ↔ first.standing? = second.standing? := by
  unfold equals
  cases left : first.number? with
  | some number =>
      have counted : number.isNaN = false := by simpa [isNaN, left] using regular
      obtain ⟨quantity, amount⟩ : ∃ quantity, number.quantity? = some quantity := by
        rw [← Option.ne_none_iff_exists', Ne, Decimal.quantity?_eq_none, counted]
        exact Bool.false_ne_true
      have own : first.standing? = some (.number quantity) := by simp [standing?, left, amount]
      have silent : number.isSignaling = false := by
        rw [Bool.eq_false_iff]
        intro signaling
        exact absurd (Decimal.isNaN_of_isSignaling signaling) (by simp [counted])
      cases right : second.number? with
      | some other =>
          have others : second.standing? = other.quantity?.map .number := by
            simp [standing?, right]
          rw [own, others, eq_comm (a := some (Standing.number quantity))]
          cases signaling : other.isSignaling with
          | true =>
              have nothing := Decimal.quantity?_eq_none.mpr (Decimal.isNaN_of_isSignaling signaling)
              simp [nothing, signaling]
          | false => simp [silent, signaling, Decimal.compare?_eq_eq_iff, amount]
      | none => simp [own, (standing?_ne_number right quantity).symm]
  | none =>
      cases right : second.number? with
      | some other =>
          have others : second.standing? = other.quantity?.map .number := by
            simp [standing?, right]
          cases amount : other.quantity? with
          | none =>
              have some := mt standing?_eq_none.mp (by simp [regular] : ¬ first.isNaN = true)
              simp [others, amount, some]
          | some quantity => simp [others, amount, standing?_ne_number left quantity]
      | none =>
          cases first <;> cases second <;>
            simp_all [number?, standing?, Time.compare?_eq_eq_iff, DateTime.compare?_eq_eq_iff]

end Scalar

end DataContract
