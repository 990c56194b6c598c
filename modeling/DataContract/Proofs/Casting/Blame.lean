import DataContract.Casting.Default
import DataContract.Proofs.Predicate.TypeCheck
import DataContract.Proofs.Value.Comparison

/-!
# Mistakes that the default caster tells

Between tags that the default caster converts between, it stops with a mistake in a definition
for one reason only: the options of a cast between whole numbers and moments name no unit of
time. In particular it never turns out only then that there is no conversion.
-/

namespace DataContract

open Attempt

section Conversions

variable {blamed : DefinitionFault → Prop}

theorem Value.blamesOnly_readOr
    {fault : Fault}
    (other : fault.isDefinition = false)
    (found : Option α) :
    BlamesOnly blamed (Value.readOr fault found) := by
  cases found with
  | some answer => exact .ok _
  | none => exact blamesOnly_error other

namespace Value

theorem blamesOnly_toWhole (value : Value) : BlamesOnly blamed value.toWhole := by
  unfold toWhole
  split
  · exact blamesOnly_readOr rfl _
  · exact blamesOnly_readOr rfl _
  · exact .ok _
  · exact .ok _
  · split
    · exact blamesOnly_error rfl
    · exact blamesOnly_error rfl
    · exact blamesOnly_readOr rfl _
  · split
    · exact blamesOnly_error rfl
    · exact blamesOnly_error rfl
    · exact .ok _
  · exact blamesOnly_error rfl

theorem blamesOnly_wholeToFloat (number : Int) : BlamesOnly blamed (wholeToFloat number) := by
  unfold wholeToFloat
  split
  · exact blamesOnly_error rfl
  · exact .ok _

theorem blamesOnly_toFloat (value : Value) : BlamesOnly blamed value.toFloat := by
  unfold toFloat
  split
  · exact blamesOnly_readOr rfl _
  · exact blamesOnly_readOr rfl _
  · exact blamesOnly_wholeToFloat _
  · exact blamesOnly_wholeToFloat _
  · exact .ok _
  · split
    · exact blamesOnly_error rfl
    · exact .ok _
  · exact blamesOnly_error rfl

theorem blamesOnly_coefficientDigits (digits : Value) :
    BlamesOnly blamed (coefficientDigits digits) := by
  have each (items : List Value) : BlamesOnly blamed (coefficientDigits.digitsOf items) := by
    refine .mapM fun item _ => ?_
    split
    · split
      · exact .ok _
      · exact blamesOnly_error rfl
    · exact blamesOnly_error rfl
  unfold coefficientDigits
  split
  · exact each _
  · exact each _
  · exact blamesOnly_error rfl

theorem blamesOnly_decimalOfParts (sign digits exponent : Value) :
    BlamesOnly blamed (decimalOfParts sign digits exponent) := by
  have read : BlamesOnly blamed (coefficientDigits digits) := blamesOnly_coefficientDigits digits
  unfold decimalOfParts
  extract_lets finish
  have finished (negative : Bool) : BlamesOnly blamed (finish negative) := by
    unfold finish
    split
    · exact .ok _
    · exact .bind read fun _ _ => .ok _
    · exact .bind read fun _ _ => .ok _
    · split
      · exact blamesOnly_error rfl
      · refine .bind read fun found _ => ?_
        dsimp only
        split
        · exact .ok _
        · exact blamesOnly_error rfl
  split
  · exact finished false
  · exact finished true
  · exact blamesOnly_error rfl

theorem blamesOnly_toDecimal (value : Value) : BlamesOnly blamed value.toDecimal := by
  have parts (items : List Value) : BlamesOnly blamed (toDecimal.ofSequence items) := by
    unfold toDecimal.ofSequence
    split
    · exact blamesOnly_decimalOfParts _ _ _
    · exact blamesOnly_error rfl
  unfold toDecimal
  split
  · exact blamesOnly_readOr rfl _
  · exact .ok _
  · exact .ok _
  · exact .ok _
  · exact .ok _
  · exact parts _
  · exact parts _
  · exact blamesOnly_error rfl

theorem blamesOnly_toTruth (value : Value) : BlamesOnly blamed value.toTruth := by
  unfold toTruth
  split
  · dsimp only
    split
    · exact .ok _
    · split
      · exact .ok _
      · exact blamesOnly_error rfl
  · exact blamesOnly_error rfl
  · exact blamesOnly_error rfl

theorem blamesOnly_readText
    (read? : List Char → Option α)
    (value : Value) :
    BlamesOnly blamed (readText read? value) := by
  unfold readText
  split
  · exact blamesOnly_readOr rfl _
  · exact blamesOnly_error rfl

theorem blamesOnly_write (value : Value) : BlamesOnly blamed value.write := by
  unfold write
  split
  · exact .ok _
  · exact blamesOnly_error rfl

theorem blamesOnly_toStandardText (value : Value) : BlamesOnly blamed value.toStandardText := by
  unfold toStandardText
  split
  · exact .ok _
  · exact .ok _
  · exact .ok _
  · exact blamesOnly_error rfl

theorem blamesOnly_toDay (value : Value) : BlamesOnly blamed value.toDay := by
  unfold toDay
  split
  · exact .ok _
  · exact blamesOnly_error rfl

end Value

end Conversions

/-- Whether options name a unit of time that is none. -/
def TimeUnit.IsUnknown
    (options : Entries)
    (cause : DefinitionFault) : Prop :=
  ∃ unit, options.get? (.text "unit") = some unit ∧
    (∀ known : TimeUnit, unit ≠ .text known.name) ∧ cause = .unknownTimeUnit unit

section Moments

variable {blamed : DefinitionFault → Prop}

/-- The unit of a cast is read, or blamed. -/
theorem TimeUnit.blamesOnly_ofOptions (options : Entries) :
    BlamesOnly (TimeUnit.IsUnknown options) (TimeUnit.ofOptions options) := by
  unfold TimeUnit.ofOptions
  split
  · exact .ok _
  · rename_i unit given
    split
    · exact blamesOnly_error rfl
    · split
      · exact .ok _
      · rename_i missing
        refine blamesOnly_refuse ⟨unit, given, fun known same => ?_, rfl⟩
        rw [List.find?_eq_none] at missing
        have member : known ∈ [second, millisecond, microsecond] := by cases known <;> simp
        simpa [same] using missing known member

theorem blamesOnly_momentOfSeconds (count : Number.Binary64) :
    BlamesOnly blamed (momentOfSeconds count) := by
  unfold momentOfSeconds
  split
  · exact blamesOnly_error rfl
  · exact blamesOnly_error rfl
  · split
    · exact blamesOnly_error rfl
    · dsimp only
      split
      · exact blamesOnly_error rfl
      · split
        · exact blamesOnly_error rfl
        · exact Value.blamesOnly_readOr rfl _

theorem blamesOnly_secondsOfCount
    (value : Value)
    (unit : TimeUnit) :
    BlamesOnly blamed (secondsOfCount value unit) := by
  unfold secondsOfCount
  split
  · exact .ok _
  · split
    · exact blamesOnly_error rfl
    · split
      · split
        · exact blamesOnly_error rfl
        · exact blamesOnly_error rfl
      · exact blamesOnly_error rfl
  · split
    · split
      · exact blamesOnly_error rfl
      · exact .ok _
    · exact blamesOnly_error rfl

theorem blamesOnly_secondsOfMoment (moment : Calendar.DateTime) :
    BlamesOnly blamed (secondsOfMoment moment) := by
  unfold secondsOfMoment
  split
  · exact .ok _
  · split
    · exact blamesOnly_error rfl
    · exact .ok _

/-- A count is converted to a moment, or its unit is blamed. -/
theorem Value.blamesOnly_toMoment
    (value : Value)
    (options : Entries) :
    BlamesOnly (TimeUnit.IsUnknown options) (value.toMoment options) := by
  refine .bind (TimeUnit.blamesOnly_ofOptions options) fun unit _ => ?_
  exact .bind (blamesOnly_secondsOfCount _ _) fun count _ => blamesOnly_momentOfSeconds count

/-- A moment is converted to a count, or its unit is blamed. -/
theorem Value.blamesOnly_toCount
    (value : Value)
    (options : Entries) :
    BlamesOnly (TimeUnit.IsUnknown options) (value.toCount options) := by
  unfold toCount
  split
  · refine .bind (blamesOnly_secondsOfMoment _) fun seconds _ => ?_
    exact .bind (TimeUnit.blamesOnly_ofOptions options) fun unit _ => blamesOnly_toWhole _
  · exact blamesOnly_error rfl

end Moments

/-- Whether tags name whole numbers and moments. -/
def countsMoments (source target : Value) : Prop :=
  (source = .text "integer" ∧ target = .text "date_time") ∨
    (source = .text "date_time" ∧ target = .text "integer")

/-- A conversion blames nothing but a unit of time, and only one between whole numbers and
moments does. -/
theorem blamesOnly_conversion
    {source target : Tag}
    {conversion : Value → Entries → Attempt Value}
    (found : conversion? source target = some conversion)
    (value : Value)
    (options : Entries) :
    BlamesOnly
      (fun cause => countsMoments (.text source.name) (.text target.name) ∧
        TimeUnit.IsUnknown options cause)
      (conversion value options) := by
  unfold conversion? at found
  split at found <;> cases found
  · exact .map (Value.blamesOnly_toWhole _)
  · exact .map (Value.blamesOnly_toFloat _)
  · exact .map (Value.blamesOnly_toDecimal _)
  · exact .map (Value.blamesOnly_toTruth _)
  · exact .map (Value.blamesOnly_readText _ _)
  · exact .map (Value.blamesOnly_readText _ _)
  · exact .map (Value.blamesOnly_readText _ _)
  · exact .map (Value.blamesOnly_write _)
  · exact .map (Value.blamesOnly_toFloat _)
  · exact .map (Value.blamesOnly_toDecimal _)
  · refine .map ((Value.blamesOnly_toMoment value options).mono fun cause unknown => ?_)
    exact ⟨.inl ⟨rfl, rfl⟩, unknown⟩
  · exact .map (Value.blamesOnly_write _)
  · exact .map (Value.blamesOnly_toWhole _)
  · exact .map (Value.blamesOnly_write _)
  · exact .map (Value.blamesOnly_toStandardText _)
  · exact .map (Value.blamesOnly_toStandardText _)
  · refine .map ((Value.blamesOnly_toCount value options).mono fun cause unknown => ?_)
    exact ⟨.inr ⟨rfl, rfl⟩, unknown⟩
  · exact .map (Value.blamesOnly_toDay _)
  · exact .map (Value.blamesOnly_toStandardText _)

/-- Where the default caster converts between two tags, it tells no mistake but an unknown unit
of time. -/
theorem blamesOnly_convert
    {source target : Value}
    (converts : hasConversion source target = .ok true)
    (value : Value)
    (options : Entries) :
    BlamesOnly (fun cause => countsMoments source target ∧ TimeUnit.IsUnknown options cause)
      (convert source target value options) := by
  obtain ⟨same, compared, found⟩ := Attempt.bind_eq_ok.mp converts
  rw [convert, compared, Attempt.ok_bind]
  split
  · exact .ok _
  · rename_i differs
    rw [if_neg differs] at found
    obtain ⟨conversion, looked, some⟩ := Attempt.map_eq_ok.mp found
    obtain ⟨run, rfl⟩ := Option.isSome_iff_exists.mp some
    rw [looked, Attempt.ok_bind]
    unfold findConversion at looked
    split at looked
    · cases looked
    · split at looked
      · split at looked
        · rename_i a b sourceTag targetTag sourceNamed targetNamed
          rw [← Tag.name_of_ofName? sourceNamed, ← Tag.name_of_ofName? targetNamed]
          exact blamesOnly_conversion (Except.ok.inj looked) value options
        · cases looked
      · cases looked

end DataContract
