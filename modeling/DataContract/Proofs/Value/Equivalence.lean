import DataContract.Proofs.Value.Name
import DataContract.Proofs.Value.Standing
import Mathlib.Data.List.Find

/-!
# Equality as an equivalence

Something that is not a number equals nothing, but among all other data equality is what it should
be. The keys of maps have a form, which keeps the exact moments of the times in them; what is the
same key has the same form, so that equal keys find the same entries. From there equality of values
is reflexive and transitive by the parts that values are made of, in maps with their entries in any
order.
-/

namespace DataContract

namespace Value

/-! ## Regular values -/

mutual

/-- Whether no number in a value is something that is not a number, and the value is made as
values are: the keys of a map can be keys and are different, and a record has all its fields. -/
def isRegular : Value → Bool
  | .scalar content => !content.isNaN
  | .list items => areRegular items
  | .tuple items => areRegular items
  | .map entries => areRegularEntries entries
  | .record form parts =>
      form == .custom || (parts.length == form.fields.length && areRegular parts)
  | _ => true

/-- Whether all items are regular. -/
def areRegular : List Value → Bool
  | [] => true
  | item :: rest => item.isRegular && areRegular rest

/-- Whether all entries are regular, under different keys. -/
def areRegularEntries : List (Value × Value) → Bool
  | [] => true
  | (key, value) :: rest =>
      key.isKey && key.isRegular && value.isRegular &&
        rest.all (fun later => !later.1.sameKey key) && areRegularEntries rest

end

variable
  {value other third : Value}
  {items others : List Value}
  {entries : Entries}

theorem areRegular_iff : areRegular items = true ↔ ∀ item ∈ items, item.isRegular = true := by
  induction items with
  | nil => simp [areRegular]
  | cons item rest hypothesis =>
      rw [areRegular, Bool.and_eq_true, hypothesis, List.forall_mem_cons]

/-- The keys and the values of regular entries are regular, and no key comes twice. -/
theorem areRegularEntries_iff :
    areRegularEntries entries = true ↔
      (∀ entry ∈ entries, entry.1.isKey = true ∧ entry.1.isRegular = true ∧
        entry.2.isRegular = true) ∧ Entries.AreDistinct entries := by
  induction entries with
  | nil => simp [areRegularEntries, Entries.AreDistinct]
  | cons entry rest hypothesis =>
      obtain ⟨key, value⟩ := entry
      simp only [areRegularEntries, Bool.and_eq_true, hypothesis, List.forall_mem_cons,
        Entries.AreDistinct, List.pairwise_cons, List.all_eq_true, Bool.not_eq_true']
      tauto

/-- What is regular comes from one place with nothing. -/
theorem isSame_eq_false (regular : value.isRegular = true) : value.isSame other = false := by
  cases value with
  | scalar first =>
      cases other with
      | scalar second =>
          have counted : first.isNaN = false := by simpa [isRegular] using regular
          rw [isSame]
          unfold Scalar.isSame
          split
          · cases counted
          · cases counted
          · rfl
      | _ => rfl
  | _ => rfl

/-! ## Equality of parts -/

/-- A comparison that goes on only after equal parts finds all of them equal. -/
theorem bind_ite_eq_true {attempt next : Attempt Bool} :
    (attempt >>= fun equal => if equal then next else .ok false) = .ok true ↔
      attempt = .ok true ∧ next = .ok true := by
  rw [Attempt.bind_eq_ok]
  constructor
  · rintro ⟨equal, answered, rest⟩
    cases equal with
    | true => exact ⟨answered, rest⟩
    | false => cases rest
  · rintro ⟨answered, rest⟩
    exact ⟨true, answered, rest⟩

/-- Equality as it is answered. -/
abbrev IsEqualTo (value other : Value) : Prop :=
  value.equals other = .ok true

/-- Sequences of one length are equal item by item. -/
theorem equalsItems_eq_true_iff
    (regular : ∀ item ∈ items, item.isRegular = true)
    (same : items.length = others.length) :
    equalsItems items others = .ok true ↔ List.Forall₂ IsEqualTo items others := by
  induction items generalizing others with
  | nil =>
      obtain rfl := List.length_eq_zero_iff.mp same.symm
      simp [equalsItems]
  | cons item rest hypothesis =>
      cases others with
      | nil => cases same
      | cons other remaining =>
          rw [List.forall_mem_cons] at regular
          rw [equalsItems, isSame_eq_false regular.1, bind_ite_eq_true, List.forall₂_cons,
            hypothesis regular.2 (Nat.succ.inj same)]
          simp

/-- Sequences are equal if they have one length and are equal item by item. -/
theorem equalsSequence_eq_true_iff (regular : areRegular items = true) :
    (if items.length = others.length then equalsItems items others else .ok false) = .ok true ↔
      List.Forall₂ IsEqualTo items others := by
  have each := areRegular_iff.mp regular
  constructor
  · intro equal
    split at equal
    · rename_i same
      exact (equalsItems_eq_true_iff each same).mp equal
    · cases equal
  · intro equal
    have same := equal.length_eq
    rw [if_pos same]
    exact (equalsItems_eq_true_iff each same).mpr equal

/-- Entries are equal to those that are found under their keys. -/
theorem equalsEntries_eq_true_iff
    {remaining : Entries}
    (regular : ∀ entry ∈ entries, entry.2.isRegular = true) :
    equalsEntries entries remaining = .ok true ↔
      ∀ entry ∈ entries, ∃ found, remaining.get? entry.1 = some found ∧
        entry.2.IsEqualTo found := by
  induction entries with
  | nil => simp [equalsEntries]
  | cons entry rest hypothesis =>
      obtain ⟨key, value⟩ := entry
      rw [List.forall_mem_cons] at regular
      rw [equalsEntries_cons, List.forall_mem_cons, ← hypothesis regular.2, Entries.get?]
      cases remaining.find? fun entry => key.sameKey entry.1 with
      | none => simp
      | some entry =>
          simp only [bind_ite_eq_true, equalsAsPart, isSame_eq_false regular.1]
          simp

/-- A scalar that can be compared equals the scalars that count as the same. -/
theorem isEqualTo_scalar_iff
    {content : Scalar}
    (regular : (scalar content).isRegular = true) :
    (scalar content).IsEqualTo other ↔
      ∃ second, other = .scalar second ∧ content.standing? = second.standing? := by
  have counted : content.isNaN = false := by simpa [isRegular] using regular
  cases other with
  | scalar second => simp [IsEqualTo, equals, Scalar.equals_eq_true_iff counted]
  | record form parts => cases form <;> simp [IsEqualTo, equals]
  | _ => simp [IsEqualTo, equals]

/-- A function is equal to itself only. -/
theorem isEqualTo_handle_iff {label : String} :
    (handle label).IsEqualTo other ↔ other = .handle label := by
  cases other with
  | handle other => simpa [IsEqualTo, equals] using eq_comm
  | record form parts => cases form <;> simp [IsEqualTo, equals]
  | _ => simp [IsEqualTo, equals]

/-- An object of another making is equal to itself only. -/
theorem isEqualTo_custom_iff :
    (record .custom items).IsEqualTo other ↔ other = .record .custom items := by
  cases other with
  | record form parts =>
      cases form with
      | custom => simpa [IsEqualTo, equals] using eq_comm
      | _ => simp [IsEqualTo, equals]
  | _ => simp [IsEqualTo, equals]

section Sequences

variable (regular : areRegular items = true)
include regular

theorem isEqualTo_list_iff :
    (list items).IsEqualTo other ↔
      ∃ others, other = .list others ∧ List.Forall₂ IsEqualTo items others := by
  cases other with
  | list others => simp [IsEqualTo, equals, equalsSequence_eq_true_iff regular]
  | _ => simp [IsEqualTo, equals]

theorem isEqualTo_tuple_iff :
    (tuple items).IsEqualTo other ↔
      ∃ others, other = .tuple others ∧ List.Forall₂ IsEqualTo items others := by
  cases other with
  | tuple others => simp [IsEqualTo, equals, equalsSequence_eq_true_iff regular]
  | _ => simp [IsEqualTo, equals]

end Sequences

theorem isRegular_record
    {form : RecordForm}
    {parts : List Value}
    (plain : form ≠ .custom) :
    (record form parts).isRegular = true ↔
      parts.length = form.fields.length ∧ areRegular parts = true := by
  simp [isRegular, plain]

/-- Records with fields are equal field by field. -/
theorem isEqualTo_record_iff
    {form : RecordForm}
    {parts : List Value}
    (plain : form ≠ .custom)
    (regular : (record form parts).isRegular = true)
    (otherRegular : other.isRegular = true) :
    (record form parts).IsEqualTo other ↔
      ∃ others, other = .record form others ∧ List.Forall₂ IsEqualTo parts others := by
  obtain ⟨complete, each⟩ := (isRegular_record plain).mp regular
  cases other with
  | record otherForm others =>
      have unfolded : (record form parts).equals (record otherForm others) =
          if form = otherForm then equalsItems parts others else .ok false := by
        cases form <;> first | rfl | exact absurd rfl plain
      rw [IsEqualTo, unfolded]
      by_cases same : form = otherForm
      · subst same
        have length := complete.trans ((isRegular_record plain).mp otherRegular).1.symm
        simp [equalsItems_eq_true_iff (areRegular_iff.mp each) length]
      · simp [same, eq_comm]
  | _ => cases form <;> simp [IsEqualTo, equals]

/-- Maps are equal if they have as many entries and each value of the first is equal to the one
under its key in the second. -/
theorem isEqualTo_map_iff (regular : areRegularEntries entries = true) :
    (map entries).IsEqualTo other ↔
      ∃ others : Entries, other = .map others ∧ entries.length = others.length ∧
        ∀ entry ∈ entries, ∃ found, others.get? entry.1 = some found ∧
          entry.2.IsEqualTo found := by
  have each (entry : Value × Value) (member : entry ∈ entries) : entry.2.isRegular = true :=
    ((areRegularEntries_iff.mp regular).1 entry member).2.2
  cases other with
  | map others =>
      rw [IsEqualTo, equals]
      split
      · rename_i same
        rw [equalsEntries_eq_true_iff each]
        simp [same]
      · rename_i apart
        simp [apart]
  | _ => simp [IsEqualTo, equals]

/-! ## Forms of keys -/

/-- The form in which a key is looked up. -/
inductive KeyForm
  | scalar (standing : Option Standing) (instant : Option Int)
  | member (enumeration name : String) (content : Value)
  | tuple (items : List KeyForm)
  | record (form : RecordForm) (parts : List KeyForm)
  | custom (parts : List Value)
  | handle (label : String)
  | unusable

mutual

/-- The form of a key: what its scalars count as, with the exact moments of times. -/
def keyForm : Value → KeyForm
  | .scalar content => .scalar content.standing? content.instant?
  | .member enumeration name content => .member enumeration name content
  | .tuple items => .tuple (keyForms items)
  | .record .custom parts => .custom parts
  | .record form parts => .record form (keyForms parts)
  | .handle label => .handle label
  | _ => .unusable

/-- The forms of several keys. -/
def keyForms : List Value → List KeyForm
  | [] => []
  | item :: rest => item.keyForm :: keyForms rest

end

/-- Scalars that count as the same agree in their moments exactly if they have the same ones. -/
theorem agrees_scalar_iff
    {first second : Scalar}
    (same : first.standing? = second.standing?) :
    (scalar first).agrees (scalar second) = true ↔ first.instant? = second.instant? := by
  cases first <;> cases second <;>
    simp_all [agrees, Scalar.instant?, Scalar.standing?, Scalar.number?]

/-- The form of a record with fields. -/
theorem keyForm_record
    {form : RecordForm}
    {parts : List Value}
    (plain : form ≠ .custom) :
    (record form parts).keyForm = .record form (keyForms parts) := by
  cases form with
  | custom => exact absurd rfl plain
  | _ => rfl

mutual

/-- A value agrees with itself in the moments in it. -/
theorem agrees_self (value : Value) : value.agrees value = true := by
  cases value with
  | scalar content => cases content <;> simp [agrees]
  | tuple items => exact agreesItems_self items
  | record form parts => exact agreesItems_self parts
  | _ => rfl

theorem agreesItems_self (items : List Value) : agreesItems items items = true := by
  cases items with
  | nil => rfl
  | cons item rest => rw [agreesItems, agrees_self item, agreesItems_self rest, Bool.and_self]

end

mutual

/-- Keys are equal down to the moments in them exactly if they have the same form. -/
theorem keyForm_eq_iff
    (value : Value)
    {other : Value}
    (usable : value.isKey = true)
    (regular : value.isRegular = true)
    (otherUsable : other.isKey = true)
    (otherRegular : other.isRegular = true) :
    value.IsEqualTo other ∧ value.agrees other = true ↔ value.keyForm = other.keyForm := by
  cases value with
  | scalar first =>
      cases other with
      | scalar second =>
          have counted : first.isNaN = false := by simpa [isRegular] using regular
          rw [IsEqualTo, equals, Scalar.equals_eq_true_iff counted, keyForm, keyForm,
            KeyForm.scalar.injEq]
          exact and_congr_right fun same => agrees_scalar_iff same
      | record form parts => cases form <;> simp [IsEqualTo, equals, keyForm]
      | _ => simp [IsEqualTo, equals, keyForm]
  | member enumeration name content =>
      cases other with
      | member => simp [IsEqualTo, equals, keyForm, agrees, and_assoc]
      | record form parts => cases form <;> simp [IsEqualTo, equals, keyForm]
      | _ => simp [IsEqualTo, equals, keyForm]
  | list | map => cases usable
  | tuple items =>
      rw [isEqualTo_tuple_iff regular]
      cases other with
      | tuple others =>
          have same := keyForms_eq_iff items usable regular otherUsable otherRegular
          simp [agrees, keyForm, ← same]
      | record form parts => cases form <;> simp [keyForm]
      | _ => simp [keyForm]
  | record form parts =>
      by_cases custom : form = .custom
      · subst custom
        cases other with
        | record otherForm others =>
            cases otherForm with
            | custom =>
                simp only [IsEqualTo, equals, keyForm, agrees, Except.ok.injEq, beq_iff_eq,
                  KeyForm.custom.injEq, and_iff_left_iff_imp]
                rintro rfl
                exact agreesItems_self parts
            | _ => simp [IsEqualTo, equals, keyForm]
        | _ => simp [IsEqualTo, equals, keyForm]
      · rw [isEqualTo_record_iff custom regular otherRegular, keyForm_record custom]
        cases other with
        | record otherForm others =>
            by_cases same : form = otherForm
            · subst same
              have alike := keyForms_eq_iff parts usable
                ((isRegular_record custom).mp regular).2 otherUsable
                ((isRegular_record custom).mp otherRegular).2
              simp [agrees, keyForm_record custom, ← alike]
            · have apart : KeyForm.record form (keyForms parts) ≠
                  (record otherForm others).keyForm := by
                cases otherForm <;> simp [keyForm, same]
              simp only [apart, iff_false]
              rintro ⟨⟨_, equal, -⟩, -⟩
              cases equal
              exact same rfl
        | _ => simp [keyForm]
  | handle label =>
      cases other with
      | handle => simp [IsEqualTo, equals, keyForm, agrees]
      | record form parts => cases form <;> simp [IsEqualTo, equals, keyForm]
      | _ => simp [IsEqualTo, equals, keyForm]

/-- Sequences of keys of one length are equal down to the moments in them exactly if they have the
same forms. -/
theorem keyForms_eq_iff
    (items : List Value)
    {others : List Value}
    (usable : areKeys items = true)
    (regular : areRegular items = true)
    (otherUsable : areKeys others = true)
    (otherRegular : areRegular others = true) :
    List.Forall₂ IsEqualTo items others ∧ agreesItems items others = true ↔
      keyForms items = keyForms others := by
  cases items with
  | nil => cases others <;> simp [agreesItems, keyForms]
  | cons item rest =>
      cases others with
      | nil => simp [keyForms]
      | cons other remaining =>
          simp only [areKeys, Bool.and_eq_true] at usable otherUsable
          simp only [areRegular, Bool.and_eq_true] at regular otherRegular
          have first := keyForm_eq_iff item usable.1 regular.1 otherUsable.1 otherRegular.1
          have later := keyForms_eq_iff rest usable.2 regular.2 otherUsable.2 otherRegular.2
          simp only [keyForms, List.cons.injEq, ← first, ← later, List.forall₂_cons, agreesItems,
            Bool.and_eq_true]
          tauto

end

/-- Regular keys are the same key exactly if they have the same form. -/
theorem sameKey_iff_keyForm
    (usable : value.isKey = true)
    (regular : value.isRegular = true)
    (otherUsable : other.isKey = true)
    (otherRegular : other.isRegular = true) :
    value.sameKey other = true ↔ value.keyForm = other.keyForm := by
  rw [sameKey_iff, ← keyForm_eq_iff value usable regular otherUsable otherRegular]
  constructor
  · rintro (rfl | equal)
    · exact (keyForm_eq_iff value usable regular usable regular).mpr rfl
    · exact equal
  · exact .inr

end Value

namespace Entries

variable
  {entries : Entries}
  {key other : Value}

/-- The same keys find the same entries. -/
theorem get?_eq_of_sameKey
    (regular : Value.areRegularEntries entries = true)
    (usable : key.isKey = true)
    (keyRegular : key.isRegular = true)
    (otherUsable : other.isKey = true)
    (otherRegular : other.isRegular = true)
    (same : key.sameKey other = true) :
    entries.get? key = entries.get? other := by
  have form := (Value.sameKey_iff_keyForm usable keyRegular otherUsable otherRegular).mp same
  have alike : ∀ entry ∈ entries, key.sameKey entry.1 = other.sameKey entry.1 := by
    intro entry member
    obtain ⟨entryUsable, entryRegular, -⟩ :=
      (Value.areRegularEntries_iff.mp regular).1 entry member
    rw [Bool.eq_iff_iff, Value.sameKey_iff_keyForm usable keyRegular entryUsable entryRegular,
      Value.sameKey_iff_keyForm otherUsable otherRegular entryUsable entryRegular, form]
  rw [get?, get?, List.find?_congr alike]

end Entries

namespace Value

/-! ## Equality of values -/

/-- What passes to a value from its items, its parts or the values of its entries holds of all
values. -/
@[elab_as_elim] theorem induct
    {motive : Value → Prop}
    (scalar : ∀ content, motive (.scalar content))
    (member : ∀ enumeration name content, motive (.member enumeration name content))
    (list : ∀ items, (∀ item ∈ items, motive item) → motive (.list items))
    (tuple : ∀ items, (∀ item ∈ items, motive item) → motive (.tuple items))
    (map : ∀ entries, (∀ entry ∈ entries, motive entry.2) → motive (.map entries))
    (record : ∀ form parts, (∀ part ∈ parts, motive part) → motive (.record form parts))
    (handle : ∀ label, motive (.handle label))
    (value : Value) : motive value := by
  have recurse (smaller : Value) (_ : sizeOf smaller < sizeOf value) : motive smaller :=
    induct scalar member list tuple map record handle smaller
  cases value with
  | scalar content => exact scalar content
  | member enumeration name content => exact member enumeration name content
  | list items =>
      refine list items fun item inside => recurse item ?_
      have := List.sizeOf_lt_of_mem inside
      rw [Value.list.sizeOf_spec]
      omega
  | tuple items =>
      refine tuple items fun item inside => recurse item ?_
      have := List.sizeOf_lt_of_mem inside
      rw [Value.tuple.sizeOf_spec]
      omega
  | map entries =>
      refine map entries fun entry inside => recurse entry.2 ?_
      have := List.sizeOf_lt_of_mem inside
      rw [Prod.mk.sizeOf_spec entry.1 entry.2] at this
      rw [Value.map.sizeOf_spec]
      omega
  | record form parts =>
      refine record form parts fun part inside => recurse part ?_
      have := List.sizeOf_lt_of_mem inside
      rw [Value.record.sizeOf_spec]
      omega
  | handle label => exact handle label
termination_by sizeOf value

/-- Regular items equal themselves one by one if each does. -/
theorem forall₂_isEqualTo_self
    (each : ∀ item ∈ items, item.isRegular = true → item.IsEqualTo item)
    (regular : areRegular items = true) :
    List.Forall₂ IsEqualTo items items := by
  rw [List.forall₂_same]
  intro item member
  exact each item member (areRegular_iff.mp regular item member)

/-- A regular value equals itself. -/
theorem isEqualTo_self
    (value : Value)
    (regular : value.isRegular = true) :
    value.IsEqualTo value := by
  induction value using induct with
  | scalar content => exact (isEqualTo_scalar_iff regular).mpr ⟨content, rfl, rfl⟩
  | member enumeration name content => simp [IsEqualTo, equals]
  | list items hypothesis =>
      have each := forall₂_isEqualTo_self hypothesis regular
      exact (isEqualTo_list_iff regular).mpr ⟨items, rfl, each⟩
  | tuple items hypothesis =>
      have each := forall₂_isEqualTo_self hypothesis regular
      exact (isEqualTo_tuple_iff regular).mpr ⟨items, rfl, each⟩
  | map entries hypothesis =>
      obtain ⟨entriesRegular, distinct⟩ := areRegularEntries_iff.mp regular
      refine (isEqualTo_map_iff regular).mpr ⟨entries, rfl, rfl, fun entry member => ?_⟩
      refine ⟨entry.2, Entries.get?_of_mem distinct member, ?_⟩
      exact hypothesis entry member (entriesRegular entry member).2.2
  | record form parts hypothesis =>
      by_cases custom : form = .custom
      · subst custom
        exact isEqualTo_custom_iff.mpr rfl
      · have each := forall₂_isEqualTo_self hypothesis ((isRegular_record custom).mp regular).2
        exact (isEqualTo_record_iff custom regular regular).mpr ⟨parts, rfl, each⟩
  | handle label => exact isEqualTo_handle_iff.mpr rfl

/-- Equality passes from one sequence over a second to a third if it does for each item. -/
theorem forall₂_isEqualTo_trans
    {thirds : List Value}
    (each : ∀ item ∈ items, ∀ other third : Value,
      item.isRegular = true → other.isRegular = true → third.isRegular = true →
      item.IsEqualTo other → other.IsEqualTo third → item.IsEqualTo third)
    (regular : areRegular items = true)
    (otherRegular : areRegular others = true)
    (thirdRegular : areRegular thirds = true)
    (first : List.Forall₂ IsEqualTo items others)
    (second : List.Forall₂ IsEqualTo others thirds) :
    List.Forall₂ IsEqualTo items thirds := by
  induction first generalizing thirds with
  | nil =>
      cases second
      exact .nil
  | @cons item other rest remaining equal _ hypothesis =>
      cases second with
      | @cons _ third _ last next later =>
          rw [List.forall_mem_cons] at each
          simp only [areRegular, Bool.and_eq_true] at regular otherRegular thirdRegular
          have here := each.1 other third regular.1 otherRegular.1 thirdRegular.1 equal next
          exact .cons here (hypothesis each.2 regular.2 otherRegular.2 thirdRegular.2 later)

/-- What equals an equal of a regular value equals the value. -/
theorem isEqualTo_trans
    (value : Value)
    {other third : Value}
    (regular : value.isRegular = true)
    (otherRegular : other.isRegular = true)
    (thirdRegular : third.isRegular = true)
    (first : value.IsEqualTo other)
    (second : other.IsEqualTo third) :
    value.IsEqualTo third := by
  induction value using induct generalizing other third with
  | scalar content =>
      obtain ⟨second, rfl, same⟩ := (isEqualTo_scalar_iff regular).mp first
      obtain ⟨last, rfl, again⟩ := (isEqualTo_scalar_iff otherRegular).mp second
      exact (isEqualTo_scalar_iff regular).mpr ⟨last, rfl, same.trans again⟩
  | member enumeration name content =>
      obtain rfl := eq_of_equals_member first
      exact second
  | list items hypothesis =>
      obtain ⟨others, rfl, equal⟩ := (isEqualTo_list_iff regular).mp first
      obtain ⟨thirds, rfl, next⟩ := (isEqualTo_list_iff otherRegular).mp second
      have each := forall₂_isEqualTo_trans hypothesis regular otherRegular thirdRegular equal next
      exact (isEqualTo_list_iff regular).mpr ⟨thirds, rfl, each⟩
  | tuple items hypothesis =>
      obtain ⟨others, rfl, equal⟩ := (isEqualTo_tuple_iff regular).mp first
      obtain ⟨thirds, rfl, next⟩ := (isEqualTo_tuple_iff otherRegular).mp second
      have each := forall₂_isEqualTo_trans hypothesis regular otherRegular thirdRegular equal next
      exact (isEqualTo_tuple_iff regular).mpr ⟨thirds, rfl, each⟩
  | map entries hypothesis =>
      obtain ⟨others, rfl, length, equal⟩ := (isEqualTo_map_iff regular).mp first
      obtain ⟨thirds, rfl, nextLength, next⟩ := (isEqualTo_map_iff otherRegular).mp second
      refine (isEqualTo_map_iff regular).mpr ⟨thirds, rfl, length.trans nextLength, ?_⟩
      intro entry member
      obtain ⟨usable, keyRegular, entryRegular⟩ :=
        (areRegularEntries_iff.mp regular).1 entry member
      obtain ⟨found, looked, same⟩ := equal entry member
      obtain ⟨middle, inside, sameKey, rfl⟩ := Entries.exists_mem_of_get? looked
      obtain ⟨middleUsable, middleKey, middleRegular⟩ :=
        (areRegularEntries_iff.mp otherRegular).1 middle inside
      obtain ⟨last, lastLooked, again⟩ := next middle inside
      obtain ⟨lastEntry, lastInside, -, rfl⟩ := Entries.exists_mem_of_get? lastLooked
      have lastRegular := ((areRegularEntries_iff.mp thirdRegular).1 lastEntry lastInside).2.2
      refine ⟨lastEntry.2, ?_, ?_⟩
      · rw [← lastLooked]
        exact Entries.get?_eq_of_sameKey thirdRegular usable keyRegular middleUsable middleKey
          sameKey
      · exact hypothesis entry member entryRegular middleRegular lastRegular same again
  | record form parts hypothesis =>
      by_cases custom : form = .custom
      · subst custom
        obtain rfl := isEqualTo_custom_iff.mp first
        exact second
      · obtain ⟨others, rfl, equal⟩ := (isEqualTo_record_iff custom regular otherRegular).mp first
        obtain ⟨thirds, rfl, next⟩ :=
          (isEqualTo_record_iff custom otherRegular thirdRegular).mp second
        have each := forall₂_isEqualTo_trans hypothesis ((isRegular_record custom).mp regular).2
          ((isRegular_record custom).mp otherRegular).2
          ((isRegular_record custom).mp thirdRegular).2 equal next
        exact (isEqualTo_record_iff custom regular thirdRegular).mpr ⟨thirds, rfl, each⟩
  | handle label =>
      obtain rfl := isEqualTo_handle_iff.mp first
      exact second

end Value
end DataContract
