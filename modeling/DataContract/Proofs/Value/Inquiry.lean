import DataContract.Proofs.Value.Comparison

/-!
# What a comparison comes to

Two values are compared part by part: whether they are equal is asked of their parts in order,
up to the first that differ, and which of two sequences comes first is asked of the first items
that differ. In the end numbers are compared, and there are numbers for which the answer is not
defined: whether a signaling decimal is equal to a number, and whether something that is not a
number comes before a decimal or after it. A comparison stops exactly if it comes to such numbers;
parts that it does not come to make no difference.
-/

namespace DataContract

/-- Whether a search that goes through items in order comes to an item, as it has passed all
items before. -/
inductive Reaches {α : Type} (passes : α → Prop) : List α → α → Prop
  | here
      (item : α)
      (rest : List α) :
      Reaches passes (item :: rest) item
  | later
      (first : α)
      {rest : List α}
      {item : α}
      (passed : passes first)
      (reached : Reaches passes rest item) :
      Reaches passes (first :: rest) item

namespace Reaches

variable
  {α : Type}
  {passes : α → Prop}
  {items rest : List α}
  {first item : α}

@[simp] theorem nil_iff : Reaches passes [] item ↔ False :=
  ⟨nofun, nofun⟩

theorem cons_iff :
    Reaches passes (first :: rest) item ↔
      item = first ∨ passes first ∧ Reaches passes rest item := by
  constructor
  · rintro (_ | ⟨_, passed, reached⟩)
    · exact .inl rfl
    · exact .inr ⟨passed, reached⟩
  · rintro (rfl | ⟨passed, reached⟩)
    · exact .here item rest
    · exact .later first passed reached

theorem mem (reached : Reaches passes items item) : item ∈ items := by
  induction reached with
  | here item rest => exact List.mem_cons_self
  | later first passed reached hypothesis => exact List.mem_cons_of_mem _ hypothesis

end Reaches

/-- What is asked of two values: whether they are equal, or which of them comes first. -/
inductive Inquiry
  | equality
  | order
  deriving DecidableEq, Repr

namespace Inquiry

/-- Whether an inquiry about two scalars has no defined answer. -/
def IsUndefined (inquiry : Inquiry) (first second : Scalar) : Prop :=
  ∃ number other, first.number? = some number ∧ second.number? = some other ∧
    match inquiry with
    | .equality => number.isSignaling = true ∨ other.isSignaling = true
    | .order =>
        (first.isDecimal = true ∨ second.isDecimal = true) ∧
          (number.isNaN = true ∨ other.isNaN = true)

/-- The values of the entries of a map beside those of the same keys of another, up to the first
key that the other does not have. -/
def partnered : Entries → Entries → List (Value × Value)
  | [], _ => []
  | (key, value) :: rest, entries =>
      match entries.find? fun entry => key.sameKey entry.1 with
      | some entry => (value, entry.2) :: partnered rest entries
      | none => []

/-- The parts of two values that an inquiry puts side by side. -/
def parts : Inquiry → Value → Value → List (Value × Value)
  | .equality, .list xs, .list ys => if xs.length = ys.length then xs.zip ys else []
  | .equality, .tuple xs, .tuple ys => if xs.length = ys.length then xs.zip ys else []
  | .equality, .map es, .map fs => if es.length = fs.length then partnered es fs else []
  | .equality, .record f xs, .record g ys => if f = g ∧ f ≠ .custom then xs.zip ys else []
  | .order, .list xs, .list ys => xs.zip ys
  | .order, .tuple xs, .tuple ys => xs.zip ys
  | _, _, _ => []

/-- Whether the parts of a pair are equal. -/
def AreEqual (pair : Value × Value) : Prop :=
  pair.1.equalsAsPart pair.2 = .ok true

/-- Whether an inquiry about two values comes to an inquiry about two scalars. Parts are asked for
equality as long as the parts before them are equal, and if they come from one place nothing more
is asked; an order is then asked of the first parts that differ. -/
inductive ComesTo : Inquiry → Value → Value → Inquiry → Scalar → Scalar → Prop
  | here
      (inquiry : Inquiry)
      (first second : Scalar) :
      ComesTo inquiry (.scalar first) (.scalar second) inquiry first second
  | part
      {inquiry last : Inquiry}
      {value other part counterpart : Value}
      {first second : Scalar}
      (reached : Reaches AreEqual (inquiry.parts value other) (part, counterpart))
      (apart : part.isSame counterpart = false)
      (inside : ComesTo .equality part counterpart last first second) :
      ComesTo inquiry value other last first second
  | difference
      {last : Inquiry}
      {value other part counterpart : Value}
      {first second : Scalar}
      (reached : Reaches AreEqual (order.parts value other) (part, counterpart))
      (differ : part.equalsAsPart counterpart = .ok false)
      (inside : ComesTo .order part counterpart last first second) :
      ComesTo .order value other last first second

/-- Whether an inquiry about two values comes to one that has no defined answer. -/
def IsStuck (inquiry : Inquiry) (value other : Value) : Prop :=
  ∃ last first second, inquiry.ComesTo value other last first second ∧
    last.IsUndefined first second

/-- The attempt to answer an inquiry, which for an order asks for a relation. -/
def answer (relation : Relation) : Inquiry → Value → Value → Attempt Bool
  | .equality => Value.equals
  | .order => Value.related relation

end Inquiry

/-! ## Scalars -/

/-- Two decimals can be compared unless one is not a number. -/
theorem Number.Decimal.compare?_eq_none
    {number other : Decimal} :
    number.compare? other = none ↔ number.isNaN = true ∨ other.isNaN = true := by
  cases number with
  | nan signaling negative payload mark => simp [compare?, isNaN]
  | infinite negative => cases other <;> simp [compare?, isNaN]
  | finite negative coefficient exponent =>
      cases other with
      | nan signaling negative payload mark => simp [compare?, isNaN]
      | infinite negative => simp [compare?, isNaN]
      | finite otherNegative otherCoefficient otherExponent =>
          simp only [compare?, isNaN, Bool.false_eq_true, or_self, iff_false]
          split
          · simp
          · split <;> simp

namespace Scalar

theorem equals_eq_error
    {first second : Scalar}
    {fault : Fault} :
    first.equals second = .error fault ↔
      fault = .undefinedDecimal ∧ Inquiry.equality.IsUndefined first second := by
  constructor
  · intro stopped
    unfold equals at stopped
    split at stopped
    · rename_i x y number other
      split at stopped
      · rename_i signaling
        cases stopped
        exact ⟨rfl, x, y, number, other, by simpa using signaling⟩
      · cases stopped
    · split at stopped <;> cases stopped
    · cases stopped
  · rintro ⟨rfl, x, y, number, other, signaling⟩
    simp [equals, number, other, signaling]

theorem related_eq_error
    {relation : Relation}
    {first second : Scalar} :
    first.related relation second = .error .undefinedDecimal ↔
      Inquiry.order.IsUndefined first second := by
  constructor
  · intro stopped
    unfold related at stopped
    split at stopped
    · rename_i x y number other
      split at stopped
      · cases stopped
      · rename_i incomparable
        split at stopped
        · rename_i decimal
          refine ⟨x, y, number, other, by simpa using decimal, ?_⟩
          exact Number.Decimal.compare?_eq_none.mp incomparable
        · cases stopped
    · have moments (ordering : Option Ordering) :
          related.orWrongKind relation ordering ≠ .error .undefinedDecimal := by
        cases ordering <;> simp [related.orWrongKind]
      split at stopped
      · cases stopped
      · cases stopped
      · cases stopped
      · exact absurd stopped (moments _)
      · exact absurd stopped (moments _)
      · cases stopped
  · rintro ⟨x, y, number, other, decimal, undefined⟩
    have incomparable := Number.Decimal.compare?_eq_none.mpr undefined
    simp [related, number, other, incomparable, decimal]

end Scalar

/-! ## Parts in order -/

namespace Value

open Inquiry

/-- Parts are compared unless they come from one place. -/
theorem equalsAsPart_eq_error
    {part counterpart : Value}
    {fault : Fault} :
    part.equalsAsPart counterpart = .error fault ↔
      part.isSame counterpart = false ∧ part.equals counterpart = .error fault := by
  rw [equalsAsPart]
  cases part.isSame counterpart <;> simp

/-- A comparison that goes on only after equal parts stops with these or after them. -/
theorem bind_ite_eq_error
    {attempt next : Attempt Bool}
    {fault : Fault} :
    (attempt >>= fun equal => if equal then next else .ok false) = .error fault ↔
      attempt = .error fault ∨ attempt = .ok true ∧ next = .error fault := by
  rw [Attempt.bind_eq_error]
  simp

/-- Comparing sequences stops at the first parts whose comparison stops, if all before are
equal. -/
theorem equalsItems_eq_error
    {items others : List Value}
    {fault : Fault} :
    equalsItems items others = .error fault ↔
      ∃ pair, Reaches AreEqual (items.zip others) pair ∧
        pair.1.equalsAsPart pair.2 = .error fault := by
  induction items generalizing others with
  | nil => simp [equalsItems]
  | cons item rest hypothesis =>
      cases others with
      | nil => simp [equalsItems]
      | cons other remaining =>
          rw [equalsItems, ← equalsAsPart, bind_ite_eq_error, hypothesis, List.zip_cons_cons]
          simp only [Reaches.cons_iff, or_and_right, exists_or, exists_eq_left, AreEqual,
            exists_and_left, and_assoc]

/-- The entries of a map are compared with those of another that have the same keys. -/
theorem equalsEntries_cons
    (key value : Value)
    (rest others : Entries) :
    equalsEntries ((key, value) :: rest) others =
      match others.find? fun entry => key.sameKey entry.1 with
      | some entry =>
          value.equalsAsPart entry.2 >>= fun equal =>
            if equal then equalsEntries rest others else .ok false
      | none => .ok false := by
  rw [equalsEntries]
  rfl

/-- Comparing maps stops at the first values of one key whose comparison stops, if all before are
equal. -/
theorem equalsEntries_eq_error
    {entries others : Entries}
    {fault : Fault} :
    equalsEntries entries others = .error fault ↔
      ∃ pair, Reaches AreEqual (partnered entries others) pair ∧
        pair.1.equalsAsPart pair.2 = .error fault := by
  induction entries with
  | nil => simp [equalsEntries, partnered]
  | cons entry rest hypothesis =>
      obtain ⟨key, value⟩ := entry
      rw [equalsEntries_cons, partnered]
      cases others.find? fun entry => key.sameKey entry.1 with
      | none => simp
      | some entry =>
          simp only [bind_ite_eq_error, hypothesis]
          simp only [Reaches.cons_iff, or_and_right, exists_or, exists_eq_left, AreEqual,
            exists_and_left, and_assoc]

/-- Ordering sequences stops as comparing their parts does, or as ordering the first parts that
differ. -/
theorem relatedItems_eq_error
    {relation : Relation}
    {items others : List Value}
    {fault : Fault} :
    relatedItems relation items others = .error fault ↔
      ∃ pair, Reaches AreEqual (items.zip others) pair ∧
        (pair.1.equalsAsPart pair.2 = .error fault ∨
          pair.1.equalsAsPart pair.2 = .ok false ∧
            pair.1.related relation pair.2 = .error fault) := by
  induction items generalizing others with
  | nil => simp [relatedItems]
  | cons item rest hypothesis =>
      cases others with
      | nil => simp [relatedItems]
      | cons other remaining =>
          have step : relatedItems relation (item :: rest) (other :: remaining) = .error fault ↔
              (item.equalsAsPart other = .error fault ∨
                item.equalsAsPart other = .ok false ∧ item.related relation other = .error fault) ∨
              item.equalsAsPart other = .ok true ∧
                relatedItems relation rest remaining = .error fault := by
            rw [relatedItems, Attempt.bind_eq_error]
            simp [or_assoc]
          rw [step, hypothesis, List.zip_cons_cons]
          simp only [Reaches.cons_iff, or_and_right (c := _ ∨ _), exists_or, exists_eq_left,
            AreEqual, exists_and_left, and_assoc]

/-- Comparing values stops as comparing two scalars does, or as comparing parts of them. -/
theorem equals_eq_error
    {value other : Value}
    {fault : Fault} :
    value.equals other = .error fault ↔
      (∃ first second, value = .scalar first ∧ other = .scalar second ∧
        first.equals second = .error fault) ∨
      ∃ pair, Reaches AreEqual (equality.parts value other) pair ∧
        pair.1.equalsAsPart pair.2 = .error fault := by
  cases value with
  | scalar first => cases other <;> simp [equals, parts]
  | member enumeration name content => cases other <;> simp [equals, parts]
  | list items =>
      cases other with
      | list others =>
          simp only [equals, parts]
          split <;> simp [equalsItems_eq_error]
      | _ => simp [equals, parts]
  | tuple items =>
      cases other with
      | tuple others =>
          simp only [equals, parts]
          split <;> simp [equalsItems_eq_error]
      | _ => simp [equals, parts]
  | map entries =>
      cases other with
      | map others =>
          simp only [equals, parts]
          split <;> simp [equalsEntries_eq_error]
      | _ => simp [equals, parts]
  | record form fields =>
      cases other with
      | record otherForm others =>
          by_cases custom : form = .custom ∧ otherForm = .custom
          · obtain ⟨rfl, rfl⟩ := custom
            simp [equals, parts]
          · have fieldwise : (record form fields).equals (.record otherForm others) =
                if form = otherForm then equalsItems fields others else .ok false := by
              rw [equals]
              exact fun formCustom otherCustom => custom ⟨formCustom, otherCustom⟩
            rw [fieldwise, parts]
            by_cases same : form = otherForm
            · have visible : form ≠ .custom := fun hidden => custom ⟨hidden, same ▸ hidden⟩
              simp [same, same ▸ visible, equalsItems_eq_error]
            · simp [same]
      | _ =>
          rw [equals]
          all_goals simp [parts]
  | handle label => cases other <;> simp [equals, parts]

/-- Ordering values stops as ordering two scalars does, or as comparing or ordering parts of
them. -/
theorem related_eq_error
    {relation : Relation}
    {value other : Value} :
    value.related relation other = .error .undefinedDecimal ↔
      (∃ first second, value = .scalar first ∧ other = .scalar second ∧
        first.related relation second = .error .undefinedDecimal) ∨
      ∃ pair, Reaches AreEqual (order.parts value other) pair ∧
        (pair.1.equalsAsPart pair.2 = .error .undefinedDecimal ∨
          pair.1.equalsAsPart pair.2 = .ok false ∧
            pair.1.related relation pair.2 = .error .undefinedDecimal) := by
  cases value with
  | list items => cases other <;> simp [related, parts, relatedItems_eq_error]
  | tuple items => cases other <;> simp [related, parts, relatedItems_eq_error]
  | _ => cases other <;> simp [related, parts]

end Value

namespace Inquiry

/-! ## Stuck inquiries -/

theorem sizeOf_lt_of_mem_partnered
    {entries others : Entries}
    {pair : Value × Value}
    (member : pair ∈ partnered entries others) :
    sizeOf pair.1 < sizeOf entries := by
  induction entries with
  | nil => simp [partnered] at member
  | cons entry rest hypothesis =>
      obtain ⟨key, value⟩ := entry
      rw [partnered] at member
      split at member
      · rcases List.mem_cons.mp member with rfl | later
        · simp
          omega
        · have smaller := hypothesis later
          simp
          omega
      · simp at member

/-- Parts are smaller than what they are parts of. -/
theorem sizeOf_lt_of_mem_parts
    {inquiry : Inquiry}
    {value other : Value}
    {pair : Value × Value}
    (member : pair ∈ inquiry.parts value other) :
    sizeOf pair.1 < sizeOf value := by
  have zipped {items others : List Value} (inside : pair ∈ items.zip others) :
      sizeOf pair.1 < sizeOf items :=
    List.sizeOf_lt_of_mem (List.of_mem_zip inside).1
  have within {condition : Prop} [Decidable condition] {pairs : List (Value × Value)}
      (inside : pair ∈ if condition then pairs else []) :
      pair ∈ pairs := by
    split at inside
    · exact inside
    · simp at inside
  unfold parts at member
  split at member
  · exact Nat.lt_trans (zipped (within member)) (by simp)
  · exact Nat.lt_trans (zipped (within member)) (by simp)
  · exact Nat.lt_trans (sizeOf_lt_of_mem_partnered (within member)) (by simp)
  · exact Nat.lt_trans (zipped (within member)) (by rw [Value.record.sizeOf_spec]; omega)
  · exact Nat.lt_trans (zipped member) (by simp)
  · exact Nat.lt_trans (zipped member) (by simp)
  · simp at member

/-- An inquiry about two values is stuck if they are scalars for which it is, or if an inquiry
about parts of them is that it comes to. -/
theorem isStuck_iff
    {inquiry : Inquiry}
    {value other : Value} :
    inquiry.IsStuck value other ↔
      (∃ first second, value = .scalar first ∧ other = .scalar second ∧
        inquiry.IsUndefined first second) ∨
      ∃ pair, Reaches AreEqual (inquiry.parts value other) pair ∧
        (pair.1.isSame pair.2 = false ∧ equality.IsStuck pair.1 pair.2 ∨
          inquiry = .order ∧ pair.1.equalsAsPart pair.2 = .ok false ∧
            order.IsStuck pair.1 pair.2) := by
  constructor
  · rintro ⟨last, first, second, comes, undefined⟩
    cases comes with
    | here => exact .inl ⟨first, second, rfl, rfl, undefined⟩
    | part reached apart inside =>
        exact .inr ⟨_, reached, .inl ⟨apart, last, first, second, inside, undefined⟩⟩
    | difference reached differ inside =>
        exact .inr ⟨_, reached, .inr ⟨rfl, differ, last, first, second, inside, undefined⟩⟩
  · rintro (⟨first, second, rfl, rfl, undefined⟩ |
      ⟨pair, reached, ⟨apart, last, first, second, inside, undefined⟩ |
        ⟨rfl, differ, last, first, second, inside, undefined⟩⟩)
    · exact ⟨inquiry, first, second, .here inquiry first second, undefined⟩
    · exact ⟨last, first, second, .part reached apart inside, undefined⟩
    · exact ⟨last, first, second, .difference reached differ inside, undefined⟩

/-- An inquiry stops for its numbers if it is stuck, whatever relation it asks for. An order asks
for the equality of parts too, so this is for all smaller inquiries at once. -/
theorem answer_eq_error
    (relation : Relation)
    (inquiry : Inquiry)
    {value other : Value} :
    inquiry.answer relation value other = .error .undefinedDecimal ↔
      inquiry.IsStuck value other := by
  induction size : sizeOf value using Nat.strongRecOn generalizing inquiry value other with
  | ind count smaller =>
      subst size
      have inside (last : Inquiry) {pair : Value × Value}
          (reached : Reaches AreEqual (inquiry.parts value other) pair) :
          last.answer relation pair.1 pair.2 = .error .undefinedDecimal ↔
            last.IsStuck pair.1 pair.2 :=
        smaller _ (sizeOf_lt_of_mem_parts reached.mem) last rfl
      rw [isStuck_iff]
      cases inquiry with
      | equality =>
          rw [answer, Value.equals_eq_error]
          refine or_congr (by simp [Scalar.equals_eq_error]) (exists_congr fun pair => ?_)
          refine and_congr_right fun reached => ?_
          simp [Value.equalsAsPart_eq_error, ← inside .equality reached, answer]
      | order =>
          rw [answer, Value.related_eq_error]
          refine or_congr (by simp [Scalar.related_eq_error]) (exists_congr fun pair => ?_)
          refine and_congr_right fun reached => ?_
          simp [Value.equalsAsPart_eq_error, ← inside .equality reached, ← inside .order reached,
            answer]

end Inquiry

namespace Value

open Inquiry

/-- Comparing two values stops exactly if it comes to numbers for which the answer is not
defined. -/
theorem equals_eq_error_iff
    {value other : Value}
    {fault : Fault} :
    value.equals other = .error fault ↔
      fault = .undefinedDecimal ∧ equality.IsStuck value other := by
  have stuck : value.equals other = .error .undefinedDecimal ↔ equality.IsStuck value other :=
    answer_eq_error .less equality
  rw [← stuck]
  constructor
  · intro stopped
    have stops : Attempt.StopsOnlyWith (· = .undefinedDecimal) (value.equals other) :=
      stops_equals value other fun _ => rfl
    obtain rfl := stops fault stopped
    exact ⟨rfl, stopped⟩
  · rintro ⟨rfl, stopped⟩
    exact stopped

/-- Ordering two values stops, unless they have no order, exactly if it comes to numbers for which
the answer is not defined. -/
theorem related_eq_error_iff
    {relation : Relation}
    {value other : Value}
    {fault : Fault} :
    value.related relation other = .error fault ∧ fault ≠ .wrongKind ↔
      fault = .undefinedDecimal ∧ order.IsStuck value other := by
  have stuck : value.related relation other = .error .undefinedDecimal ↔
      order.IsStuck value other :=
    answer_eq_error relation order
  rw [← stuck]
  constructor
  · rintro ⟨stopped, ordered⟩
    have stops : Attempt.StopsOnlyWith (fun fault => fault = .wrongKind ∨ fault = .undefinedDecimal)
        (value.related relation other) :=
      stops_related value other (.inl rfl) (.inr rfl)
    obtain rfl := (stops fault stopped).resolve_left ordered
    exact ⟨rfl, stopped⟩
  · rintro ⟨rfl, stopped⟩
    exact ⟨stopped, nofun⟩

end Value
end DataContract
