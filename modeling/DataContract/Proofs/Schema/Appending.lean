import DataContract.Proofs.Predicate.TypeCheck
import DataContract.Proofs.Schema.Constraining

/-!
# Predicates at the end of chains

A schema takes further predicates at the end of some of its chains: its own, or those of both
alternatives of a union, or those of the output of a cast. If a custom schema among these has no
way to take any, all are refused, whichever they are. What is not one of these chains stays as it
is, and the chains get the same predicates whether they come in one list or in two.

A custom schema may make of further predicates what it likes. The statements here are about those
that put them at the end of their own, as the schemas of the library do.
-/

namespace DataContract

namespace CustomType

/-- Whether custom schemas, one for every list of predicates, put further predicates at the end of
theirs. -/
structure IsAppending (family : List Predicate → CustomType) : Prop where
  /-- Each shows its predicates. -/
  chain : ∀ chain, (family chain).now.chain = chain
  /-- All have one tag. -/
  tag : ∀ chain, (family chain).now.tag = (family []).now.tag
  /-- Each takes further predicates and becomes that with all of them. -/
  constrain : ∀ chain extra, (family chain).constrain extra = .ok (family (chain ++ extra))

/-- Whether a custom schema puts further predicates at the end of its own, if it has a way to take
them. -/
def Appends (type : CustomType) : Prop :=
  type.now.take? = none ∨ ∃ family, IsAppending family ∧ type = family type.now.chain

/-- Whether a custom schema differs from another at most in its predicates. -/
def IsVariant (type other : CustomType) : Prop :=
  other = type ∨
    ∃ family, IsAppending family ∧ type = family type.now.chain ∧ other = family other.now.chain

section Appending

variable
  {family : List Predicate → CustomType}
  {type other : CustomType}
  {extra more : List Predicate}

/-- A custom schema that takes predicates is the next of its family, one that cannot take any
stays out of it. -/
theorem Appends.constrain_eq_ok
    (appends : type.Appends)
    (made : type.constrain extra = .ok other) :
    ∃ family, IsAppending family ∧ type = family type.now.chain ∧
      other = family (type.now.chain ++ extra) := by
  rcases appends with closed | ⟨family, appending, same⟩
  · rw [constrain_of_closed closed] at made
    cases made
  · rw [same, appending.constrain] at made
    exact ⟨family, appending, same, (Except.ok.inj made).symm⟩

/-- A custom schema that puts predicates at the end of its own takes them in one list as in
two. -/
theorem Appends.constrain_append (appends : type.Appends) :
    type.constrain (extra ++ more) =
      type.constrain extra >>= fun first => first.constrain more := by
  rcases appends with closed | ⟨family, appending, same⟩
  · rw [constrain_of_closed closed, constrain_of_closed closed]
    rfl
  · rw [same]
    simp [appending.constrain]

/-- Custom schemas that put predicates at the end of their own go on doing so. -/
theorem Appends.of_constrain
    (appends : type.Appends)
    (made : type.constrain extra = .ok other) :
    other.Appends := by
  obtain ⟨family, appending, -, rfl⟩ := appends.constrain_eq_ok made
  exact .inr ⟨family, appending, by rw [appending.chain]⟩

/-- Custom schemas of texts put predicates at the end of their own, if they take any. -/
theorem appends_ofTexts
    (tag : String)
    (extensible : Bool)
    (mark : Nat)
    (chain : List Predicate) :
    (ofTexts tag extensible mark chain).Appends := by
  cases extensible with
  | false => exact .inl rfl
  | true =>
      refine .inr ⟨ofTexts tag true mark, ?_, rfl⟩
      exact ⟨fun _ => rfl, fun _ => rfl, fun _ _ => rfl⟩

end Appending

end CustomType

namespace Schema

/-- Whether the custom schemas that are constrained with a schema put further predicates at the end
of their own. -/
def Appends (schema : Schema) : Prop :=
  ∀ type ∈ schema.openCustoms, type.Appends

/-- The first custom schema that has no way to take further predicates. -/
def closed? (schema : Schema) : Option CustomType :=
  schema.openCustoms.find? fun type => type.now.take?.isNone

/-- The chains at the end of which further predicates are put, from left to right. -/
def openChains : Schema → List (List Predicate)
  | .primitive _ chain => [chain]
  | .list chain _ => [chain]
  | .map chain _ _ _ => [chain]
  | .union left right _ => left.openChains ++ right.openChains
  | .cast _ output _ _ => output.openChains
  | .custom type => [type.now.chain]

/-- Whether a schema differs from another at most in its open chains: the members of its lists, the
keys of its maps, the options of its unions and casts, the inputs of its casts and their casters
are the same. -/
def IsVariant : Schema → Schema → Prop
  | .primitive tag _, other => ∃ chain, other = .primitive tag chain
  | .list _ member, other => ∃ chain, other = .list chain member
  | .map _ keys atomize style, other => ∃ chain, other = .map chain keys atomize style
  | .union left right options, other =>
      ∃ first second, other = .union first second options ∧
        left.IsVariant first ∧ right.IsVariant second
  | .cast input output caster options, other =>
      ∃ second, other = .cast input second caster options ∧ output.IsVariant second
  | .custom type, other => ∃ otherType, other = .custom otherType ∧ type.IsVariant otherType

/-- What the caster of a cast is given besides the value: the tags of both sides and the
options. -/
def handover? : Schema → Option (Caster × Value × Value × Options)
  | .cast input output caster options => some (caster, input.tag, output.tag, options)
  | _ => none

/-- What all casters in a schema are given, in order. -/
def handovers (schema : Schema) : List (Caster × Value × Value × Options) :=
  schema.nodes.filterMap handover?

section Parts

variable
  {left right input output : Schema}
  {caster : Caster}
  {options : Options}

theorem appends_union_iff :
    (union left right options).Appends ↔ left.Appends ∧ right.Appends :=
  List.forall_mem_append

theorem appends_cast_iff :
    (cast input output caster options).Appends ↔ output.Appends :=
  Iff.rfl

theorem appends_custom_iff
    {type : CustomType} :
    (custom type).Appends ↔ type.Appends :=
  List.forall_mem_singleton

theorem closed?_union :
    (union left right options).closed? = left.closed?.or right.closed? :=
  List.find?_append

end Parts

/-! ## Constraining -/

section Constraining

variable
  {schema constrained : Schema}
  {extra more : List Predicate}

/-- A schema without a closed custom schema takes predicates. -/
theorem exists_constrain_of_open
    (extra : List Predicate)
    (appends : schema.Appends)
    (free : schema.closed? = none) :
    ∃ constrained, schema.constrain extra = .ok constrained := by
  induction schema with
  | primitive tag chain | list chain member _ | map chain keys atomize style _ => exact ⟨_, rfl⟩
  | union left right options leftHypothesis rightHypothesis =>
      rw [closed?_union, Option.or_eq_none_iff] at free
      obtain ⟨leftAppends, rightAppends⟩ := appends_union_iff.mp appends
      obtain ⟨first, leftMade⟩ := leftHypothesis leftAppends free.1
      obtain ⟨second, rightMade⟩ := rightHypothesis rightAppends free.2
      exact ⟨_, constrain_union_eq_ok.mpr ⟨first, second, leftMade, rightMade, rfl⟩⟩
  | cast input output caster options _ hypothesis =>
      obtain ⟨second, made⟩ := hypothesis (appends_cast_iff.mp appends) free
      exact ⟨_, constrain_cast_eq_ok.mpr ⟨second, made, rfl⟩⟩
  | custom type =>
      by_cases given : extra = []
      · exact ⟨_, constrain_custom_eq_ok.mpr (.inl ⟨given, rfl⟩)⟩
      · rcases appends_custom_iff.mp appends with closed | ⟨family, appending, same⟩
        · simp [closed?, openCustoms, closed] at free
        · have taken := appending.constrain type.now.chain extra
          rw [← same] at taken
          exact ⟨_, constrain_custom_eq_ok.mpr (.inr ⟨given, _, taken, rfl⟩)⟩

/-- A closed custom schema refuses predicates for the whole schema. -/
theorem constrain_of_closed?
    {type : CustomType}
    (appends : schema.Appends)
    (given : extra ≠ [])
    (closed : schema.closed? = some type) :
    schema.constrain extra = refuse (.fixedConstraints ("<" ++ type.now.tag ++ ">")) := by
  induction schema with
  | primitive tag chain | list chain member _ | map chain keys atomize style _ =>
      simp [closed?, openCustoms] at closed
  | union left right options leftHypothesis rightHypothesis =>
      obtain ⟨leftAppends, rightAppends⟩ := appends_union_iff.mp appends
      rw [closed?_union, Option.or_eq_some_iff] at closed
      rcases closed with closed | ⟨free, closed⟩
      · rw [constrain, leftHypothesis leftAppends closed]
        rfl
      · obtain ⟨first, leftMade⟩ := exists_constrain_of_open extra leftAppends free
        rw [constrain, leftMade, rightHypothesis rightAppends closed]
        rfl
  | cast input output caster options _ hypothesis =>
      rw [constrain, hypothesis (appends_cast_iff.mp appends) closed]
      rfl
  | custom own =>
      obtain ⟨shut, same⟩ : own.now.take? = none ∧ own = type := by
        simpa [closed?, openCustoms, List.find?_singleton] using closed
      have present : extra.isEmpty = false := by simpa using given
      rw [constrain, present, CustomType.constrain_of_closed shut, same]
      rfl

/-- Constraining is refused exactly if there is something to constrain with and a custom schema
that has no way to take it. -/
theorem constrain_eq_error_iff
    {fault : Fault}
    (appends : schema.Appends) :
    schema.constrain extra = .error fault ↔
      extra ≠ [] ∧ ∃ type, schema.closed? = some type ∧
        fault = .definition (.fixedConstraints ("<" ++ type.now.tag ++ ">")) := by
  by_cases given : extra = []
  · subst given
    simp
  · cases closed : schema.closed? with
    | some type =>
        rw [constrain_of_closed? appends given closed]
        simp [given, refuse, DefinitionFault.values, eq_comm]
    | none =>
        obtain ⟨constrained, made⟩ := exists_constrain_of_open extra appends closed
        simp [made]

/-- Constraining with one list of predicates and then with another is constraining with both. -/
theorem constrain_append_eq_ok
    (appends : schema.Appends) :
    schema.constrain (extra ++ more) = .ok constrained ↔
      ∃ first, schema.constrain extra = .ok first ∧ first.constrain more = .ok constrained := by
  induction schema generalizing constrained with
  | primitive tag chain | list chain member _ | map chain keys atomize style _ => simp [constrain]
  | union left right options leftHypothesis rightHypothesis =>
      obtain ⟨leftAppends, rightAppends⟩ := appends_union_iff.mp appends
      simp only [constrain_union_eq_ok, leftHypothesis leftAppends, rightHypothesis rightAppends]
      constructor
      · rintro ⟨_, _, ⟨first, made, leftMade⟩, ⟨second, made', rightMade⟩, rfl⟩
        exact ⟨_, ⟨first, second, made, made', rfl⟩,
          constrain_union_eq_ok.mpr ⟨_, _, leftMade, rightMade, rfl⟩⟩
      · rintro ⟨_, ⟨first, second, made, made', rfl⟩, both⟩
        obtain ⟨_, _, leftMade, rightMade, rfl⟩ := constrain_union_eq_ok.mp both
        exact ⟨_, _, ⟨first, made, leftMade⟩, ⟨second, made', rightMade⟩, rfl⟩
  | cast input output caster options _ hypothesis =>
      simp only [constrain_cast_eq_ok, hypothesis (appends_cast_iff.mp appends)]
      constructor
      · rintro ⟨_, ⟨second, made, outputMade⟩, rfl⟩
        exact ⟨_, ⟨second, made, rfl⟩, constrain_cast_eq_ok.mpr ⟨_, outputMade, rfl⟩⟩
      · rintro ⟨_, ⟨second, made, rfl⟩, both⟩
        obtain ⟨_, outputMade, rfl⟩ := constrain_cast_eq_ok.mp both
        exact ⟨_, ⟨second, made, outputMade⟩, rfl⟩
  | custom type =>
      rcases eq_or_ne extra [] with rfl | given
      · simp
      rcases eq_or_ne more [] with rfl | further
      · simp
      simp only [constrain_custom_eq_ok, List.append_eq_nil_iff, given, further, false_and,
        false_or, not_false_eq_true, true_and, ne_eq, and_self,
        (appends_custom_iff.mp appends).constrain_append, Attempt.bind_eq_ok]
      constructor
      · rintro ⟨other, ⟨first, made, taken⟩, rfl⟩
        exact ⟨_, ⟨first, made, rfl⟩,
          constrain_custom_eq_ok.mpr (.inr ⟨further, other, taken, rfl⟩)⟩
      · rintro ⟨_, ⟨first, made, rfl⟩, both⟩
        rcases constrain_custom_eq_ok.mp both with ⟨none, -⟩ | ⟨-, other, taken, rfl⟩
        · exact absurd none further
        · exact ⟨other, ⟨first, made, taken⟩, rfl⟩

/-- Constraining with one list and then with another is constraining with both, also where it is
refused. -/
theorem constrain_bind
    (appends : schema.Appends) :
    (schema.constrain extra >>= fun first => first.constrain more) =
      schema.constrain (extra ++ more) := by
  rcases eq_or_ne extra [] with rfl | given
  · simp
  · cases closed : schema.closed? with
    | some type =>
        rw [constrain_of_closed? appends given closed,
          constrain_of_closed? appends (by simp [given]) closed]
        rfl
    | none =>
        obtain ⟨both, made⟩ := exists_constrain_of_open (extra ++ more) appends closed
        obtain ⟨first, firstMade, second⟩ := (constrain_append_eq_ok appends).mp made
        rw [made, firstMade, Attempt.ok_bind, second]

/-- Whatever a schema is constrained to puts further predicates at the end as well. -/
theorem Appends.of_constrain
    (appends : schema.Appends)
    (made : schema.constrain extra = .ok constrained) :
    constrained.Appends := by
  induction schema generalizing constrained with
  | primitive tag chain | list chain member _ | map chain keys atomize style _ =>
      cases made
      simp [Appends, openCustoms]
  | union left right options leftHypothesis rightHypothesis =>
      obtain ⟨leftAppends, rightAppends⟩ := appends_union_iff.mp appends
      obtain ⟨first, second, leftMade, rightMade, rfl⟩ := constrain_union_eq_ok.mp made
      exact appends_union_iff.mpr
        ⟨leftHypothesis leftAppends leftMade, rightHypothesis rightAppends rightMade⟩
  | cast input output caster options _ hypothesis =>
      obtain ⟨second, outputMade, rfl⟩ := constrain_cast_eq_ok.mp made
      exact appends_cast_iff.mpr (hypothesis (appends_cast_iff.mp appends) outputMade)
  | custom type =>
      rcases constrain_custom_eq_ok.mp made with ⟨-, rfl⟩ | ⟨-, other, taken, rfl⟩
      · exact appends
      · exact appends_custom_iff.mpr ((appends_custom_iff.mp appends).of_constrain taken)

/-- Constraining puts predicates at the end of the open chains and changes nothing else. -/
theorem isVariant_of_constrain
    (appends : schema.Appends)
    (made : schema.constrain extra = .ok constrained) :
    schema.IsVariant constrained ∧
      constrained.openChains = schema.openChains.map (· ++ extra) := by
  induction schema generalizing constrained with
  | primitive tag chain | list chain member _ | map chain keys atomize style _ =>
      cases made
      exact ⟨⟨_, rfl⟩, rfl⟩
  | union left right options leftHypothesis rightHypothesis =>
      obtain ⟨leftAppends, rightAppends⟩ := appends_union_iff.mp appends
      obtain ⟨first, second, leftMade, rightMade, rfl⟩ := constrain_union_eq_ok.mp made
      obtain ⟨leftSame, leftChains⟩ := leftHypothesis leftAppends leftMade
      obtain ⟨rightSame, rightChains⟩ := rightHypothesis rightAppends rightMade
      refine ⟨⟨first, second, rfl, leftSame, rightSame⟩, ?_⟩
      simp only [openChains, leftChains, rightChains, List.map_append]
  | cast input output caster options _ hypothesis =>
      obtain ⟨second, outputMade, rfl⟩ := constrain_cast_eq_ok.mp made
      obtain ⟨same, chains⟩ := hypothesis (appends_cast_iff.mp appends) outputMade
      exact ⟨⟨second, rfl, same⟩, chains⟩
  | custom type =>
      rcases constrain_custom_eq_ok.mp made with ⟨rfl, rfl⟩ | ⟨-, other, taken, rfl⟩
      · exact ⟨⟨type, rfl, .inl rfl⟩, by simp⟩
      · obtain ⟨family, appending, own, rfl⟩ :=
          (appends_custom_iff.mp appends).constrain_eq_ok taken
        have shown := appending.chain (type.now.chain ++ extra)
        refine ⟨⟨_, rfl, .inr ⟨family, appending, own, by rw [shown]⟩⟩, ?_⟩
        simp only [openChains, shown, List.map_cons, List.map_nil]

/-- Variants have as many open chains. -/
theorem IsVariant.length_openChains
    {other : Schema}
    (variant : schema.IsVariant other) :
    other.openChains.length = schema.openChains.length := by
  induction schema generalizing other with
  | primitive tag chain | list chain member _ | map chain keys atomize style _ =>
      obtain ⟨_, rfl⟩ := variant
      rfl
  | union left right options leftHypothesis rightHypothesis =>
      obtain ⟨first, second, rfl, leftSame, rightSame⟩ := variant
      simp only [openChains, List.length_append, leftHypothesis leftSame,
        rightHypothesis rightSame]
  | cast input output caster options _ hypothesis =>
      obtain ⟨second, rfl, same⟩ := variant
      simpa only [openChains] using hypothesis same
  | custom type =>
      obtain ⟨_, rfl, -⟩ := variant
      rfl

/-- There is only one variant of a schema with given open chains: what the schema is constrained
to. -/
theorem IsVariant.constrain_eq_ok
    (variant : schema.IsVariant constrained)
    (chains : constrained.openChains = schema.openChains.map (· ++ extra)) :
    schema.constrain extra = .ok constrained := by
  induction schema generalizing constrained with
  | primitive tag chain | list chain member _ | map chain keys atomize style _ =>
      obtain ⟨other, rfl⟩ := variant
      obtain rfl := List.singleton_inj.mp chains
      rfl
  | union left right options leftHypothesis rightHypothesis =>
      obtain ⟨first, second, rfl, leftSame, rightSame⟩ := variant
      rw [openChains, openChains, List.map_append] at chains
      obtain ⟨leftChains, rightChains⟩ :=
        List.append_inj chains (by simp [leftSame.length_openChains])
      exact constrain_union_eq_ok.mpr ⟨first, second, leftHypothesis leftSame leftChains,
        rightHypothesis rightSame rightChains, rfl⟩
  | cast input output caster options _ hypothesis =>
      obtain ⟨second, rfl, same⟩ := variant
      exact constrain_cast_eq_ok.mpr ⟨second, hypothesis same chains, rfl⟩
  | custom type =>
      obtain ⟨other, rfl, same⟩ := variant
      have shown : other.now.chain = type.now.chain ++ extra := List.singleton_inj.mp chains
      rcases eq_or_ne extra [] with rfl | given
      · rcases same with rfl | ⟨family, -, own, others⟩
        · simp
        · rw [shown, List.append_nil, ← own] at others
          simp [others]
      · rcases same with rfl | ⟨family, appending, own, others⟩
        · simp [given] at shown
        · refine constrain_custom_eq_ok.mpr (.inr ⟨given, other, ?_, rfl⟩)
          rw [others, shown, ← appending.constrain, ← own]

/-- Constraining keeps the tag of a schema whose custom schemas put predicates at the end. -/
theorem Appends.tag_of_constrain
    (appends : schema.Appends)
    (made : schema.constrain extra = .ok constrained) :
    constrained.tag = schema.tag := by
  refine Schema.tag_of_constrain (fun type member other taken => ?_) made
  obtain ⟨family, appending, own, rfl⟩ := (appends type member).constrain_eq_ok taken
  rw [appending.tag, ← appending.tag type.now.chain, ← own]

/-- Constraining changes nothing that casters are given besides the value. -/
theorem handovers_of_constrain
    (appends : schema.Appends)
    (made : schema.constrain extra = .ok constrained) :
    constrained.handovers = schema.handovers := by
  simp only [handovers]
  induction schema generalizing constrained with
  | primitive tag chain | list chain member _ | map chain keys atomize style _ =>
      cases made
      rfl
  | union left right options leftHypothesis rightHypothesis =>
      obtain ⟨leftAppends, rightAppends⟩ := appends_union_iff.mp appends
      obtain ⟨first, second, leftMade, rightMade, rfl⟩ := constrain_union_eq_ok.mp made
      simp only [nodes, handover?, List.filterMap_cons, List.filterMap_append,
        leftHypothesis leftAppends leftMade, rightHypothesis rightAppends rightMade]
  | cast input output caster options _ hypothesis =>
      have outputAppends := appends_cast_iff.mp appends
      obtain ⟨second, outputMade, rfl⟩ := constrain_cast_eq_ok.mp made
      simp only [nodes, handover?, List.filterMap_cons, List.filterMap_append,
        hypothesis outputAppends outputMade, outputAppends.tag_of_constrain outputMade]
  | custom type =>
      rcases constrain_custom_eq_ok.mp made with ⟨-, rfl⟩ | ⟨-, other, -, rfl⟩ <;> rfl

end Constraining

/-- Constraining composes. Constraining twice comes to the same schema, or to the same mistake,
as constraining once with both lists, and it only puts predicates at the end of open chains: the
tag of the schema, what its casters are given, and everything else in it stay as they are. A custom
schema among those that are constrained must put predicates at the end of its own, if it has a way
to take them. -/
theorem constrain_composes
    (schema : Schema)
    (appends : schema.Appends)
    (extra more : List Predicate) :
    (schema.constrain extra >>= fun first => first.constrain more) =
        schema.constrain (extra ++ more) ∧
      (∀ fault, schema.constrain extra = .error fault ↔
        extra ≠ [] ∧ ∃ type, schema.closed? = some type ∧
          fault = .definition (.fixedConstraints ("<" ++ type.now.tag ++ ">"))) ∧
      (∀ constrained, schema.constrain extra = .ok constrained ↔
        schema.IsVariant constrained ∧
          constrained.openChains = schema.openChains.map (· ++ extra)) ∧
      ∀ constrained, schema.constrain extra = .ok constrained →
        constrained.tag = schema.tag ∧ constrained.handovers = schema.handovers :=
  ⟨constrain_bind appends, fun _ => constrain_eq_error_iff appends,
    fun _ => ⟨isVariant_of_constrain appends, fun ⟨variant, chains⟩ =>
      variant.constrain_eq_ok chains⟩,
    fun _ made => ⟨appends.tag_of_constrain made, handovers_of_constrain appends made⟩⟩

/-- A whole number that a text names, or a plain text. -/
def numberOrPlain (extensible : Bool) : Schema :=
  .union
    (.cast (.primitive .string [.typeCheck .string]) (.primitive .integer [.typeCheck .integer])
      ⟨"default", fun _ _ value _ => .ok value⟩ [])
    (.custom (.ofTexts "plain" extensible 0 [])) [("name", .text "code")]

theorem appends_numberOrPlain (extensible : Bool) : (numberOrPlain extensible).Appends :=
  List.forall_mem_singleton.mpr (CustomType.appends_ofTexts "plain" extensible 0 [])

theorem constrain_composes_numberOrPlain :
    (∃ constrained, (numberOrPlain true).constrain [.filledCheck] = .ok constrained ∧
      constrained.tag = .text "code" ∧
      constrained.openChains = [[.typeCheck .integer, .filledCheck], [.filledCheck]]) ∧
    (numberOrPlain false).constrain [.filledCheck] =
      .error (.definition (.fixedConstraints "<plain>")) := by
  constructor
  · obtain ⟨-, -, made, kept⟩ :=
      constrain_composes (numberOrPlain true) (appends_numberOrPlain true) [.filledCheck] []
    have taken : (numberOrPlain true).constrain [.filledCheck] =
        .ok (.union
          (.cast (.primitive .string [.typeCheck .string])
            (.primitive .integer [.typeCheck .integer, .filledCheck])
            ⟨"default", fun _ _ value _ => .ok value⟩ [])
          (.custom (.ofTexts "plain" true 0 [.filledCheck])) [("name", .text "code")]) := rfl
    exact ⟨_, taken, (kept _ taken).1, ((made _).mp taken).2⟩
  · obtain ⟨-, refused, -⟩ :=
      constrain_composes (numberOrPlain false) (appends_numberOrPlain false) [.filledCheck] []
    exact (refused _).mpr ⟨by simp, _, rfl, rfl⟩

end Schema
end DataContract
