import DataContract.Proofs.Number.Numeral
import DataContract.Proofs.Schema.Entries
import DataContract.Proofs.Schema.KeyStyle

/-!
# Captured entries

A map given in place has its entries collected under own names by every map around it, and
once more by itself. After the first time all entries have the own names of their keys, so
that only a key which found nothing can come to something else: it may be called on the wire
as another key is named, and captures the entry that the other key took.

A text on the wire is its own name on the wire. A key that is named by it looks nowhere else,
so that its entry would have been found by the first key before. What is captured is therefore
the entry of a key with another name on the wire; and only a member of an enumeration, whose
content may be anything, captures it.
-/

namespace DataContract

namespace KeyStyle

variable
  {style : KeyStyle}
  {name : Value}
  {number : Int}

/-- Whole numbers are written without low lines. -/
theorem camelize_plain_whole
    (whole : name.whole? = some number) :
    camelize name.plain = name.plain := by
  cases name with
  | scalar content =>
      cases content with
      | bool flag => cases flag <;> rfl
      | int digits =>
          refine camelize_eq_self fun character member => ?_
          change character ∈ (toString digits).toList at member
          rw [Number.toList_repr] at member
          exact Number.ne_lowLine_of_isDense
            (Number.isDense_append
              ⟨Number.isDense_signChars _,
                Number.isDense_of_isDigit (Number.isDigit_of_mem_digits _)⟩)
            member
      | _ => simp [Value.whole?] at whole
  | _ => simp [Value.whole?] at whole

/-- A whole number is called by its text on the wire. -/
theorem external_whole
    (usual : style ∈ [camel, same])
    (whole : name.whole? = some number) :
    style.external name = .text name.plain := by
  rw [List.mem_pair] at usual
  cases name with
  | scalar content =>
      rcases usual with rfl | rfl <;> cases content <;> first | rfl | simp [Value.whole?] at whole
  | _ => simp [Value.whole?] at whole

/-- A name is a member of an enumeration and stands for its content, or has a text on the wire
that is its own name on the wire. -/
theorem external_cases
    (usual : style ∈ [camel, same])
    (named : name.isName = true) :
    (∃ enumeration label content, name = .member enumeration label content ∧
      style.external name = content) ∨
    ∃ wire, style.external name = .text wire ∧ style.external (.text wire) = .text wire := by
  have called := @external_whole style name
  rw [List.mem_pair] at usual
  rcases Value.isName_cases named with
    ⟨content, rfl⟩ | ⟨enumeration, label, content, rfl⟩ | ⟨number, whole⟩
  · rcases usual with rfl | rfl
    · exact .inr ⟨camelize content, rfl, congrArg Value.text (camelize_camelize content)⟩
    · exact .inr ⟨content, rfl, rfl⟩
  · refine .inl ⟨enumeration, label, content, rfl, ?_⟩
    rcases usual with rfl | rfl <;> rfl
  · refine .inr ⟨name.plain, called (by rwa [List.mem_pair]) whole, ?_⟩
    rcases usual with rfl | rfl
    · exact congrArg Value.text (camelize_plain_whole whole)
    · rfl

/-- Whether the entries of keys stay as they are when they are collected once more from those
that were collected. -/
def Settles
    (style : KeyStyle)
    (keys : List Key) : Prop :=
  ∀ entries,
    (do
      let made ← atomizeKeys style keys (.map entries)
      atomizeKeys style keys (.map made)) =
    atomizeKeys style keys (.map entries)

/-- Entries settle if they are collected from those that were collected. -/
theorem settles_iff
    {keys : List Key} :
    style.Settles keys ↔
      ∀ entries made, atomizeKeys style keys (.map entries) = .ok made →
        atomizeKeys style keys (.map made) = .ok made := by
  refine forall_congr' fun entries => ?_
  cases atomizeKeys style keys (.map entries) with
  | error fault => simp
  | ok made => simp

end KeyStyle

namespace Key

/-- The lists of keys of a map and of the maps given in place under its keys, at every
depth. -/
inductive IsLevelOf (level : List Key) : List Key → Prop
  | here : IsLevelOf level level
  | inside
      {keys : List Key}
      {key : Key}
      (member : key ∈ keys)
      (deeper : IsLevelOf level key.children) : IsLevelOf level keys

/-- Without keys there is one level only. -/
theorem eq_nil_of_isLevelOf
    {level : List Key}
    (inside : IsLevelOf level []) :
    level = [] := by
  rcases inside with _ | ⟨member, -⟩
  · rfl
  · cases member

/-- Whether keys are told apart by texts, whole numbers and members of enumerations. -/
structure AreTold (keys : List Key) : Prop where
  /-- Every name is a text, a whole number or a member. -/
  named : ∀ key ∈ keys, key.name.isName = true
  /-- No name equals another. -/
  distinct : keys.Pairwise fun earlier later => later.name.sameKey earlier.name = false

/-- Whether a key is called on the wire as another is named, which is called something else on
the wire. -/
structure Captures
    (style : KeyStyle)
    (key other : Key) : Prop where
  /-- The one is called as the other is named. -/
  called : (style.external key.name).sameKey other.name = true
  /-- The other can be looked up by what it is called. -/
  usable : (style.external other.name).isKey = true
  /-- The other is called something else than it is named. -/
  moved : (style.external other.name).sameKey other.name = false

instance (keys : List Key) : Decidable (AreTold keys) :=
  decidable_of_iff
    ((∀ key ∈ keys, key.name.isName = true) ∧
      keys.Pairwise fun earlier later => later.name.sameKey earlier.name = false)
    ⟨fun ⟨named, distinct⟩ => ⟨named, distinct⟩, fun ⟨named, distinct⟩ => ⟨named, distinct⟩⟩

instance
    (style : KeyStyle)
    (key other : Key) : Decidable (key.Captures style other) :=
  decidable_of_iff
    ((style.external key.name).sameKey other.name = true ∧
      (style.external other.name).isKey = true ∧
      (style.external other.name).sameKey other.name = false)
    ⟨fun ⟨called, usable, moved⟩ => ⟨called, usable, moved⟩,
      fun ⟨called, usable, moved⟩ => ⟨called, usable, moved⟩⟩

section Lookup

variable
  {style : KeyStyle}
  {keys : List Key}
  {key other : Key}
  {entries : Entries}
  {found : Key → Option Value}

/-- A key that is called as another is named, and does not capture its entry, is called by the
very same name, and so is the other key, if it can be called at all. -/
theorem external_eq_of_not_captures
    (usual : style ∈ [KeyStyle.camel, KeyStyle.same])
    (named : other.name.isName = true)
    (called : (style.external key.name).sameKey other.name = true)
    (free : ¬ key.Captures style other) :
    style.external key.name = other.name ∧
      ((style.external other.name).isKey = true → style.external other.name = other.name) := by
  have stays (usable : (style.external other.name).isKey = true) :
      (style.external other.name).sameKey other.name = true := by
    by_contra moved
    exact free ⟨called, usable, Bool.not_eq_true _ ▸ moved⟩
  rcases Value.isName_cases named with
    ⟨content, name⟩ | ⟨enumeration, label, content, name⟩ | ⟨number, whole⟩
  · rw [name] at called stays ⊢
    exact ⟨Value.sameKey_text_right.mp called, fun usable =>
      Value.sameKey_text_right.mp (stays usable)⟩
  · rw [name] at called stays ⊢
    exact ⟨Value.sameKey_member_right.mp called, fun usable =>
      Value.sameKey_member_right.mp (stays usable)⟩
  · rw [KeyStyle.external_whole usual whole] at stays
    have text := Value.sameKey_text.mp (stays rfl)
    rw [text] at whole
    cases whole

/-- Where a key finds nothing, a key whose name it is called by finds nothing either, if the
first does not capture the entry of the second. -/
theorem eq_none_of_not_captures
    (usual : style ∈ [KeyStyle.camel, KeyStyle.same])
    (named : other.name.isName = true)
    (called : (style.external key.name).sameKey other.name = true)
    (free : ¬ key.Captures style other)
    (nothing : key.collect style (.map entries) = .ok none)
    {taken : Option Value}
    (collected : other.collect style (.map entries) = .ok taken) :
    taken = none := by
  obtain ⟨same, stays⟩ := external_eq_of_not_captures usual named called free
  have absent := (collect_eq_none.mp nothing).2
  rw [same] at absent
  cases usable : (style.external other.name).isKey with
  | true =>
      have nothing : other.collect style (.map entries) = .ok none :=
        collect_eq_none.mpr ⟨absent, by rw [stays usable, absent]⟩
      exact Except.ok.inj (collected.symm.trans nothing)
  | false =>
      rw [collect, Value.entryFor?, absent, Attempt.ok_bind, Value.entry?_map_of_not_isKey usable]
        at collected
      cases collected

/-- The entry of a key is left alone when it is renamed once more, if the entries of a map given
in place are. -/
theorem rename_again
    (inside : key.inline = true → ∀ value renamed,
      key.type.atomizeInline style value = .ok renamed →
        key.type.atomizeInline style renamed = .ok renamed)
    {value renamed : Value}
    (made : key.rename style value = .ok renamed) :
    key.rename style renamed = .ok renamed := by
  rw [rename] at made ⊢
  split
  · rename_i inPlace
    rw [if_pos inPlace] at made
    exact inside inPlace value renamed made
  · rfl

/-- A key finds what it found before, if its entry is left alone when it is renamed once more,
and if no entry is captured. -/
theorem atomizeKeys_again
    (usual : style ∈ [KeyStyle.camel, KeyStyle.same])
    (told : AreTold keys)
    (free : ∀ key ∈ keys, ∀ other ∈ keys, ¬ key.Captures style other)
    (renames : ∀ key ∈ keys, ∀ value renamed, key.rename style value = .ok renamed →
      key.rename style renamed = .ok renamed)
    {made : Entries}
    (collected : atomizeKeys style keys (.map entries) = .ok made) :
    atomizeKeys style keys (.map made) = .ok made := by
  obtain ⟨found, each, rfl⟩ := exists_collect_of_atomizeKeys collected
  refine atomizeKeys_of_collect fun key member => ?_
  have looked : Value.entry? (.map (Key.entries keys found)) key.name = .ok (found key) :=
    entry?_entries told.distinct told.named member
  have here := each key member
  cases there : found key with
  | some renamed =>
      rw [there] at looked here
      rw [collect] at here
      rw [collect_of_entry looked, Attempt.map_eq_ok]
      obtain ⟨entry, -, here⟩ := Attempt.bind_eq_ok.mp here
      cases entry with
      | none => cases here
      | some value =>
          obtain ⟨_, made, same⟩ := Attempt.map_eq_ok.mp here
          cases same
          exact ⟨renamed, renames key member value renamed made, rfl⟩
  | none =>
      rw [there] at looked here
      refine collect_eq_none.mpr ⟨looked, ?_⟩
      have usable : (style.external key.name).isKey = true := by
        by_contra unusable
        have absent := (collect_eq_none.mp here).2
        rw [Value.entry?_map_of_not_isKey (Bool.not_eq_true _ ▸ unusable)] at absent
        cases absent
      rw [Value.entry?_map usable, Except.ok.injEq, Option.eq_none_iff_forall_ne_some]
      intro value present
      obtain ⟨other, inside, called, taken⟩ := exists_of_get?_entries present
      have nothing := eq_none_of_not_captures usual (told.named other inside) called
        (free key member other inside) here (each other inside)
      rw [nothing] at taken
      cases taken

end Lookup
end Key

/-! ## Entries that settle -/

section Settling

variable
  {style : KeyStyle}
  {keys : List Key}

/-- The entries of a value are left alone when they are renamed once more, if no entry is
captured at any depth. -/
theorem Schema.atomizeInline_again
    (usual : style ∈ [KeyStyle.camel, KeyStyle.same])
    {schema : Schema}
    (levels : ∀ level, Key.IsLevelOf level schema.keys →
      Key.AreTold level ∧ ∀ key ∈ level, ∀ other ∈ level, ¬ key.Captures style other)
    {value renamed : Value}
    (made : schema.atomizeInline style value = .ok renamed) :
    schema.atomizeInline style renamed = .ok renamed := by
  induction schema generalizing value renamed with
  | map chain keys atomize own hypothesis =>
      cases value with
      | map entries =>
          rw [atomizeInline] at made
          split at made
          · cases made
            rw [atomizeInline, if_pos ‹_›]
          · obtain ⟨collected, once, rfl⟩ := Attempt.map_eq_ok.mp made
            rw [atomizeInline, if_neg ‹_›, Attempt.map_eq_ok]
            obtain ⟨told, free⟩ := levels keys .here
            refine ⟨collected, Key.atomizeKeys_again usual told free ?_ once, rfl⟩
            refine fun key member value renamed => Key.rename_again fun inPlace _ _ => ?_
            refine hypothesis key member fun level deeper => levels level (.inside member ?_)
            rwa [Key.children, if_pos inPlace]
      | _ =>
          cases made
          rfl
  | _ =>
      cases made
      rfl

/-- Entries settle if none is captured at any depth. -/
theorem KeyStyle.settles_of_levels
    (usual : style ∈ [camel, same])
    (levels : ∀ level, Key.IsLevelOf level keys →
      Key.AreTold level ∧ ∀ key ∈ level, ∀ other ∈ level, ¬ key.Captures style other) :
    style.Settles keys := by
  refine settles_iff.mpr fun entries made collected => ?_
  obtain ⟨told, free⟩ := levels keys .here
  refine Key.atomizeKeys_again usual told free ?_ collected
  refine fun key member value renamed => Key.rename_again fun inPlace _ _ => ?_
  refine Schema.atomizeInline_again usual fun level deeper => levels level (.inside member ?_)
  rwa [Key.children, if_pos inPlace]

end Settling

/-! ## Entries that are captured -/

namespace Key

section Capturing

variable
  {style : KeyStyle}
  {keys : List Key}
  {key other : Key}
  {found : Key → Option Value}

/-- What keys found is what they find again, if collecting again changes nothing. -/
theorem collect_entries_of_again
    (told : AreTold keys)
    (again : atomizeKeys style keys (.map (entries keys found)) = .ok (entries keys found))
    (member : key ∈ keys) :
    key.collect style (.map (entries keys found)) = .ok (found key) := by
  obtain ⟨taken, each, same⟩ := exists_collect_of_atomizeKeys again
  have recovered : (entries keys taken).get? key.name = taken key :=
    get?_entries told.distinct told.named member
  rw [← same, get?_entries told.distinct told.named member] at recovered
  rw [each key member, recovered]

/-- Nothing is renamed in the absent value. -/
theorem rename_null : key.rename style .null = .ok .null := by
  rw [rename]
  split
  · cases key.type <;> rfl
  · rfl

/-- A map under a key that was given in place has its entries collected. -/
theorem rename_map
    {given : Entries}
    (inPlace : key.children ≠ []) :
    key.rename style (.map given) = (atomizeKeys style key.children (.map given)).map .map := by
  rw [children] at inPlace ⊢
  rw [rename]
  split
  · rename_i inline
    simp only [inline, if_true] at inPlace
    cases shape : key.type with
    | map chain inner atomize own =>
        rw [shape, Schema.keys] at inPlace
        rw [Schema.atomizeInline, Schema.keys, if_neg (by simpa using inPlace)]
    | _ => simp [shape, Schema.keys] at inPlace
  · rename_i apart
    simp [apart] at inPlace

/-- If entries settle, so do those of a map given in place. -/
theorem settles_children
    (told : AreTold keys)
    (settles : style.Settles keys)
    (member : key ∈ keys) :
    style.Settles key.children := by
  refine KeyStyle.settles_iff.mpr fun given made collected => ?_
  by_cases inPlace : key.children = []
  · rw [inPlace] at collected ⊢
    rw [atomizeKeys] at collected ⊢
    exact collected
  · let outer (value : Value) : Entries :=
      entries keys fun other => some (if other.name = key.name then value else .null)
    have own (value : Value) : Value.entry? (.map (outer value)) key.name = .ok (some value) := by
      rw [entry?_entries told.distinct told.named member, if_pos rfl]
    have once : atomizeKeys style keys (.map (outer (.map given))) = .ok (outer (.map made)) := by
      refine atomizeKeys_of_collect fun other present => ?_
      rw [collect_of_entry (entry?_entries told.distinct told.named present)]
      split
      · rename_i called
        have same : key.name.sameKey other.name = true := by
          rw [called, Value.sameKey_self]
        rw [eq_of_sameKey told.distinct told.named member present same, rename_map inPlace,
          collected]
        rfl
      · rw [rename_null]
        rfl
    have again := collect_entries_of_again told (KeyStyle.settles_iff.mp settles _ _ once) member
    rw [collect_of_entry (own _), rename_map inPlace, if_pos rfl, Attempt.map_eq_ok] at again
    obtain ⟨_, again, same⟩ := again
    cases same
    obtain ⟨_, again, same⟩ := Attempt.map_eq_ok.mp again
    cases same
    exact again

/-- If entries settle, so do those of all maps given in place, at every depth. -/
theorem IsLevelOf.settles
    {level : List Key}
    (inside : IsLevelOf level keys)
    (told : ∀ level, IsLevelOf level keys → AreTold level)
    (settles : style.Settles keys) :
    style.Settles level := by
  induction inside with
  | here => exact settles
  | inside member _ hypothesis =>
      refine hypothesis (fun level deeper => told level (.inside member deeper)) ?_
      exact settles_children (told _ .here) settles member

/-- Nothing is its own content. -/
theorem ne_member
    {enumeration label : String}
    {content : Value} :
    content ≠ .member enumeration label content := by
  intro same
  have size := congrArg sizeOf same
  rw [Value.member.sizeOf_spec] at size
  omega

/-- Only a member of an enumeration captures. -/
theorem Captures.exists_member
    (captures : key.Captures style other)
    (usual : style ∈ [KeyStyle.camel, KeyStyle.same])
    (named : key.name.isName = true) :
    ∃ enumeration label, key.name = .member enumeration label (style.external key.name) := by
  rcases KeyStyle.external_cases usual named with
    ⟨enumeration, label, content, name, rfl⟩ | ⟨wire, called, stays⟩
  · exact ⟨enumeration, label, name⟩
  · have same := Value.sameKey_text.mp (called ▸ captures.called)
    have moved := captures.moved
    rw [same, stays, Value.sameKey_self] at moved
    cases moved

/-- Entries of which a key finds the one under its name on the wire, beside entries for the
keys that cannot be called on the wire. -/
def revealed
    (style : KeyStyle)
    (keys : List Key)
    (other : Key) : Entries :=
  entries keys (fun key => if (style.external key.name).isKey then none else some .null) ++
    [(style.external other.name, .null)]

theorem mem_revealed
    {entry : Value × Value} :
    entry ∈ revealed style keys other ↔
      (∃ key ∈ keys, (style.external key.name).isKey = false ∧ entry = (key.name, .null)) ∨
        entry = (style.external other.name, .null) := by
  rw [revealed, List.mem_append, List.mem_singleton, entries, List.mem_filterMap]
  refine or_congr_left (exists_congr fun key => and_congr_right fun _ => ?_)
  cases (style.external key.name).isKey <;> simp [eq_comm]

/-- What is looked up among these entries is absent or has the absent value. -/
theorem get?_revealed
    {name value : Value}
    (looked : (revealed style keys other).get? name = some value) :
    value = .null := by
  obtain ⟨entry, search, rfl⟩ := Option.map_eq_some_iff.mp looked
  rcases mem_revealed.mp (List.mem_of_find?_eq_some search) with ⟨_, -, -, rfl⟩ | rfl <;> rfl

/-- What is not looked up is under no name. -/
theorem sameKey_eq_false_of_get?
    {data : Entries}
    {name : Value}
    (absent : data.get? name = none)
    {entry : Value × Value}
    (inside : entry ∈ data) :
    name.sameKey entry.1 = false := by
  simpa using List.find?_eq_none.mp (Option.map_eq_none_iff.mp absent) entry inside

/-- Every key can be looked up among these entries. -/
theorem exists_collect_revealed
    (told : AreTold keys)
    (member : key ∈ keys) :
    ∃ taken, key.collect style (.map (revealed style keys other)) = .ok taken := by
  have usable := Value.isKey_of_isName (told.named key member)
  rw [collect, Value.entryFor?, Value.entry?_map usable, Attempt.ok_bind]
  cases own : (revealed style keys other).get? key.name with
  | some value =>
      obtain rfl := get?_revealed own
      exact ⟨some .null, by simp only [Attempt.ok_bind, rename_null]; rfl⟩
  | none =>
      have usable : (style.external key.name).isKey = true := by
        by_contra unusable
        have inside : (key.name, .null) ∈ revealed style keys other :=
          mem_revealed.mpr (.inl ⟨key, member, Bool.not_eq_true _ ▸ unusable, rfl⟩)
        have apart := sameKey_eq_false_of_get? own inside
        rw [Value.sameKey_self] at apart
        cases apart
      rw [Value.entry?_map usable]
      cases wire : (revealed style keys other).get? (style.external key.name) with
      | none => exact ⟨none, rfl⟩
      | some value =>
          obtain rfl := get?_revealed wire
          exact ⟨some .null, by simp only [Attempt.ok_bind, rename_null]; rfl⟩

/-- The key whose name on the wire is there finds an entry. -/
theorem collect_revealed_ne_none
    (usable : (style.external key.name).isKey = true) :
    key.collect style (.map (revealed style keys key)) ≠ .ok none := by
  intro nothing
  have absent := (collect_eq_none.mp nothing).2
  rw [Value.entry?_map usable, Except.ok.injEq] at absent
  have apart := sameKey_eq_false_of_get? absent (mem_revealed.mpr (.inr rfl))
  rw [Value.sameKey_self] at apart
  cases apart

/-- The name of a key that captures is not the other's name on the wire. -/
theorem Captures.own_apart
    (captures : key.Captures style other)
    (usual : style ∈ [KeyStyle.camel, KeyStyle.same])
    (named : key.name.isName = true)
    (otherNamed : other.name.isName = true) :
    key.name.sameKey (style.external other.name) = false := by
  rw [← Bool.not_eq_true]
  intro same
  obtain ⟨enumeration, label, name⟩ := captures.exists_member usual named
  rw [name, Value.sameKey_member] at same
  rcases KeyStyle.external_cases usual otherNamed with
    ⟨otherEnumeration, otherLabel, content, otherName, called⟩ | ⟨wire, called, -⟩
  · have around := captures.called
    rw [otherName, Value.sameKey_member_right, ← called, same] at around
    have size := congrArg sizeOf around
    simp only [Value.member.sizeOf_spec] at size
    omega
  · rw [called] at same
    cases same

/-- The name on the wire of a key that captures is not the other's. -/
theorem Captures.wire_apart
    (captures : key.Captures style other)
    (usual : style ∈ [KeyStyle.camel, KeyStyle.same])
    (otherNamed : other.name.isName = true) :
    (style.external key.name).sameKey (style.external other.name) = false := by
  rw [← Bool.not_eq_true]
  intro same
  rcases KeyStyle.external_cases usual otherNamed with
    ⟨enumeration, label, content, name, called⟩ | ⟨wire, called, stays⟩
  · have around := captures.called
    rw [name, Value.sameKey_member_right] at around
    rw [around, called, Value.sameKey_member] at same
    exact ne_member same
  · rw [called, Value.sameKey_text_right] at same
    have around := captures.called
    have moved := captures.moved
    rw [same, Value.sameKey_text] at around
    rw [around, stays, Value.sameKey_self] at moved
    cases moved

/-- A key that captures the entry of the other finds nothing, as long as the entry is under the
name of the other on the wire. -/
theorem Captures.collect_revealed
    (captures : key.Captures style other)
    (usual : style ∈ [KeyStyle.camel, KeyStyle.same])
    (told : AreTold keys)
    (member : key ∈ keys)
    (otherMember : other ∈ keys) :
    key.collect style (.map (revealed style keys other)) = .ok none := by
  have named := told.named key member
  have otherNamed := told.named other otherMember
  have usable := Value.isKey_of_sameKey otherNamed captures.called
  have own (entry : Value × Value) (inside : entry ∈ revealed style keys other) :
      key.name.sameKey entry.1 = false := by
    rcases mem_revealed.mp inside with ⟨third, present, unusable, rfl⟩ | rfl
    · rw [← Bool.not_eq_true]
      intro same
      rw [eq_of_sameKey told.distinct told.named member present same, usable] at unusable
      cases unusable
    · exact captures.own_apart usual named otherNamed
  have wire (entry : Value × Value) (inside : entry ∈ revealed style keys other) :
      (style.external key.name).sameKey entry.1 = false := by
    rcases mem_revealed.mp inside with ⟨third, present, unusable, rfl⟩ | rfl
    · rw [← Bool.not_eq_true]
      intro same
      rcases KeyStyle.external_cases usual (told.named third present) with
        ⟨enumeration, label, content, name, -⟩ | ⟨text, called, -⟩
      · have around := captures.called
        rw [name, Value.sameKey_member_right, ← name] at same
        rw [same] at around
        rw [← eq_of_sameKey told.distinct told.named present otherMember around,
          captures.usable] at unusable
        cases unusable
      · rw [called] at unusable
        cases unusable
    · exact captures.wire_apart usual otherNamed
  refine collect_eq_none.mpr ⟨?_, ?_⟩
  · rw [Value.entry?_map (Value.isKey_of_isName (told.named key member)), Entries.get?,
      List.find?_eq_none.mpr fun entry inside => by simp [own entry inside]]
    rfl
  · rw [Value.entry?_map usable, Entries.get?,
      List.find?_eq_none.mpr fun entry inside => by simp [wire entry inside]]
    rfl

/-- Entries do not settle if one is captured: at first only the other key finds the entry, and the
second time both do. -/
theorem Captures.not_settles
    (captures : key.Captures style other)
    (usual : style ∈ [KeyStyle.camel, KeyStyle.same])
    (told : AreTold keys)
    (member : key ∈ keys)
    (otherMember : other ∈ keys) :
    ¬ style.Settles keys := by
  intro settles
  have collects (third : Key) (present : third ∈ keys) :
      ∃ taken, third.collect style (.map (revealed style keys other)) = .ok taken :=
    exists_collect_revealed told present
  choose! found each using collects
  have again := KeyStyle.settles_iff.mp settles _ _ (atomizeKeys_of_collect each)
  have nothing : found key = none :=
    Except.ok.inj
      ((each key member).symm.trans (captures.collect_revealed usual told member otherMember))
  obtain ⟨value, taken⟩ : ∃ value, found other = some value := by
    rw [← Option.ne_none_iff_exists']
    intro missing
    exact collect_revealed_ne_none captures.usable (missing ▸ each other otherMember)
  have here := collect_entries_of_again told again member
  rw [nothing] at here
  have absent := (collect_eq_none.mp here).2
  rw [Value.entry?_map (Value.isKey_of_sameKey (told.named other otherMember) captures.called),
    Except.ok.injEq] at absent
  have inside : (other.name, value) ∈ entries keys found :=
    List.mem_filterMap.mpr ⟨other, otherMember, by rw [taken]; rfl⟩
  have apart := sameKey_eq_false_of_get? absent inside
  rw [captures.called] at apart
  cases apart

end Capturing

end Key

/-! ## The result -/

/-- A room with a number, under which a map in place has a whole number for a key and a member
of an enumeration. -/
def roomSpec : Spec :=
  .map
    [(.text "room_number", .text "any"),
    (.text "beds",
      .map
        [(.int 1, .text "any"),
        (.tuple [.text "optional", .member "Bed" "SPARE" (.text "spare_bed")], .text "any")])]

/-- The key of the beds in what is compiled from `roomSpec`. -/
def bedsKey : Key :=
  .mk [] (.text "beds") .required
    (.map [.typeCheck .map]
      [.mk [.text "beds"] (.int 1) .required (.primitive .any [.typeCheck .any]) false,
      .mk [.text "beds"] (.member "Bed" "SPARE" (.text "spare_bed")) .optional
        (.primitive .any [.typeCheck .any]) false]
      true .camel)
    true

/-- What is compiled from `roomSpec`, with names on the wire. -/
def room : Schema :=
  .map [.typeCheck .map]
    [.mk [] (.text "room_number") .required (.primitive .any [.typeCheck .any]) false, bedsKey]
    true .camel

theorem compile_room :
    Compiler.standard.compile roomSpec ⟨some (.bool true), none, []⟩ = .ok room := by
  simp [roomSpec, Compiler.compile, Compiler.compileSpec, Compiler.compileMap,
    Compiler.compileKeys, Compiler.compileEntry, Compiler.compileName, Compiler.declaredKey]
  rfl

/-- A room under names on the wire, with an entry that is not declared. -/
def givenRoom : Entries :=
  [(.text "beds", .map [(.text "spare_bed", .null), (.text "1", .text "wide")]),
  (.text "roomNumber", .int 12), (.text "key", .null)]

/-- The entries of `givenRoom` under own names. -/
def collectedRoom : Entries :=
  [(.text "room_number", .int 12),
  (.text "beds",
    .map [(.int 1, .text "wide"), (.member "Bed" "SPARE" (.text "spare_bed"), .null)])]

/-- At every level of a room names are told apart, and no entry is captured. -/
theorem level_room
    {level : List Key}
    (inside : Key.IsLevelOf level room.keys) :
    Key.AreTold level ∧ ∀ key ∈ level, ∀ other ∈ level, ¬ key.Captures .camel other := by
  rcases inside with _ | ⟨member, deeper⟩
  · decide
  rcases List.mem_pair.mp member with rfl | rfl
  · rw [Key.eq_nil_of_isLevelOf deeper]
    decide
  rcases deeper with _ | ⟨member, deeper⟩
  · decide
  rcases List.mem_pair.mp member with rfl | rfl <;>
    · rw [Key.eq_nil_of_isLevelOf deeper]
      decide

/-- A guest with a given name, which may be known under its content. -/
def guestSpec : Spec :=
  .map
    [(.text "guest",
      .map
        [(.tuple [.text "optional", .member "Key" "GIVEN" (.text "first_name")], .text "any"),
        (.text "first_name", .text "any")])]

/-- What is compiled from `guestSpec`, with names on the wire. -/
def guest : Schema :=
  .map [.typeCheck .map]
    [.mk [] (.text "guest") .required
      (.map [.typeCheck .map]
        [.mk [.text "guest"] (.member "Key" "GIVEN" (.text "first_name")) .optional
          (.primitive .any [.typeCheck .any]) false,
        .mk [.text "guest"] (.text "first_name") .required
          (.primitive .any [.typeCheck .any]) false]
        true .camel)
      true]
    true .camel

end DataContract
