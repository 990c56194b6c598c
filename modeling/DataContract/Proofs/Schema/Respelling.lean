import DataContract.Proofs.Schema.Entries

/-!
# Respelled values

A map that renames its keys takes an entry under the name of a key or under its name on the
wire. If the names of the keys and their names on the wire do not clash, it makes no
difference which of the two names is used for which key, at any depth: each key finds the
same entry, up to the spelling of what is in it, and whatever is put together from the
entries has the names of the keys.
-/

namespace DataContract

/-! ## Related lists -/

section Related

variable
  {α β : Type}
  {related : α → β → Prop}
  {items : List α}
  {others : List β}

/-- Searches that agree on related items find related items. -/
theorem rel_find?
    {test : α → Bool}
    {otherTest : β → Bool}
    (each : List.Forall₂ related items others)
    (agree : ∀ item ∈ items, ∀ other, related item other → otherTest other = test item) :
    Option.Rel (fun item other => related item other ∧ test item = true)
      (items.find? test) (others.find? otherTest) := by
  induction each with
  | nil => exact .none
  | @cons item other items others here _ hypothesis =>
      rw [List.forall_mem_cons] at agree
      rw [List.find?_cons, List.find?_cons, agree.1 other here]
      cases tested : test item with
      | true => exact .some ⟨here, tested⟩
      | false => exact hypothesis agree.2

/-- Related first choices, and related second ones, make related choices. -/
theorem rel_or
    {first second : Option α}
    {other otherSecond : Option β}
    (firstRelated : Option.Rel related first other)
    (secondRelated : Option.Rel related second otherSecond) :
    Option.Rel related (first.or second) (other.or otherSecond) := by
  cases firstRelated with
  | some here => exact .some here
  | none => exact secondRelated

end Related

namespace Schema

mutual

/-- Whether two values are the same but for the spelling of names: at every map that a
schema comes to through lists and keys, some of the declared keys have their name on the
wire in the second value, where there was no entry under that name. -/
def Respells : Schema → Value → Value → Prop
  | .list _ member, value, other =>
      match value, other with
      | .list items, .list others => List.Forall₂ member.Respells items others
      | .tuple items, .tuple others => List.Forall₂ member.Respells items others
      | _, _ => other = value
  | .map _ keys _ style, value, other =>
      match value, other with
      | .map entries, .map others =>
          ∃ chosen : Value → Bool,
            (∀ name, chosen name = true →
              (∃ key ∈ keys, key.name = name) ∧
                Entries.has entries (style.external name) = false) ∧
            List.Forall₂
              (fun entry other =>
                other.1 = (if chosen entry.1 then style.external entry.1 else entry.1) ∧
                  PartRespells style keys entry.1 entry.2 other.2)
              entries others
      | _, _ => other = value
  | _, value, other => other = value

/-- Whether two values under a name are the same, or the same but for spelling for the
schema of a key that the name belongs to. -/
def PartRespells
    (style : KeyStyle) : List Key → Value → Value → Value → Prop
  | [], _, value, other => other = value
  | .mk _ name _ type _ :: rest, found, value, other =>
      (found = name ∨ found = style.external name) ∧ type.Respells value other ∨
        PartRespells style rest found value other

end

theorem partRespells_iff
    {style : KeyStyle}
    {keys : List Key}
    {found value other : Value} :
    PartRespells style keys found value other ↔
      other = value ∨
        ∃ key ∈ keys, (found = key.name ∨ found = style.external key.name) ∧
          key.type.Respells value other := by
  induction keys with
  | nil => simp [PartRespells]
  | cons key rest hypothesis =>
      cases key
      simp only [PartRespells, hypothesis, List.exists_mem_cons_iff, Key.name_mk, Key.type_mk]
      exact or_left_comm

/-- A value is spelled as itself. -/
theorem respells_self
    (schema : Schema)
    (value : Value) :
    schema.Respells value value := by
  induction schema generalizing value with
  | list chain member hypothesis =>
      cases value <;> simp [Respells, hypothesis]
  | map chain keys atomize style _ =>
      cases value with
      | map entries =>
          refine ⟨fun _ => false, by simp, List.forall₂_same.mpr fun entry _ => ?_⟩
          exact ⟨rfl, partRespells_iff.mpr (.inl rfl)⟩
      | _ => simp [Respells]
  | _ => simp [Respells]

end Schema

/-- Whether the names of keys are texts and clash neither with each other nor with own
names when they are on the wire. -/
structure Key.AreSpelledApart (keys : List Key) : Prop where
  /-- The names are texts. -/
  named : AreNamed keys
  /-- Different names are called differently on the wire. -/
  external : ∀ key ∈ keys, ∀ other ∈ keys,
    KeyStyle.camel.external key.name = KeyStyle.camel.external other.name →
      key.name = other.name
  /-- No name is called on the wire as another is named. -/
  own : ∀ key ∈ keys, ∀ other ∈ keys,
    KeyStyle.camel.external key.name = other.name → key.name = other.name

/-- A single name does not clash. -/
theorem Key.areSpelledApart_singleton
    {key : Key}
    {name : String}
    (called : key.name = .text name) :
    AreSpelledApart [key] where
  named := List.forall_mem_singleton.mpr ⟨name, called⟩
  external := by simp
  own := by simp

section Entries

variable
  {keys : List Key}
  {chosen : Value → Bool}
  {entries others : Entries}

/-- Whether an entry is the same as another but for spelling, with another name if its name
is a chosen one. -/
def EntryRespells
    (keys : List Key)
    (chosen : Value → Bool)
    (entry other : Value × Value) : Prop :=
  other.1 = (if chosen entry.1 then KeyStyle.camel.external entry.1 else entry.1) ∧
    Schema.PartRespells .camel keys entry.1 entry.2 other.2

/-- Whether names can be replaced by those on the wire in a map: they are names of keys, and
there is no entry under the name on the wire. -/
def AreReplaceable
    (keys : List Key)
    (entries : Entries)
    (chosen : Value → Bool) : Prop :=
  ∀ name, chosen name = true →
    (∃ key ∈ keys, key.name = name) ∧ Entries.has entries (KeyStyle.camel.external name) = false

/-- The name of a key can be replaced alone if there is no entry under its name on the
wire. -/
theorem areReplaceable_name
    {key : Key}
    (member : key ∈ keys)
    (absent : entries.has (KeyStyle.camel.external key.name) = false) :
    AreReplaceable keys entries (· == key.name) := by
  intro name same
  obtain rfl := eq_of_beq same
  exact ⟨⟨key, member, rfl⟩, absent⟩

/-- There is no entry with a name under which a map has none. -/
theorem ne_of_has_eq_false
    {name : Value}
    (absent : entries.has name = false)
    {entry : Value × Value}
    (inside : entry ∈ entries) :
    entry.1 ≠ name := by
  rintro rfl
  have search : entries.find? (fun other => entry.1.sameKey other.1) = none := by
    simpa [Entries.has, Entries.get?] using absent
  exact absurd (Value.sameKey_self entry.1) (List.find?_eq_none.mp search entry inside)

section Names

variable
  {key : Key}
  {entry other : Value × Value}

/-- An entry has the own name of a key in the new spelling if it had it before and that
name was not replaced. -/
theorem EntryRespells.own_name_iff
    (respelled : EntryRespells keys chosen entry other)
    (apart : Key.AreSpelledApart keys)
    (replaceable : AreReplaceable keys entries chosen)
    (inside : entry ∈ entries)
    (member : key ∈ keys) :
    other.1 = key.name ↔ chosen key.name = false ∧ entry.1 = key.name := by
  rw [respelled.1]
  cases replaced : chosen entry.1 with
  | false =>
      simp only [Bool.false_eq_true, if_false]
      constructor
      · intro same
        exact ⟨same ▸ replaced, same⟩
      · exact fun both => both.2
  | true =>
      obtain ⟨⟨first, present, called⟩, absent⟩ := replaceable entry.1 replaced
      simp only [if_true]
      constructor
      · intro same
        rw [← called] at same
        have own := apart.own first present key member same
        rw [← called, same, ← own, called] at absent
        exact absurd rfl (ne_of_has_eq_false absent inside)
      · rintro ⟨kept, same⟩
        rw [same, kept] at replaced
        cases replaced

/-- An entry has the name of a key on the wire in the new spelling if it had the name that
is now spelled so. -/
theorem EntryRespells.external_name_iff
    (respelled : EntryRespells keys chosen entry other)
    (apart : Key.AreSpelledApart keys)
    (replaceable : AreReplaceable keys entries chosen)
    (inside : entry ∈ entries)
    (member : key ∈ keys) :
    other.1 = KeyStyle.camel.external key.name ↔
      entry.1 = if chosen key.name then key.name else KeyStyle.camel.external key.name := by
  rw [respelled.1]
  cases replaced : chosen entry.1 with
  | false =>
      simp only [Bool.false_eq_true, if_false]
      cases also : chosen key.name with
      | false => simp
      | true =>
          simp only [if_true]
          constructor
          · intro same
            exact absurd same (ne_of_has_eq_false (replaceable key.name also).2 inside)
          · intro same
            rw [same, also] at replaced
            cases replaced
  | true =>
      obtain ⟨⟨first, present, called⟩, -⟩ := replaceable entry.1 replaced
      simp only [if_true]
      rw [← called] at replaced ⊢
      cases also : chosen key.name with
      | false =>
          simp only [Bool.false_eq_true, if_false]
          constructor
          · intro same
            rw [apart.external first present key member same, also] at replaced
            cases replaced
          · intro same
            rw [← apart.own key member first present same.symm, also] at replaced
            cases replaced
      | true =>
          simp only [if_true]
          constructor
          · exact apart.external first present key member
          · intro same
            rw [same]

/-- The values under a name of a key are spelled for the schema of that key. -/
theorem EntryRespells.value
    (respelled : EntryRespells keys chosen entry other)
    (apart : Key.AreSpelledApart keys)
    (distinct : keys.Pairwise fun earlier later => later.name.sameKey earlier.name = false)
    (member : key ∈ keys)
    (belongs : entry.1 = key.name ∨ entry.1 = KeyStyle.camel.external key.name) :
    key.type.Respells entry.2 other.2 := by
  rcases Schema.partRespells_iff.mp respelled.2 with same | ⟨owner, present, owns, respelled⟩
  · rw [same]
    exact key.type.respells_self entry.2
  · have called : owner.name = key.name := by
      rcases belongs with mine | mine <;> rcases owns with its | its
      · exact its.symm.trans mine
      · exact apart.own owner present key member (its.symm.trans mine)
      · exact (apart.own key member owner present (mine.symm.trans its)).symm
      · exact apart.external owner present key member (its.symm.trans mine)
    have same : key.name.sameKey owner.name = true := by
      rw [called, Value.sameKey_self]
    rwa [← Key.eq_of_sameKey distinct apart.named.isName member present same]

end Names

/-- What is found under a text is an entry with that name. -/
theorem Entries.get?_text
    {entries : Entries}
    {name : String} :
    entries.get? (.text name) =
      (entries.find? fun entry => decide (entry.1 = .text name)).map Prod.snd := by
  unfold Entries.get?
  congr 2
  funext entry
  rw [Bool.eq_iff_iff, Value.sameKey_text, decide_eq_true_iff]

/-- What a map has for a key, under its own name or else under its name on the wire. -/
theorem entryFor?_map
    {key : Key}
    {name : String}
    (called : key.name = .text name) :
    (Value.map entries).entryFor? .camel key.name =
      .ok ((entries.get? (.text name)).or (entries.get? (.text (camelize name)))) := by
  rw [called, Value.entryFor?, Value.entry?_map rfl, Attempt.ok_bind]
  cases entries.get? (.text name) with
  | some value => rfl
  | none => exact Value.entry?_map rfl

section Found

variable {key : Key}

/-- If a name of a key in one spelling stands for a name in the other, the same is found
under both, up to spelling. -/
theorem rel_get?
    (apart : Key.AreSpelledApart keys)
    (distinct : keys.Pairwise fun earlier later => later.name.sameKey earlier.name = false)
    (respelled : List.Forall₂ (EntryRespells keys chosen) entries others)
    (member : key ∈ keys)
    {name otherName : String}
    (belongs : .text name = key.name ∨ .text name = KeyStyle.camel.external key.name)
    (stands : ∀ entry ∈ entries, ∀ other, EntryRespells keys chosen entry other →
      (other.1 = .text otherName ↔ entry.1 = .text name)) :
    Option.Rel key.type.Respells (entries.get? (.text name)) (others.get? (.text otherName)) := by
  rw [Entries.get?_text, Entries.get?_text]
  have search :
      Option.Rel _ (entries.find? fun entry => decide (entry.1 = .text name))
        (others.find? fun other => decide (other.1 = .text otherName)) :=
    rel_find? respelled fun entry inside other here =>
      decide_eq_decide.mpr (stands entry inside other here)
  revert search
  generalize entries.find? _ = found
  generalize others.find? _ = otherFound
  rintro (⟨here, same⟩ | -)
  · rw [← of_decide_eq_true same] at belongs
    exact .some (here.value apart distinct member belongs)
  · exact .none

/-- Each key finds the same entry in both spellings, up to the spelling of what is in
it. -/
theorem rel_entryFor?
    (apart : Key.AreSpelledApart keys)
    (distinct : keys.Pairwise fun earlier later => later.name.sameKey earlier.name = false)
    (replaceable : AreReplaceable keys entries chosen)
    (respelled : List.Forall₂ (EntryRespells keys chosen) entries others)
    (member : key ∈ keys) :
    ∃ found otherFound, (Value.map entries).entryFor? .camel key.name = .ok found ∧
      (Value.map others).entryFor? .camel key.name = .ok otherFound ∧
      Option.Rel key.type.Respells found otherFound := by
  obtain ⟨name, called⟩ := apart.named key member
  have external : KeyStyle.camel.external key.name = .text (camelize name) := by
    rw [called]
    rfl
  have own (entry : Value × Value) (inside : entry ∈ entries) (other : Value × Value)
      (here : EntryRespells keys chosen entry other) :=
    here.own_name_iff apart replaceable inside member
  have wire (entry : Value × Value) (inside : entry ∈ entries) (other : Value × Value)
      (here : EntryRespells keys chosen entry other) :=
    here.external_name_iff apart replaceable inside member
  rw [external] at wire
  rw [called] at own wire
  refine ⟨_, _, entryFor?_map called, entryFor?_map called, ?_⟩
  cases replaced : chosen (.text name) with
  | false =>
      simp only [replaced, true_and, Bool.false_eq_true, if_false] at own wire
      have ownRel := rel_get? apart distinct respelled member (.inl called.symm) own
      have wireRel := rel_get? apart distinct respelled member (.inr external.symm) wire
      exact rel_or ownRel wireRel
  | true =>
      simp only [replaced, Bool.true_eq_false, false_and, if_true] at own wire
      have absent : entries.get? (.text (camelize name)) = none :=
        Option.isNone_iff_eq_none.mp
          (Option.isSome_eq_false_iff.mp (replaceable (.text name) replaced).2)
      have gone : others.get? (.text name) = none := by
        rw [Entries.get?_text, Option.map_eq_none_iff]
        have search :
            Option.Rel _ (entries.find? fun _ => false)
              (others.find? fun other => decide (other.1 = .text name)) :=
          rel_find? respelled fun entry inside other here =>
            decide_eq_false fun same => (own entry inside other here).mp same
        have nowhere : entries.find? (fun _ => false) = none :=
          List.find?_eq_none.mpr fun _ _ => Bool.false_ne_true
        rw [nowhere] at search
        generalize others.find? _ = found at search ⊢
        cases search
        rfl
      rw [absent, gone, Option.or_none, Option.none_or]
      exact rel_get? apart distinct respelled member (.inl called.symm) wire

/-- Each key collects the same entry from both spellings, up to spelling, if what its schema
makes of the entry has both spellings again. -/
theorem rel_collect
    (apart : Key.AreSpelledApart keys)
    (distinct : keys.Pairwise fun earlier later => later.name.sameKey earlier.name = false)
    (replaceable : AreReplaceable keys entries chosen)
    (respelled : List.Forall₂ (EntryRespells keys chosen) entries others)
    (member : key ∈ keys)
    (renames : ∀ value other, key.type.Respells value other →
      ∃ renamed otherRenamed, key.type.atomizeInline .camel value = .ok renamed ∧
        key.type.atomizeInline .camel other = .ok otherRenamed ∧
        key.type.Respells renamed otherRenamed) :
    ∃ taken otherTaken, key.collect .camel (.map entries) = .ok taken ∧
      key.collect .camel (.map others) = .ok otherTaken ∧
      Option.Rel key.type.Respells taken otherTaken := by
  obtain ⟨found, otherFound, looked, otherLooked, here⟩ :=
    rel_entryFor? apart distinct replaceable respelled member
  rw [Key.collect, Key.collect, looked, otherLooked]
  cases here with
  | none => exact ⟨none, none, rfl, rfl, .none⟩
  | @some value other here =>
      simp only [Attempt.ok_bind, Attempt.map_eq_ok, Key.rename]
      cases key.inline with
      | false => exact ⟨some value, some other, ⟨value, rfl, rfl⟩, ⟨other, rfl, rfl⟩, .some here⟩
      | true =>
          obtain ⟨renamed, otherRenamed, made, otherMade, again⟩ := renames value other here
          exact ⟨some renamed, some otherRenamed, ⟨renamed, made, rfl⟩,
            ⟨otherRenamed, otherMade, rfl⟩, .some again⟩

end Found

/-- The entries that a map collects from both spellings have the names of its keys, and what
is under them is spelled in both ways. -/
theorem atomizeKeys_respelled
    (apart : Key.AreSpelledApart keys)
    (distinct : keys.Pairwise fun earlier later => later.name.sameKey earlier.name = false)
    (replaceable : AreReplaceable keys entries chosen)
    (respelled : List.Forall₂ (EntryRespells keys chosen) entries others)
    (renames : ∀ key ∈ keys, ∀ value other, key.type.Respells value other →
      ∃ renamed otherRenamed, key.type.atomizeInline .camel value = .ok renamed ∧
        key.type.atomizeInline .camel other = .ok otherRenamed ∧
        key.type.Respells renamed otherRenamed) :
    ∃ taken otherTaken,
      atomizeKeys .camel keys (.map entries) = .ok (Key.entries keys taken) ∧
      atomizeKeys .camel keys (.map others) = .ok (Key.entries keys otherTaken) ∧
      ∀ key ∈ keys, Option.Rel key.type.Respells (taken key) (otherTaken key) := by
  have each := fun key member =>
    rel_collect apart distinct replaceable respelled member (renames key member)
  choose! taken otherTaken collects otherCollects related using each
  exact ⟨taken, otherTaken, atomizeKeys_of_collect collects,
    atomizeKeys_of_collect otherCollects, related⟩

end Entries

end DataContract
