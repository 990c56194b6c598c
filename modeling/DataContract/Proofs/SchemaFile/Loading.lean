import DataContract.Document.Discovery
import DataContract.Proofs.SchemaFile.Refusal
import DataContract.SchemaFile.Load

/-!
# Loaded schema files

A schema file is to be read as the keys of its document, as no keys if there is no document
in it, and to be refused with a message otherwise. A document that counts as false is taken
for none before its kind is looked at, and what the reader stops with inside a scalar or an
undecodable block is passed on as it is. All other files are loaded as they are to be, whatever
reads their documents.
-/

namespace DataContract
namespace SchemaFile

open Attempt Document

/-- The document in a file with a content, if it can be read: the absent value if there is
none. -/
def documentOf?
    (reader : Reader)
    (content : List UInt8) : Option Value :=
  match reader content with
  | .ok document => some (document.elim .null unfold)
  | .error _ => none

/-- Whether the result of loading a file is that which its document promises: its keys, or
what is wrong with one of them, for a mapping; no keys for the absent value; and a message for
any other document, and for none that can be read. -/
def IsPromised
    (location : String)
    (document : Option Value)
    (result : Attempt Spec) : Prop :=
  match document with
  | some (.map keys) => result = (parseKeys location keys).map .map ∧ TellsMistakes result
  | some .null => result = .ok (.map [])
  | _ => ∃ cause, result = .error (.definition cause)

/-- Whether a document stands for the mapping without keys. -/
def StandsForNothing (document : Value) : Prop :=
  document = .null ∨ document = .map []

section Document

variable {location : String}

/-- What a file comes to if it can be read is what its document comes to. -/
theorem load_of_documentOf?
    {reader : Reader}
    {content : List UInt8}
    {document : Value}
    (found : documentOf? reader content = some document) :
    load reader location (some content) = ofDocument location document := by
  cases read : reader content with
  | ok given =>
      rw [documentOf?, read] at found
      rw [load, readContent, read, Attempt.ok_bind, Option.some.inj found]
  | error problem =>
      rw [documentOf?, read] at found
      cases found

/-- A map counts as true unless it has no entries. -/
theorem truthy_map
    (entries : Entries) :
    (Value.map entries).truthy = !entries.isEmpty := by
  cases entries <;> rfl

/-- The keys of a mapping that is nowhere inside itself are read. -/
theorem ofDocument_map
    {document : Entries}
    (tame : IsTame (.map document)) :
    ofDocument location (.map document) = (parseKeys location document).map .map := by
  rw [ofDocument, truthy_map]
  cases document with
  | nil => simp [parseKeys, Except.map]
  | cons entry rest =>
      cases parsed : parseKeys location (entry :: rest) with
      | error fault => simp [parseDocument, parsed, Except.map]
      | ok keys =>
          have loaded : IsLoaded IsTame (fun _ => True) (.map keys) :=
            isLoaded_of_parseKeys isPervasive_isTame tame (fun _ _ _ _ _ _ => trivial) parsed
          have unsigned := hasSign_eq_false (loaded.holds isPervasive_isTame).2
          simp [parseDocument, parsed, Except.map, unsigned]

/-- A document that is no mapping is refused unless it counts as false. -/
theorem ofDocument_other
    {document : Value}
    (unmapped : ∀ keys, document ≠ .map keys) :
    ofDocument location document =
      if document.truthy then refuse (.schemaFileNotMapped location) else .ok (.map []) := by
  rw [ofDocument]
  · cases document.truthy <;> rfl
  · exact unmapped

/-- A document is loaded as promised unless it counts as false and stands for something. -/
theorem ofDocument_isPromised_iff
    {document : Value}
    (tame : ∀ keys, document = .map keys → IsTame document) :
    IsPromised location (some document) (ofDocument location document) ↔
      (document.truthy = false → StandsForNothing document) := by
  by_cases mapped : ∃ keys, document = .map keys
  · obtain ⟨keys, rfl⟩ := mapped
    have tame := tame keys rfl
    have empty : (Value.map keys).truthy = false → StandsForNothing (.map keys) := by
      intro falsy
      rw [truthy_map, Bool.not_eq_false', List.isEmpty_iff] at falsy
      exact .inr (by rw [falsy])
    rw [IsPromised, ofDocument_map tame]
    exact iff_of_true ⟨rfl, (tellsMistakes_parseDocument tame location).map⟩ empty
  by_cases absent : document = .null
  · subst absent
    exact iff_of_true rfl fun _ => .inl rfl
  · have something : ¬ StandsForNothing document := by
      rintro (same | same)
      · exact absent same
      · exact mapped ⟨[], same⟩
    have promise (result : Attempt Spec) : IsPromised location (some document) result ↔
        ∃ cause, result = .error (.definition cause) := by
      unfold IsPromised
      split
      · rename_i keys same
        exact absurd ⟨keys, Option.some.inj same⟩ mapped
      · rename_i same
        exact absurd (Option.some.inj same) absent
      · rfl
    rw [promise, ofDocument_other fun keys same => mapped ⟨keys, same⟩]
    cases document.truthy with
    | false => simp [something]
    | true => simp [refuse, DefinitionFault.values]

end Document

/-- Whether the reader stops inside a scalar or an undecodable block, with a fault that is no
mistake in a definition. -/
def BreaksReader
    (reader : Reader)
    (content : List UInt8) : Prop :=
  ∃ fault, reader content = .error (.content fault) ∧ fault.isDefinition = false

/-- A file is loaded as its document promises exactly if nothing inside a scalar breaks the
reader and its document does not count as false while it stands for something; a mapping must be
writable and nowhere inside itself. -/
theorem load_isPromised_iff
    (reader : Reader)
    (location : String)
    (content : List UInt8)
    (writable : ∀ keys, documentOf? reader content = some (.map keys) →
      (Value.map keys).isWritable = true)
    (acyclic : ∀ keys, documentOf? reader content = some (.map keys) → (Value.map keys).IsAcyclic) :
    IsPromised location (documentOf? reader content) (load reader location (some content)) ↔
      ¬ BreaksReader reader content ∧
        ∀ document, documentOf? reader content = some document → document.truthy = false →
          StandsForNothing document := by
  cases read : reader content with
  | ok document =>
      have found : documentOf? reader content = some (document.elim .null unfold) := by
        rw [documentOf?, read]
      have sound : ¬ BreaksReader reader content := by
        rintro ⟨fault, broken, -⟩
        rw [read] at broken
        cases broken
      rw [found, load_of_documentOf? found, ofDocument_isPromised_iff]
      · simp [sound]
      · intro keys same
        rw [same] at found ⊢
        exact ⟨writable keys found, acyclic keys found⟩
  | error problem =>
      have missing : documentOf? reader content = none := by
        rw [documentOf?, read]
      have promise (result : Attempt Spec) : IsPromised location none result ↔
          ∃ cause, result = .error (.definition cause) := Iff.rfl
      have loaded : load reader location (some content) =
          readContent reader location content >>= ofDocument location := rfl
      simp only [missing, promise, loaded, readContent, BreaksReader, read]
      cases problem with
      | content fault =>
          cases fault <;> simp [Fault.isDefinition]
      | _ => simp [refuse, DefinitionFault.values]

/-- A file with a document that declares an age. -/
def ageContent : List UInt8 := "age: integer".toUTF8.toList

theorem documentOf?_age :
    documentOf? .indented ageContent = some (.map [(.text "age", .text "integer")]) := by
  decide +kernel

theorem load_isPromised_iff_age :
    IsPromised "<file>" (documentOf? .indented ageContent)
      (load .indented "<file>" (some ageContent)) := by
  have sound : ¬ BreaksReader .indented ageContent := by
    rintro ⟨fault, broken, -⟩
    have found := documentOf?_age
    rw [documentOf?, broken] at found
    cases found
  have document {keys : Entries} (found : documentOf? .indented ageContent = some (.map keys)) :
      Value.map keys = .map [(.text "age", .text "integer")] :=
    Option.some.inj (found.symm.trans documentOf?_age)
  refine (load_isPromised_iff .indented "<file>" ageContent ?_ ?_).mpr ⟨sound, ?_⟩
  · intro keys found
    rw [document found]
    rfl
  · intro keys found
    rw [document found, Value.isPervasive_isAcyclic.map]
    simp [Value.IsAcyclic.scalar]
  · intro document found falsy
    rw [documentOf?_age] at found
    cases found
    cases falsy

/-- A list without items is no mapping, but it counts as false and is taken for one. -/
theorem load_list_without_items :
    load .indented "<file>" (some "[]".toUTF8.toList) = .ok (.map []) ∧
      ¬ IsPromised "<file>" (documentOf? .indented "[]".toUTF8.toList)
        (load .indented "<file>" (some "[]".toUTF8.toList)) := by
  have document : documentOf? .indented "[]".toUTF8.toList = some (.list []) := by
    decide +kernel
  have loaded : load .indented "<file>" (some "[]".toUTF8.toList) = .ok (.map []) :=
    load_of_documentOf? document
  refine ⟨loaded, ?_⟩
  rw [document, loaded]
  rintro ⟨cause, refused⟩
  cases refused

end SchemaFile
end DataContract
