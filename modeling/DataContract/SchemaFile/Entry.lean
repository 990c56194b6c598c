import DataContract.Spec.Basic

/-!
# Entries of schema files

A schema file maps names of keys to entries. An entry is the name of a type, a
map with reserved words that describes a type, or a map of further keys; a
question mark in front of a name makes the key optional. Entries are read as
specifications. Predicates beside a union apply to all its alternatives, and
beside a cast to its output.
-/

namespace DataContract
namespace SchemaFile

/-- The words that make a map the description of a type. -/
def reservedWords : List String := ["type", "predicates", "list", "union", "cast", "map"]

/-- Whether a map describes a type. -/
def describesType (entries : Entries) : Bool :=
  reservedWords.any fun word => entries.has (.text word)

/-- The presence and the name that a name in a schema file declares. -/
def declared (name : Value) : Presence × Value :=
  match name with
  | .text content =>
      match content.toList with
      | '?' :: rest => (.optional, .text (String.ofList rest))
      | _ => (.required, name)
  | _ => (.required, name)

/-- The key of a map specification with a presence. -/
def keyOf (key : Presence × Value) : Value :=
  .tuple [.text key.1.name, key.2]

/-- One predicate of an entry: a name, or a map of one name to one argument. -/
def predicateOf (location : String) (item : Value) : Attempt Spec :=
  match item with
  | .text _ => .ok (.ofValue item)
  | .map [(name, arg)] => .ok (.tuple [.ofValue name, .ofValue arg])
  | _ => refuse (.malformedEntryPredicate location item)

/-- The predicates of an entry; a single one need not be in a list. -/
def predicatesOf (location : String) (given : Option Value) : Attempt (List Spec) :=
  match given with
  | none => .ok []
  | some (.list items) => items.mapM (predicateOf location)
  | some item => do .ok [← predicateOf location item]

mutual

/-- A specification with further predicates. -/
def constrained
    (location : String)
    (extra : List Spec) : Spec → Attempt Spec
  | .text name => .ok (.tuple [.text "type", .text name, .list extra])
  | .list options => do .ok (.list (← constrainedAll location extra options))
  | .map entries => .ok (.tuple [.text "map", .map entries, .list extra])
  | .tuple [.text "type", part, .list own] =>
      .ok (.tuple [.text "type", part, .list (own ++ extra)])
  | .tuple [.text "list", part, .list own] =>
      .ok (.tuple [.text "list", part, .list (own ++ extra)])
  | .tuple [.text "map", part, .list own] =>
      .ok (.tuple [.text "map", part, .list (own ++ extra)])
  | .tuple [.text "cast", source, output, options] => do
      .ok (.tuple [.text "cast", source, ← constrained location extra output, options])
  | other => refuse (.unconstrainableEntry location other.toValue)

/-- Specifications with further predicates. -/
def constrainedAll
    (location : String)
    (extra : List Spec) : List Spec → Attempt (List Spec)
  | [] => .ok []
  | spec :: rest => do
      let first ← constrained location extra spec
      let others ← constrainedAll location extra rest
      .ok (first :: others)

end

/-- A specification with further predicates, if there are any. -/
def withPredicates
    (location : String)
    (extra : List Spec)
    (spec : Spec) : Attempt Spec :=
  if extra.isEmpty then .ok spec else constrained location extra spec

theorem sizeOf_get?_lt
    (entries : Entries)
    (key value : Value)
    (found : Entries.get? entries key = some value) :
    sizeOf value < sizeOf entries := by
  simp only [Entries.get?, Option.map_eq_some_iff] at found
  obtain ⟨entry, found, rfl⟩ := found
  have member := List.mem_of_find?_eq_some found
  have smaller := List.sizeOf_lt_of_mem member
  have part : sizeOf entry.2 < sizeOf entry := by
    rw [Prod.mk.sizeOf_spec entry.1 entry.2]
    omega
  omega

theorem sizeOf_keys_lt
    (entries keys : Entries)
    (key : Value)
    (found : Entries.get? entries key = some (.map keys)) :
    sizeOf keys < sizeOf entries := by
  have smaller := sizeOf_get?_lt entries key _ found
  simp only [Value.map.sizeOf_spec] at smaller
  omega

theorem sizeOf_items_lt
    (entries : Entries)
    (items : List Value)
    (key : Value)
    (found : Entries.get? entries key = some (.list items)) :
    sizeOf items < sizeOf entries := by
  have smaller := sizeOf_get?_lt entries key _ found
  simp only [Value.list.sizeOf_spec] at smaller
  omega

mutual

/-- Read an entry as a specification. A sign stands for an entry inside itself. -/
def parseEntry (location : String) (entry : Value) : Attempt Spec :=
  match entry with
  | .text name => .ok (.text name)
  | .record .sign _ => .error .endlessDefinition
  | .map entries =>
      if describesType entries then do
        let predicates ← predicatesOf location (Entries.get? entries (.text "predicates"))
        match _foundType : Entries.get? entries (.text "type") with
        | some type => .ok (.tuple [.text "type", .ofValue type, .list predicates])
        | none =>
        match foundList : Entries.get? entries (.text "list") with
        | some member => do
            have _smaller := sizeOf_get?_lt entries _ _ foundList
            let spec ← parseEntry (location ++ "[]") member
            .ok (.tuple [.text "list", spec, .list predicates])
        | none =>
        match foundMap : Entries.get? entries (.text "map") with
        | some (.map keys) => do
            have _smaller := sizeOf_keys_lt entries _ _ foundMap
            .ok (.tuple [.text "map", .map (← parseKeys location keys), .list predicates])
        | some _ => refuse (.mapEntryNotMapped location)
        | none =>
        match foundUnion : Entries.get? entries (.text "union") with
        | some (.list options) =>
            if options.length < 2 then refuse (.unionEntryTooShort location)
            else do
              have _smaller := sizeOf_items_lt entries _ _ foundUnion
              let specs ← parseOptions location options
              withPredicates location predicates (.list specs)
        | some _ => refuse (.unionEntryTooShort location)
        | none =>
        match foundCast : Entries.get? entries (.text "cast") with
        | some given => do
            have _smaller := sizeOf_get?_lt entries _ _ foundCast
            withPredicates location predicates (← parseCast location given)
        | none => refuse (.entryWithoutType location)
      else do .ok (.map (← parseKeys location entries))
  | _ => refuse (.unsupportedEntry location entry)
termination_by sizeOf entry

/-- Read the description of a cast; what it has besides the two types are
options. -/
def parseCast (location : String) (given : Value) : Attempt Spec :=
  match given with
  | .map entries =>
      match
        foundFrom : Entries.get? entries (.text "from"),
        foundTo : Entries.get? entries (.text "to") with
      | some source, some output => do
          have _smallerFrom := sizeOf_get?_lt entries _ _ foundFrom
          have _smallerTo := sizeOf_get?_lt entries _ _ foundTo
          let options := entries.filter fun entry =>
            !(entry.1 == .text "from" || entry.1 == .text "to")
          let source ← parseEntry location source
          let output ← parseEntry location output
          .ok (.tuple [.text "cast", source, output, .map (Spec.ofEntries options)])
      | _, _ => refuse (.castEntryIncomplete location)
  | _ => refuse (.castEntryIncomplete location)
termination_by sizeOf given

/-- Read the alternatives of a union. -/
def parseOptions (location : String) (options : List Value) : Attempt (List Spec) :=
  match options with
  | [] => .ok []
  | option :: rest => do
      let spec ← parseEntry location option
      let others ← parseOptions location rest
      .ok (spec :: others)
termination_by sizeOf options

/-- Read a map of keys. -/
def parseKeys
    (location : String)
    (entries : List (Value × Value)) : Attempt (List (Value × Spec)) :=
  match entries with
  | [] => .ok []
  | (name, entry) :: rest => do
      let key := declared name
      let spec ← parseEntry (location ++ "." ++ (← key.2.write)) entry
      let others ← parseKeys location rest
      .ok ((keyOf key, spec) :: others)
termination_by sizeOf entries

end

/-- Read a whole document, which must be a map of keys. -/
def parseDocument (location : String) (document : Value) : Attempt Spec :=
  match document with
  | .map entries => do .ok (.map (← parseKeys location entries))
  | _ => .error .missingOperation

end SchemaFile
end DataContract
