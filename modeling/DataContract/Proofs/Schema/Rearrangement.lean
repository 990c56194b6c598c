import DataContract.Proofs.Schema.WireName
import Mathlib.Data.List.Find
import Mathlib.Logic.Relation

/-!
# Entries that nobody asks for

A map that does not rename its keys looks each of them up by its name. Entries under other
names are never found, and the order of the entries does not matter, so the outcome of
validation stays the same when such entries come or go and when entries change places, in
maps at any depth. One edit is looked at first; a chain of edits in either direction follows.

As for names on the wire, type checks must accept lists and maps as such, because the failure
of a type check shows the whole value.
-/

namespace DataContract

/-- Whether two values have the same outcome. -/
def Schema.HaveSameOutcome
    (schema : Schema)
    (value other : Value) : Prop :=
  schema.validate other = schema.validate value

namespace Key

/-- Whether a key finds at most one of the entries of a map. -/
def FindsOne
    (key : Key)
    (entries : Entries) : Prop :=
  ∀ entry ∈ entries, key.name.sameKey entry.1 = true →
    ∀ other ∈ entries, key.name.sameKey other.1 = true → entry = other

/-- A key whose name is a text finds at most one of the entries with different names. -/
theorem findsOne_of_text
    {key : Key}
    {name : String}
    (called : key.name = .text name)
    {entries : Entries}
    (distinct : (entries.map Prod.fst).Nodup) :
    key.FindsOne entries := by
  intro entry inside found other present also
  rw [called, Value.sameKey_text] at found also
  exact List.inj_on_of_nodup_map distinct inside present (found.trans also.symm)

/-- A key reports the same about two maps if what is looked up under its name has the same
outcome. -/
theorem report_map_congr
    {key : Key}
    {entries others : Entries}
    (alike : Option.Rel key.type.HaveSameOutcome
      (entries.get? key.name) (others.get? key.name)) :
    key.report (.map others) = key.report (.map entries) := by
  by_cases usable : key.name.isKey = true
  · exact Schema.report_congr (Value.entry?_map usable) (Value.entry?_map usable) alike
      fun _ _ same => same
  · simp [report, Value.entry?, Value.contains, usable]

end Key

namespace Entries

variable
  {before after : Entries}
  {name : Value}

/-- Two lists of entries that differ in one place are looked up with the same result, but for
what is found in that place. -/
theorem get?_middle
    {related : Value → Value → Prop}
    (reflexive : ∀ value, related value value)
    {found value other : Value}
    (here : name.sameKey found = true → related value other) :
    Option.Rel related
      (Entries.get? (before ++ (found, value) :: after) name)
      (Entries.get? (before ++ (found, other) :: after) name) := by
  have same (looked : Option Value) : Option.Rel related looked looked := by
    cases looked with
    | none => exact .none
    | some value => exact .some (reflexive value)
  simp only [Entries.get?, List.find?_append, List.find?_cons]
  cases before.find? fun entry => name.sameKey entry.1 with
  | some entry => exact same _
  | none =>
      cases matched : name.sameKey found with
      | false => exact same _
      | true => exact .some (here matched)

/-- An entry under another name does not get in the way of a look-up. -/
theorem get?_insert
    {entry : Value × Value}
    (differs : name.sameKey entry.1 = false) :
    Entries.get? (before ++ entry :: after) name = Entries.get? (before ++ after) name := by
  simp [Entries.get?, List.find?_append, differs]

end Entries

namespace Schema

/-- Whether a value is made from another by one edit that is no concern of a schema. In a map
that the schema comes to through lists and keys, an entry is inserted that no key asks for, or
the entries are permuted. An edit further inside is an edit for each key that finds the
entry. -/
inductive Edits : Schema → Value → Value → Prop
  | insert
      (chain : List Predicate)
      (keys : List Key)
      (atomize : Bool)
      (style : KeyStyle)
      (before after : Entries)
      (entry : Value × Value)
      (undeclared : ∀ key ∈ keys, key.name.sameKey entry.1 = false) :
      Edits (.map chain keys atomize style) (.map (before ++ after))
        (.map (before ++ entry :: after))
  | permute
      (chain : List Predicate)
      (keys : List Key)
      (atomize : Bool)
      (style : KeyStyle)
      (entries others : Entries)
      (permuted : entries.Perm others)
      (distinct : ∀ key ∈ keys, key.FindsOne entries) :
      Edits (.map chain keys atomize style) (.map entries) (.map others)
  | entry
      (chain : List Predicate)
      (keys : List Key)
      (atomize : Bool)
      (style : KeyStyle)
      (before after : Entries)
      (name value other : Value)
      (inside : ∀ key ∈ keys, key.name.sameKey name = true → Edits key.type value other) :
      Edits (.map chain keys atomize style) (.map (before ++ (name, value) :: after))
        (.map (before ++ (name, other) :: after))
  | listItem
      (chain : List Predicate)
      (member : Schema)
      (before after : List Value)
      (value other : Value)
      (inside : Edits member value other) :
      Edits (.list chain member) (.list (before ++ value :: after))
        (.list (before ++ other :: after))
  | tupleItem
      (chain : List Predicate)
      (member : Schema)
      (before after : List Value)
      (value other : Value)
      (inside : Edits member value other) :
      Edits (.list chain member) (.tuple (before ++ value :: after))
        (.tuple (before ++ other :: after))

/-- Whether a node sees nothing of a value but what it looks up: a primitive, a list or a map
without predicates but its type check, where the map does not rename its keys. -/
def OnlyLooksUp : Schema → Prop
  | .primitive .. => True
  | .list chain _ => chain.tail = []
  | .map chain _ atomize _ => chain.tail = [] ∧ atomize = false
  | _ => False

section Steps

variable
  {schema : Schema}
  {value other : Value}

/-- Maps come to the same if what is looked up for each key does. -/
theorem validate_map_of_lookups
    {chain : List Predicate}
    {keys : List Key}
    {atomize : Bool}
    {style : KeyStyle}
    {entries others : Entries}
    (checks : (map chain keys atomize style).ChecksFirst AcceptsKind)
    (looks : (map chain keys atomize style).OnlyLooksUp)
    (alike : ∀ key ∈ keys, Option.Rel key.type.HaveSameOutcome
      (entries.get? key.name) (others.get? key.name)) :
    (map chain keys atomize style).validate (.map others) =
      (map chain keys atomize style).validate (.map entries) := by
  obtain ⟨begins, -⟩ := checks
  obtain ⟨alone, rfl⟩ := looks
  have passed (entries : Entries) : checkChain chain (.map entries) = .ok (.ok (.map entries)) :=
    checkChain_of_acceptsKind begins alone (by simp) rfl
  exact validate_map_congr (passed entries) (passed others) rfl rfl
    fun key member => Key.report_map_congr (alike key member)

/-- One edit leaves the outcome of validation as it is. -/
theorem validate_eq_of_edits
    (edited : schema.Edits value other)
    (checks : ∀ node ∈ schema.nodes, node.ChecksFirst AcceptsKind)
    (looks : ∀ node ∈ schema.nodes, node.OnlyLooksUp) :
    schema.validate other = schema.validate value := by
  induction edited with
  | insert chain keys atomize style before after entry undeclared =>
      refine validate_map_of_lookups (checks _ (mem_nodes_self _)) (looks _ (mem_nodes_self _))
        fun key member => ?_
      rw [Entries.get?_insert (undeclared key member)]
      cases Entries.get? (before ++ after) key.name with
      | none => exact .none
      | some value => exact .some rfl
  | permute chain keys atomize style entries others permuted distinct =>
      refine validate_map_of_lookups (checks _ (mem_nodes_self _)) (looks _ (mem_nodes_self _))
        fun key member => ?_
      have search : entries.find? (fun entry => key.name.sameKey entry.1) =
          others.find? fun entry => key.name.sameKey entry.1 :=
        List.find?_eq_find?_of_perm permuted fun entry here other there =>
          distinct key member entry here.1 here.2 other there.1 there.2
      rw [Entries.get?, Entries.get?, search]
      cases others.find? fun entry => key.name.sameKey entry.1 with
      | none => exact .none
      | some entry => exact .some rfl
  | entry chain keys atomize style before after name value other _ hypothesis =>
      refine validate_map_of_lookups (checks _ (mem_nodes_self _)) (looks _ (mem_nodes_self _))
        fun key member => ?_
      rw [forall_nodes_map] at checks looks
      have unchanged (value : Value) : key.type.HaveSameOutcome value value := rfl
      exact Entries.get?_middle unchanged fun found =>
        hypothesis key member found (checks.2 key member) (looks.2 key member)
  | listItem chain member before after value other _ hypothesis =>
      rw [forall_nodes_list] at checks looks
      have unchanged (item : Value) : member.HaveSameOutcome item item := rfl
      have same : member.HaveSameOutcome value other := hypothesis checks.2 looks.2
      have passed (items : List Value) : checkChain chain (.list items) = .ok (.ok (.list items)) :=
        checkChain_of_acceptsKind checks.1 looks.1 (by simp) rfl
      exact validate_list_congr (passed _) (passed _) rfl rfl
        (forall₂_replaced unchanged before after same)
  | tupleItem chain member before after value other _ hypothesis =>
      rw [forall_nodes_list] at checks looks
      have unchanged (item : Value) : member.HaveSameOutcome item item := rfl
      have same : member.HaveSameOutcome value other := hypothesis checks.2 looks.2
      have passed (items : List Value) :
          checkChain chain (.tuple items) = .ok (.ok (.tuple items)) :=
        checkChain_of_acceptsKind checks.1 looks.1 (by simp) rfl
      exact validate_list_congr (passed _) (passed _) rfl rfl
        (forall₂_replaced unchanged before after same)

end Steps

/-- Two values that differ only by entries that no key asks for, and by the order of entries,
have the same outcome. -/
theorem validate_rearranged
    (schema : Schema)
    (compiled : schema.IsCompiled PredicateRegistry.AcceptsKinds)
    (looks : ∀ node ∈ schema.nodes, node.OnlyLooksUp)
    (value other : Value)
    (edited : Relation.EqvGen schema.Edits value other) :
    schema.validate other = schema.validate value := by
  have checks : ∀ node ∈ schema.nodes, node.ChecksFirst AcceptsKind :=
    compiled.checksFirst fun registry accepts tag isType made => accepts tag isType made
  induction edited with
  | rel value other edit => exact validate_eq_of_edits edit checks looks
  | refl value => rfl
  | symm value other _ hypothesis => exact hypothesis.symm
  | trans value between other _ _ first second => exact second.trans first

/-- A name and a list of lines with prices. -/
def shipmentSpec : Spec :=
  .map
    [(.text "name", .text "string"),
    (.text "lines", .tuple [.text "list", .map [(.text "price", .text "integer")]])]

/-- What is compiled from `shipmentSpec`. -/
def shipment : Schema :=
  .map [.typeCheck .map]
    [.mk [] (.text "name") .required (.primitive .string [.typeCheck .string]) false,
    .mk [] (.text "lines") .required
      (.list [.typeCheck .list]
        (.map [.typeCheck .map]
          [.mk [] (.text "price") .required (.primitive .integer [.typeCheck .integer]) false]
          false .camel))
      false]
    false .camel

theorem compile_shipment : Compiler.standard.compile shipmentSpec .none = .ok shipment := by
  simp [shipmentSpec, Compiler.compile, Compiler.compileSpec, Compiler.compileMap,
    Compiler.compileKeys, Compiler.compileEntry, Compiler.compileName, Compiler.declaredKey]
  rfl

/-- A shipment with an entry that is not declared, and with a price that is no number. -/
def givenShipment : Value :=
  .map
    [(.text "name", .text "A"), (.text "draft", .bool true),
    (.text "lines",
      .tuple [.map [(.text "price", .int 3)], .map [(.text "price", .text "x")]])]

/-- `givenShipment` in another order, with a note in the place of the draft mark. -/
def notedShipment : Value :=
  .map
    [(.text "lines",
      .tuple
        [.map [(.text "note", .null), (.text "price", .int 3)],
        .map [(.text "price", .text "x")]]),
    (.text "name", .text "A")]

theorem edits_shipment : Relation.EqvGen shipment.Edits givenShipment notedShipment := by
  have removed : shipment.Edits
      (.map
        [(.text "name", .text "A"),
        (.text "lines",
          .tuple [.map [(.text "price", .int 3)], .map [(.text "price", .text "x")]])])
      givenShipment :=
    .insert _ _ _ _ [_] [_] _ (by decide)
  have noted : shipment.Edits
      (.map
        [(.text "name", .text "A"),
        (.text "lines",
          .tuple [.map [(.text "price", .int 3)], .map [(.text "price", .text "x")]])])
      (.map
        [(.text "name", .text "A"),
        (.text "lines",
          .tuple
            [.map [(.text "note", .null), (.text "price", .int 3)],
            .map [(.text "price", .text "x")]])]) := by
    refine .entry _ _ _ _ [_] [] _ _ _ ?_
    simp only [List.forall_mem_cons, List.not_mem_nil, false_imp_iff, implies_true, and_true]
    refine ⟨fun found => absurd found (by decide), fun _ => ?_⟩
    exact .tupleItem _ _ [] [_] _ _ (.insert _ _ _ _ [] [_] _ (by decide))
  have swapped : shipment.Edits _ notedShipment :=
    .permute _ _ _ _ _ _ (.swap _ _ []) (by
      simp only [List.forall_mem_cons, List.not_mem_nil, false_imp_iff, implies_true, and_true]
      exact ⟨Key.findsOne_of_text rfl (by decide), Key.findsOne_of_text rfl (by decide)⟩)
  exact (Relation.EqvGen.rel _ _ removed).symm.trans _ _ _
    (.trans _ _ _ (.rel _ _ noted) (.rel _ _ swapped))

theorem validate_rearranged_shipment :
    shipment.validate givenShipment =
        .ok (.error (.several
          [.several
            [.several
              [.predicate [.text "lines", .int 1, .text "price"] "type?"
                [.text "integer", .text "x"] (.text "x")]]])) ∧
      shipment.validate notedShipment = shipment.validate givenShipment := by
  have compiled : shipment.IsCompiled PredicateRegistry.AcceptsKinds :=
    isCompiled_of_standard PredicateRegistry.acceptsKinds_standard rfl compile_shipment
  have looks : ∀ node ∈ shipment.nodes, node.OnlyLooksUp := by
    simp [shipment, nodes, keyNodes, OnlyLooksUp]
  exact ⟨rfl, validate_rearranged shipment compiled looks givenShipment notedShipment
    edits_shipment⟩

/-- A map with one key, where nothing passes the type check. -/
def strictRow : Schema :=
  .map [.blindCheck false .map]
    [.mk [] (.text "a") .required (.primitive .any [.blindCheck false .any]) false]
    false .camel

/-- If maps do not pass as maps, entries that nobody asks for are shown with the rest. -/
theorem strict_shows_undeclared :
    (Compiler.blind false).compile (.map [(.text "a", .text "any")]) .none = .ok strictRow ∧
      (∀ node ∈ strictRow.nodes, node.OnlyLooksUp) ∧
      strictRow.Edits (.map [(.text "a", .int 1)])
        (.map [(.text "a", .int 1), (.text "x", .int 2)]) ∧
      strictRow.validate (.map [(.text "a", .int 1), (.text "x", .int 2)]) ≠
        strictRow.validate (.map [(.text "a", .int 1)]) := by
  refine ⟨?_, ?_, ?_, ?_⟩
  · simp [Compiler.compile, Compiler.compileSpec, Compiler.compileMap, Compiler.compileKeys,
      Compiler.compileEntry, Compiler.compileName, Compiler.declaredKey]
    rfl
  · simp [strictRow, nodes, keyNodes, OnlyLooksUp]
  · exact .insert _ _ _ _ [_] [] _ (by decide)
  · have shown (value : Value) :
        strictRow.validate value =
          .ok (.error (.predicate [] "type?" [.text "map", value] value)) := rfl
    simp [shown]

end Schema
end DataContract
