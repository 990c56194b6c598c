import DataContract.Proofs.Schema.Respelling
import DataContract.Proofs.Schema.TypeCheck

/-!
# Own names and names on the wire

Validation makes the same of two spellings of a value. Entries of maps given in place are
renamed before they are validated, and lists in them are not; what is renamed is therefore
not the same for both spellings, but again a matter of spelling, and each key reports the
same about it.

That needs type checks which accept lists and maps as such: the failure of a type check
shows the value as it was spelled.
-/

namespace DataContract

namespace Schema

/-- Whether a predicate accepts every list, or every map, if it is the type check of the tag
of lists or maps. -/
def AcceptsKind
    (tag : Tag)
    (predicate : Predicate) : Prop :=
  tag ∈ [Tag.list, Tag.map] → ∀ value, tag.admits value = true → predicate.holds value = .ok true

/-- Whether a node takes entries under both spellings: a primitive, a list or a map without
predicates but its type check, where the map renames its keys, whose names do not clash. -/
def TakesWireNames : Schema → Prop
  | .primitive .. => True
  | .list chain _ => chain.tail = []
  | .map chain keys atomize style =>
      chain.tail = [] ∧ atomize = true ∧ style = .camel ∧ Key.AreSpelledApart keys
  | _ => False

section Nodes

variable
  {chain : List Predicate}
  {keys : List Key}

/-- A chain that consists of a type check accepts the values of its kind. -/
theorem checkChain_of_acceptsKind
    {tag : Tag}
    (begins : BeginsWith AcceptsKind tag chain)
    (alone : chain.tail = [])
    (kind : tag ∈ [Tag.list, Tag.map])
    {value : Value}
    (admitted : tag.admits value = true) :
    checkChain chain value = .ok (.ok value) := by
  obtain ⟨isType, extra, rfl, accepts⟩ := begins
  obtain rfl : extra = [] := alone
  simp [checkChain_eq_accepted, accepts kind value admitted]

section Maps

variable
  {atomize : Bool}
  {entries others : Entries}

/-- The other spelling of a map is a map with other names for some of the keys. -/
theorem respells_map_iff
    {other : Value} :
    (map chain keys atomize .camel).Respells (.map entries) other ↔
      ∃ others chosen, other = .map others ∧ AreReplaceable keys entries chosen ∧
        List.Forall₂ (EntryRespells keys chosen) entries others := by
  constructor
  · intro respelled
    cases other with
    | map others =>
        obtain ⟨chosen, replaceable, each⟩ := respelled
        exact ⟨others, chosen, rfl, replaceable, each⟩
    | _ => simp [Respells] at respelled
  · rintro ⟨others, chosen, rfl, replaceable, each⟩
    exact ⟨chosen, replaceable, each⟩

/-- A value that is no map is spelled in one way for a map. -/
theorem eq_of_respells_map
    {style : KeyStyle}
    {value other : Value}
    (respelled : (map chain keys atomize style).Respells value other)
    (unlike : ∀ entries, value ≠ .map entries) :
    other = value := by
  cases value with
  | map entries => exact absurd rfl (unlike entries)
  | _ => exact respelled

/-- Entries that keys find are spelled in two ways if what is found for each key is. -/
theorem respells_entries
    {taken otherTaken : Key → Option Value}
    (related : ∀ key ∈ keys, Option.Rel key.type.Respells (taken key) (otherTaken key)) :
    (map chain keys atomize .camel).Respells (.map (Key.entries keys taken))
      (.map (Key.entries keys otherTaken)) := by
  refine respells_map_iff.mpr ⟨_, fun _ => false, rfl, (fun _ none => nomatch none), ?_⟩
  refine Key.forall₂_entries fun key member => ?_
  have here := related key member
  generalize taken key = value at here ⊢
  generalize otherTaken key = other at here ⊢
  cases here with
  | none => exact .none
  | some here =>
      exact .some ⟨rfl, partRespells_iff.mpr (.inr ⟨key, member, .inl rfl, here⟩)⟩

end Maps

/-- What is renamed in a value of two spellings has two spellings. -/
theorem rename_respelled
    {schema : Schema}
    (checks : ∀ node ∈ schema.nodes, node.ChecksFirst AcceptsKind)
    (takes : ∀ node ∈ schema.nodes, node.TakesWireNames)
    {value other : Value}
    (respelled : schema.Respells value other) :
    ∃ renamed otherRenamed, schema.atomizeInline .camel value = .ok renamed ∧
      schema.atomizeInline .camel other = .ok otherRenamed ∧
      schema.Respells renamed otherRenamed := by
  induction schema generalizing value other with
  | primitive tag chain => exact ⟨value, other, rfl, rfl, respelled⟩
  | list chain member _ => exact ⟨value, other, rfl, rfl, respelled⟩
  | map chain keys atomize style hypothesis =>
      rw [forall_nodes_map] at checks takes
      obtain ⟨⟨-, declared⟩, keysCheck⟩ := checks
      obtain ⟨⟨-, -, rfl, apart⟩, keysTake⟩ := takes
      cases value with
      | map entries =>
          obtain ⟨others, chosen, rfl, replaceable, each⟩ := respells_map_iff.mp respelled
          obtain ⟨taken, otherTaken, made, otherMade, related⟩ :=
            atomizeKeys_respelled apart declared.distinct replaceable each
              fun key member value other here =>
                hypothesis key member (keysCheck key member) (keysTake key member) here
          simp only [atomizeInline, made, otherMade]
          split
          · exact ⟨_, _, rfl, rfl, respelled⟩
          · exact ⟨_, _, rfl, rfl, respells_entries related⟩
      | _ =>
          obtain rfl := eq_of_respells_map respelled (by simp)
          exact ⟨_, _, rfl, rfl, respells_self _ _⟩
  | union left right options _ _ => exact (takes _ (mem_nodes_self _)).elim
  | cast input output caster options _ _ => exact (takes _ (mem_nodes_self _)).elim
  | custom type => exact (takes _ (mem_nodes_self _)).elim

/-- A key reports the same about two values if what it finds in them has the same
outcome. -/
theorem report_congr
    {key : Key}
    {data otherData : Value}
    {found otherFound : Option Value}
    {related : Value → Value → Prop}
    (looked : data.entry? key.name = .ok found)
    (otherLooked : otherData.entry? key.name = .ok otherFound)
    (both : Option.Rel related found otherFound)
    (alike : ∀ value other, related value other →
      key.type.validate other = key.type.validate value) :
    key.report otherData = key.report data := by
  cases both with
  | none => rw [Key.report, Key.report, looked, otherLooked]
  | some here => rw [Key.report_of_entry looked, Key.report_of_entry otherLooked, alike _ _ here]

/-- The outcome is the same for both spellings of a value. -/
theorem validate_eq_of_respells
    {schema : Schema}
    (checks : ∀ node ∈ schema.nodes, node.ChecksFirst AcceptsKind)
    (takes : ∀ node ∈ schema.nodes, node.TakesWireNames)
    {value other : Value}
    (respelled : schema.Respells value other) :
    schema.validate other = schema.validate value := by
  induction schema generalizing value other with
  | primitive tag chain =>
      obtain rfl : other = value := respelled
      rfl
  | list chain member hypothesis =>
      rw [forall_nodes_list] at checks takes
      have passed {value : Value} (admitted : Tag.list.admits value = true) :
          checkChain chain value = .ok (.ok value) :=
        checkChain_of_acceptsKind checks.1 takes.1 (by simp) admitted
      have alike {items others : List Value}
          (each : List.Forall₂ member.Respells items others) :=
        each.imp fun item other here => hypothesis checks.2 takes.2 here
      cases value with
      | list items =>
          cases other with
          | list others =>
              exact validate_list_congr (passed rfl) (passed rfl) rfl rfl (alike respelled)
          | _ => cases respelled
      | tuple items =>
          cases other with
          | tuple others =>
              exact validate_list_congr (passed rfl) (passed rfl) rfl rfl (alike respelled)
          | _ => cases respelled
      | _ =>
          obtain rfl := respelled
          rfl
  | map chain keys atomize style hypothesis =>
      rw [forall_nodes_map] at checks takes
      obtain ⟨⟨begins, declared⟩, keysCheck⟩ := checks
      obtain ⟨⟨alone, rfl, rfl, apart⟩, keysTake⟩ := takes
      cases value with
      | map entries =>
          obtain ⟨others, chosen, rfl, replaceable, each⟩ := respells_map_iff.mp respelled
          obtain ⟨taken, otherTaken, made, otherMade, related⟩ :=
            atomizeKeys_respelled apart declared.distinct replaceable each
              fun key member value other here =>
                rename_respelled (keysCheck key member) (keysTake key member) here
          have passed (entries : Entries) :
              checkChain chain (.map entries) = .ok (.ok (.map entries)) :=
            checkChain_of_acceptsKind begins alone (by simp) rfl
          refine validate_map_congr (passed entries) (passed others)
            (Attempt.map_eq_ok.mpr ⟨_, made, rfl⟩) (Attempt.map_eq_ok.mpr ⟨_, otherMade, rfl⟩)
            fun key member => ?_
          have looked (found : Key → Option Value) :
              Value.entry? (.map (Key.entries keys found)) key.name = .ok (found key) :=
            Key.entry?_entries declared.distinct apart.named.isName member
          exact report_congr (looked taken) (looked otherTaken) (related key member)
            fun value other here =>
              hypothesis key member (keysCheck key member) (keysTake key member) here
      | _ =>
          obtain rfl := eq_of_respells_map respelled (by simp)
          rfl
  | union left right options _ _ => exact (takes _ (mem_nodes_self _)).elim
  | cast input output caster options _ _ => exact (takes _ (mem_nodes_self _)).elim
  | custom type => exact (takes _ (mem_nodes_self _)).elim

end Nodes

end Schema

/-- Whether the type checks of a registry accept all sequences as lists, and all maps as
maps. -/
def PredicateRegistry.AcceptsKinds (registry : PredicateRegistry) : Prop :=
  ∀ tag isType, registry.typeCheck tag = .ok isType → Schema.AcceptsKind tag isType

theorem PredicateRegistry.acceptsKinds_standard : standard.AcceptsKinds := by
  intro tag isType checked _ value admitted
  rw [typeCheck_standard, Except.ok.injEq] at checked
  rw [← checked, Predicate.holds_typeCheck, admitted]

namespace Schema

/-- A customer and what is ordered. -/
def orderSpec : Spec :=
  .map
    [(.text "sold_to", .map [(.text "first_name", .text "string")]),
    (.text "order_lines",
      .tuple [.text "list", .map [(.text "unit_price", .text "integer")]])]

/-- What is compiled from `orderSpec`, with names on the wire. -/
def order : Schema :=
  .map [.typeCheck .map]
    [.mk [] (.text "sold_to") .required
      (.map [.typeCheck .map]
        [.mk [.text "sold_to"] (.text "first_name") .required
          (.primitive .string [.typeCheck .string]) false]
        true .camel)
      true,
    .mk [] (.text "order_lines") .required
      (.list [.typeCheck .list]
        (.map [.typeCheck .map]
          [.mk [] (.text "unit_price") .required
            (.primitive .integer [.typeCheck .integer]) false]
          true .camel))
      false]
    true .camel

theorem compile_order :
    Compiler.standard.compile orderSpec ⟨some (.bool true), none, []⟩ = .ok order := by
  simp [orderSpec, Compiler.compile, Compiler.compileSpec, Compiler.compileMap,
    Compiler.compileKeys, Compiler.compileEntry, Compiler.compileName, Compiler.declaredKey]
  rfl

/-- An order with a price that is no number. -/
def givenOrder : Value :=
  .map
    [(.text "sold_to", .map [(.text "first_name", .text "A")]),
    (.text "order_lines",
      .tuple [.map [(.text "unit_price", .int 3)], .map [(.text "unit_price", .text "x")]])]

/-- `givenOrder` with some names on the wire. -/
def writtenOrder : Value :=
  .map
    [(.text "soldTo", .map [(.text "firstName", .text "A")]),
    (.text "order_lines",
      .tuple [.map [(.text "unitPrice", .int 3)], .map [(.text "unit_price", .text "x")]])]

theorem respells_order : order.Respells givenOrder writtenOrder := by
  refine ⟨_, areReplaceable_name List.mem_cons_self rfl, .cons ⟨rfl, ?_⟩ (.cons ⟨rfl, ?_⟩ .nil)⟩
  · refine .inl ⟨.inl rfl, _, areReplaceable_name List.mem_cons_self rfl, .cons ⟨rfl, ?_⟩ .nil⟩
    exact .inl ⟨.inl rfl, rfl⟩
  · refine .inr (.inl ⟨.inl rfl, .cons ?_ (.cons (respells_self _ _) .nil)⟩)
    refine ⟨_, areReplaceable_name List.mem_cons_self rfl, .cons ⟨rfl, ?_⟩ .nil⟩
    exact .inl ⟨.inl rfl, rfl⟩

/-- A map with a name, where nothing passes the type check. -/
def strictMap : Schema :=
  .map [.blindCheck false .map]
    [.mk [] (.text "first_name") .required (.primitive .any [.blindCheck false .any]) false]
    true .camel

/-- A member of an enumeration that stands for a name on the wire. -/
def givenName : Value := .member "Key" "GIVEN" (.text "firstName")

/-- A map with a text and a member for keys, which have one name on the wire. -/
def namedTwice : Schema :=
  .map [.typeCheck .map]
    [.mk [] givenName .optional (.primitive .any [.typeCheck .any]) false,
    .mk [] (.text "first_name") .required (.primitive .any [.typeCheck .any]) false]
    true .camel

end Schema
end DataContract
