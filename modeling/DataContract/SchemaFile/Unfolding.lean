import DataContract.Document.Content
import DataContract.SchemaFile.Entry

/-!
# Entries inside themselves

A document may name one part in several places, and a part inside itself. Before
the entries of a document are read they are unfolded into one value. Its parts
that are entries are unfolded again wherever they occur, up to one inside itself,
in whose place a sign stands. The other parts of an entry are shown as a whole,
each for itself.
-/

namespace DataContract
namespace SchemaFile

open Document

/-- The sign for an entry inside itself. -/
def entrySign : Value := .record .sign [.text "..."]

/-- The items of a list, each as a value for itself; of another object its
value. -/
def itemValues
    (content : Content)
    (number : Nat) : Value :=
  match content.object number with
  | .list items => .list (items.map content.value)
  | .pairs items =>
      .list (items.map fun item => .tuple [content.value item.1, content.value item.2])
  | _ => content.value number

/-- The part of an entry under a reserved word; `entry` unfolds the entries in
it. -/
def reservedPart
    (content : Content)
    (entry : Nat → Value)
    (word : String)
    (number : Nat) : Value :=
  match word, content.object number with
  | "list", _ => entry number
  | "map", .map entries => .map (entries.map fun found => (found.1, entry found.2))
  | "union", .list items => .list (items.map entry)
  | "cast", .map entries =>
      .map
        (entries.map fun found =>
          if found.1 == .text "from" || found.1 == .text "to" then (found.1, entry found.2)
          else (found.1, content.value found.2))
  | "predicates", _ => itemValues content number
  | _, _ => content.value number

/-- The part of an entry under a key. -/
def entryPart
    (content : Content)
    (entry : Nat → Value)
    (key : Value)
    (number : Nat) : Value :=
  match key with
  | .text word => reservedPart content entry word number
  | _ => content.value number

/-- Whether an object describes a type. -/
def objectDescribesType (entries : List (Value × Nat)) : Bool :=
  describesType (entries.map fun entry => (entry.1, .null))

/-- The value of an entry inside others; `fuel` must be greater than the number of
objects that it is not inside of. -/
def entryInside
    (content : Content)
    (outer : List Nat)
    (number : Nat) : Nat → Value
  | 0 => entrySign
  | fuel + 1 =>
      let entry := fun (inner : Nat) => entryInside content (number :: outer) inner fuel
      match content.object number with
      | .map entries =>
          if outer.contains number then entrySign
          else if objectDescribesType entries then
            .map (entries.map fun found => (found.1, entryPart content entry found.1 found.2))
          else .map (entries.map fun found => (found.1, entry found.2))
      | _ => content.value number

/-- The value of a document with its entries unfolded. -/
def unfold (content : Content) : Value :=
  match content.object content.root with
  | .map entries =>
      .map
        (entries.map fun found =>
          (found.1, entryInside content [] found.2 (content.objects.size + 1)))
  | _ => content.value content.root

mutual

/-- Whether a sign stands somewhere in a value. -/
def hasSign : Value → Bool
  | .record .sign _ => true
  | .record _ parts => anyHasSign parts
  | .member _ _ content => hasSign content
  | .list items => anyHasSign items
  | .tuple items => anyHasSign items
  | .map entries => anyEntryHasSign entries
  | _ => false

/-- Whether a sign stands somewhere in several values. -/
def anyHasSign : List Value → Bool
  | [] => false
  | value :: rest => hasSign value || anyHasSign rest

/-- Whether a sign stands somewhere in the values of several entries. -/
def anyEntryHasSign : List (Value × Value) → Bool
  | [] => false
  | entry :: rest => hasSign entry.2 || anyEntryHasSign rest

end

end SchemaFile
end DataContract
