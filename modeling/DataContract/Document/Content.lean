import DataContract.Document.Problem
import DataContract.Value.Basic

/-!
# The content of documents

What a document says, apart from how it is written: its objects, which name
their parts by number, so that one part may stand in several places, and an
object inside itself. What reads documents from encoded texts is left open; all
that a schema file needs of it is the content of the document, or why there is
none.
-/

namespace DataContract
namespace Document

/-- An object of a document. -/
inductive Object
  | scalar (value : Value)
  | list (items : List Nat)
  | pairs (items : List (Nat × Nat))
  | map (entries : List (Value × Nat))

/-- The content of a document. -/
structure Content where
  /-- The objects by the numbers of their nodes. -/
  objects : Array Object
  /-- The number of the root. -/
  root : Nat

/-- What reads the document in an encoded text, if there is one. -/
abbrev Reader := List UInt8 → Reading (Option Content)

namespace Content

/-- The object with a number. -/
def object
    (content : Content)
    (number : Nat) : Object :=
  content.objects[number]?.getD (.scalar .null)

/-- The sign for a list inside itself. -/
def listSign : Value := .record .sign [.text "[...]"]

/-- The sign for a map inside itself. -/
def mapSign : Value := .record .sign [.text "\x7b...\x7d"]

/-- The value of an object inside others, with signs for these; `fuel` must be
greater than the number of objects that it is not inside of. -/
def valueInside
    (content : Content)
    (outer : List Nat)
    (number : Nat) : Nat → Value
  | 0 => .null
  | fuel + 1 =>
      let part := fun (inner : Nat) => content.valueInside (number :: outer) inner fuel
      match content.object number with
      | .scalar value => value
      | .list items =>
          if outer.contains number then listSign else .list (items.map part)
      | .pairs items =>
          if outer.contains number then listSign
          else .list (items.map fun item => .tuple [part item.1, part item.2])
      | .map entries =>
          if outer.contains number then mapSign
          else .map (entries.map fun entry => (entry.1, part entry.2))

/-- The value of an object. An object that is part of itself has a sign there. -/
def value
    (content : Content)
    (number : Nat) : Value :=
  content.valueInside [] number (content.objects.size + 1)

end Content
end Document
end DataContract
