import DataContract.Document.Content
import DataContract.Document.Merge
import DataContract.Document.Scalar.Content
import DataContract.Document.Token.Lexer
import DataContract.Value.Equality

/-!
# Finding the objects of documents

What the nodes of a document stand for. An object that has parts names them by
the numbers of their nodes, so an object can be part of itself. A collection is
first an empty object; its parts are found level by level, so of several nodes
that stand for nothing the one nearest to the root is reported, and of those at
one depth the first. Entries with equal keys count once, in the place of the
first and with the part of the last. Keys are scalars.
-/

namespace DataContract
namespace Document

/-- The collection without parts for a type. -/
def Object.empty : Tag → Object
  | .sequence => .list []
  | .mapping => .map []
  | _ => .pairs []

namespace Nodes

/-- The text of a scalar, or of the first entry that stands for a whole mapping.
A mapping may stand for itself and so have no text; `fuel` must be greater than
the number of nodes. -/
def text
    (nodes : Nodes)
    (number : Nat) : Nat → Reading (List Char)
  | 0 => refuseContent .endlessDefinition
  | fuel + 1 =>
      match (nodes.node number).shape with
      | .scalar content => .ok content
      | .sequence _ => .error .wrongShape
      | .mapping entries =>
          match entries.find? (nodes.isUnder .standard) with
          | some entry => nodes.text entry.2 fuel
          | none => .error .wrongShape

/-- The value of a node whose type is that of scalars. Moments are written by
scalars only. -/
def scalarValue
    (nodes : Nodes)
    (number : Nat) : Reading Value := do
  let node := nodes.node number
  if node.tag.hasValues then
    let content ← nodes.text number (nodes.size + 1)
    match node.tag, node.shape with
    | .moment, .mapping _ => refuseContent .wrongKind
    | tag, _ => Document.scalarValue (number + 2) tag content
  else .error .unknownTag

end Nodes

/-- How far the objects of a document have been found. -/
structure Discovery where
  /-- The nodes of the document. -/
  nodes : Nodes
  /-- The objects that have been found, by the numbers of their nodes. -/
  objects : Array (Option Object)
  /-- The collections whose parts are still to be found, latest first. -/
  pending : List Nat

namespace Discovery

/-- The discovery before anything has been found. -/
def start (nodes : Nodes) : Discovery :=
  ⟨nodes, nodes.map fun _ => none, []⟩

/-- Keep the object of a node. -/
def keep
    (discovery : Discovery)
    (number : Nat)
    (object : Object) : Discovery :=
  { discovery with objects := discovery.objects.modify number fun _ => some object }

/-- The object of a node, if it has been found. -/
def object?
    (discovery : Discovery)
    (number : Nat) : Option Object :=
  discovery.objects[number]?.join

/-- Find the object of a node. -/
def find
    (discovery : Discovery)
    (number : Nat) : Reading Discovery :=
  let tag := (discovery.nodes.node number).tag
  if (discovery.object? number).isSome then .ok discovery
  else if tag.isCollection then
    .ok { discovery.keep number (.empty tag) with pending := number :: discovery.pending }
  else do
    let value ← discovery.nodes.scalarValue number
    .ok (discovery.keep number (.scalar value))

/-- Find the object of a key, which must be a scalar. -/
def findKey
    (discovery : Discovery)
    (number : Nat) : Reading (Value × Discovery) := do
  let discovery ← discovery.find number
  match discovery.object? number with
  | some (.scalar key) => .ok (key, discovery)
  | _ => .error .collectionAsKey

/-- Find the keys and the parts of a mapping. -/
def findEntries
    (discovery : Discovery)
    (entries : List (Nat × Nat)) : Reading (List (Value × Nat) × Discovery) :=
  entries.foldlM
    (fun found entry => do
      let (key, discovery) ← found.2.findKey entry.1
      .ok (Entries.put found.1 key entry.2, ← discovery.find entry.2))
    ([], discovery)

/-- Find the two parts of every pair. A pair is written as a mapping with one
entry. -/
def findPairs
    (discovery : Discovery)
    (items : List Nat) : Reading (List (Nat × Nat) × Discovery) :=
  items.foldlM
    (fun found item =>
      match (found.2.nodes.node item).shape with
      | .mapping [entry] => do
          let discovery ← found.2.find entry.1
          .ok (found.1 ++ [entry], ← discovery.find entry.2)
      | _ => .error .wrongShape)
    ([], discovery)

/-- Find the parts of a collection. -/
def complete
    (discovery : Discovery)
    (number : Nat) : Reading Discovery := do
  let node := discovery.nodes.node number
  match Object.empty node.tag, node.shape with
  | .list _, .sequence items => do
      let discovery ← items.foldlM find discovery
      .ok (discovery.keep number (.list items))
  | .pairs _, .sequence items => do
      let (pairs, discovery) ← discovery.findPairs items
      .ok (discovery.keep number (.pairs pairs))
  | .map _, .mapping _ => do
      let nodes ← discovery.nodes.mergeInto number
      let (entries, discovery) ← { discovery with nodes }.findEntries (nodes.entries number)
      .ok (discovery.keep number (.map entries))
  | _, _ => .error .wrongShape

/-- Find the parts of all collections, one level after the other. No more levels
than nodes are needed. -/
def finish (discovery : Discovery) : Nat → Reading Discovery
  | 0 => .ok discovery
  | levels + 1 =>
      if discovery.pending.isEmpty then .ok discovery
      else do
        let level := discovery.pending.reverse
        finish (← level.foldlM complete { discovery with pending := [] }) levels

end Discovery

namespace Content

/-- The content of a document with a root. -/
def ofGraph
    (root : Nat)
    (graph : Graph) : Reading Content := do
  let discovery ← (Discovery.start graph.nodes).find root
  let discovery ← discovery.finish graph.nodes.size
  .ok ⟨discovery.objects.map fun object => object.getD (.scalar .null), root⟩

/-- The content of the only document of a text, if there is one. -/
def read? (source : Source) : Reading (Option Content) := do
  match ← Node.ofTokens? (Token.ofSource source) with
  | none => .ok none
  | some (root, graph) => (ofGraph root graph).map some

end Content

/-- The reader of indented documents. -/
def Reader.indented : Reader := fun bytes => Content.read? (.ofBytes bytes)

end Document
end DataContract
