import DataContract.Document.Node

/-!
# Merged mappings

An entry under the merge key adds the entries of another mapping, or of several,
in front of those of its own mapping; among several mappings those of the first
come last. The entry itself is taken away before anything is added, so a mapping
that is merged into itself adds what else it has, and every step leaves one such
entry less.
-/

namespace DataContract
namespace Document

/-- The nodes of a document by their numbers. -/
abbrev Nodes := Array Node

namespace Nodes

/-- The node with a number. -/
def node
    (nodes : Nodes)
    (number : Nat) : Node :=
  nodes[number]?.getD ⟨.null, .scalar []⟩

/-- The entries of a mapping; other nodes have none. -/
def entries
    (nodes : Nodes)
    (number : Nat) : List (Nat × Nat) :=
  match (nodes.node number).shape with
  | .mapping entries => entries
  | _ => []

/-- Whether a node is a mapping. -/
def isMapping
    (nodes : Nodes)
    (number : Nat) : Bool :=
  (nodes.node number).shape matches .mapping _

/-- Whether the key of an entry is of a type. -/
def isUnder
    (nodes : Nodes)
    (tag : Tag)
    (entry : Nat × Nat) : Bool :=
  (nodes.node entry.1).tag == tag

/-- Give a mapping other entries. -/
def setEntries
    (nodes : Nodes)
    (number : Nat)
    (entries : List (Nat × Nat)) : Nodes :=
  nodes.modify number fun node => { node with shape := .mapping entries }

/-- Give a mapping its final entries. The key of the entry that stands for a whole
mapping is a text from then on. -/
def settle
    (nodes : Nodes)
    (number : Nat)
    (entries : List (Nat × Nat)) : Nodes :=
  let standard := entries.filter (nodes.isUnder .standard)
  standard.foldl
    (fun nodes entry => nodes.modify entry.1 fun node => { node with tag := .text })
    (nodes.setEntries number entries)

/-- The entries of several mappings in the order in which they are merged into
another, after `mergeOne` has merged into each what it names. -/
def mergeAll
    (mergeOne : Nodes → Nat → Reading Nodes)
    (nodes : Nodes) : List Nat → Reading (List (Nat × Nat) × Nodes)
  | [] => .ok ([], nodes)
  | number :: rest =>
      if nodes.isMapping number then do
        let nodes ← mergeOne nodes number
        let own := nodes.entries number
        let (others, nodes) ← mergeAll mergeOne nodes rest
        .ok (others ++ own, nodes)
      else .error .malformedMerge

/-- Merge into a mapping what its entries name; `merged` has been found already,
and the fuel must be greater than the number of entries to merge in all nodes. -/
def merge
    (nodes : Nodes)
    (merged : List (Nat × Nat))
    (number : Nat) : Nat → Reading Nodes
  | 0 => .error .malformedMerge
  | fuel + 1 =>
      let entries := nodes.entries number
      match entries.find? (nodes.isUnder .merge) with
      | none => .ok (nodes.settle number (merged ++ entries))
      | some entry => do
          let nodes := nodes.setEntries number (entries.eraseP (nodes.isUnder .merge))
          match (nodes.node entry.2).shape with
          | .mapping _ => do
              let nodes ← merge nodes [] entry.2 fuel
              merge nodes (merged ++ nodes.entries entry.2) number fuel
          | .sequence items => do
              let (found, nodes) ← mergeAll
                (fun nodes number => merge nodes [] number fuel) nodes items
              merge nodes (merged ++ found) number fuel
          | .scalar _ => .error .malformedMerge

/-- The number of entries in all mappings. -/
def entryCount (nodes : Nodes) : Nat :=
  nodes.foldl
    (fun count node =>
      match node.shape with
      | .mapping entries => count + entries.length
      | _ => count)
    0

/-- Merge into a mapping what its entries name. -/
def mergeInto
    (nodes : Nodes)
    (number : Nat) : Reading Nodes :=
  nodes.merge [] number (nodes.entryCount + 1)

end Nodes
end Document
end DataContract
