import DataContract.Document.Tag
import DataContract.Document.Token

/-!
# Nodes of documents

A document is a graph of scalars, sequences and mappings with a type each. It
is read from its tokens. The nodes are numbered; an alias stands for the number
of the node that an anchor before it names, so a node can have several places,
and a place inside itself.
-/

namespace DataContract
namespace Document

/-- What a node consists of; its parts are given by their numbers. -/
inductive Shape
  | scalar (content : List Char)
  | sequence (items : List Nat)
  | mapping (entries : List (Nat × Nat))

/-- A node of a document. -/
structure Node where
  /-- What kind of object it stands for. -/
  tag : Tag
  /-- What is written there. -/
  shape : Shape

/-- The nodes of a document. -/
structure Graph where
  /-- The nodes by their numbers. -/
  nodes : Array Node
  /-- The anchors, each with the number of the node it names. -/
  anchors : List (List Char × Nat)

namespace Graph

/-- The graph without nodes. -/
def empty : Graph := ⟨#[], []⟩

/-- Add a node, which gets the next number. -/
def add
    (graph : Graph)
    (tag : Tag)
    (shape : Shape) : Nat × Graph :=
  (graph.nodes.size, { graph with nodes := graph.nodes.push ⟨tag, shape⟩ })

/-- Add the node that stands where nothing is written. -/
def addAbsent (graph : Graph) : Nat × Graph :=
  graph.add .null (.scalar [])

/-- Add a node under an anchor, if there is one. The anchor must be new. -/
def addNamed
    (graph : Graph)
    (anchor : Option (List Char))
    (tag : Tag)
    (shape : Shape) : Reading (Nat × Graph) :=
  match anchor with
  | none => .ok (graph.add tag shape)
  | some name =>
      if (graph.anchors.lookup name).isSome then .error .repeatedAnchor
      else
        let (number, graph) := graph.add tag shape
        .ok (number, { graph with anchors := (name, number) :: graph.anchors })

/-- Give a node its parts. -/
def fill
    (graph : Graph)
    (number : Nat)
    (shape : Shape) : Graph :=
  { graph with nodes := graph.nodes.modify number fun node => { node with shape } }

end Graph

namespace Node

/-- The handles of tags and what they stand for. -/
abbrev Handles := List (List Char × List Char)

/-- The handles that need no declaration. -/
def standardHandles : Handles := [
  (['!'], ['!']), (['!', '!'], Tag.family)]

/-- The tag of a node: none, the one that leaves the type open, or a type. -/
inductive WrittenTag
  | none
  | unspecified
  | named (tag : Tag)

/-- The tag with a full name. -/
def WrittenTag.ofName (name : List Char) : WrittenTag :=
  if name == ['!'] then .unspecified else .named (Tag.ofName name)

/-- The type of a collection with a tag. -/
def WrittenTag.collection
    (tag : WrittenTag)
    (usual : Tag) : Tag :=
  match tag with
  | .named given => given
  | _ => usual

/-- The type of a scalar with a tag. -/
def WrittenTag.scalar
    (tag : WrittenTag)
    (content : List Char)
    (plain : Bool) : Tag :=
  match tag with
  | .named given => given
  | .unspecified => .ofPlain content
  | .none => if plain then .ofPlain content else .text

/-- What is written in front of a node. -/
structure Properties where
  /-- The anchor, if there is one. -/
  anchor : Option (List Char)
  /-- The tag, if there is one, with the handle that it begins with. -/
  tag : Option (Option (List Char) × List Char)

/-- Why the next token cannot stand where it does. -/
def problemAt : List Token → Problem
  | .broken problem :: _ => problem
  | _ => .unexpectedToken

namespace Properties

/-- The properties at the start of a list of tokens, and what follows them. -/
def take : List Token → Properties × List Token
  | .anchor name :: .tag handle suffix :: rest => (⟨some name, some (handle, suffix)⟩, rest)
  | .anchor name :: rest => (⟨some name, none⟩, rest)
  | .tag handle suffix :: .anchor name :: rest => (⟨some name, some (handle, suffix)⟩, rest)
  | .tag handle suffix :: rest => (⟨none, some (handle, suffix)⟩, rest)
  | rest => (⟨none, none⟩, rest)

theorem length_take_le (tokens : List Token) :
    (take tokens).2.length ≤ tokens.length := by
  unfold take
  split <;> simp <;> omega

theorem length_lt_of_take
    {tokens rest : List Token}
    {token : Token}
    (following : (take tokens).2 = token :: rest) :
    rest.length < tokens.length := by
  have shorter := length_take_le tokens
  rw [following, List.length_cons] at shorter
  exact shorter

/-- Whether there are none. -/
def isEmpty (properties : Properties) : Bool :=
  properties.anchor.isNone && properties.tag.isNone

theorem length_take_lt
    (tokens : List Token)
    (written : (take tokens).1.isEmpty = false) :
    (take tokens).2.length < tokens.length := by
  unfold take at written ⊢
  split at written
  case h_5 => simp [isEmpty] at written
  all_goals
    simp only [List.length_cons]
    omega

/-- Why a handle cannot be replaced: the token after a lone tag is examined
first. -/
def handleProblem
    (properties : Properties)
    (rest : List Token) : Problem :=
  match properties.anchor, rest with
  | none, .broken problem :: _ => problem
  | _, _ => .undefinedHandle

/-- The tag with its handle replaced by what it stands for; `rest` is what
follows the properties. -/
def writtenTag
    (handles : Handles)
    (properties : Properties)
    (rest : List Token) : Reading WrittenTag :=
  match properties.tag with
  | none => .ok .none
  | some (none, suffix) => .ok (.ofName suffix)
  | some (some handle, suffix) =>
      match handles.lookup handle with
      | some content => .ok (.ofName (content ++ suffix))
      | none => .error (properties.handleProblem rest)

end Properties

/-- Where a node stands. -/
inductive Position
  /-- Between brackets. -/
  | flow
  /-- As an item of a block sequence, or as a whole document. -/
  | item
  /-- As a key or a value of a block mapping, where a block sequence need not be
  indented. -/
  | part
  deriving DecidableEq

/-- Whether a token shows that nothing is written at a position. -/
def Position.isLeftOpenBy
    (position : Position) : Token → Bool
  | .key => position != .flow
  | .value => true
  | .blockEnd => position != .flow
  | .blockItem => position == .item
  | .flowSeparator => position == .flow
  | .flowSequenceEnd => position == .flow
  | .flowMappingEnd => position == .flow
  | _ => false

/-- A part of a document that has been read. -/
structure Found (α : Type) (bound : Nat) where
  /-- What has been read. -/
  part : α
  /-- The nodes that have been found so far. -/
  graph : Graph
  /-- The tokens that follow. -/
  rest : List Token
  /-- There are fewer of them than there were. -/
  length_lt : rest.length < bound

/-- The node for properties that no node follows; without properties there has
to be one. -/
def readNothing
    (graph : Graph)
    (tag : WrittenTag)
    (tokens : List Token) : Reading (Found Nat tokens.length) :=
  let properties := (Properties.take tokens).1
  let rest := (Properties.take tokens).2
  match rest with
  | .broken problem :: _ => .error problem
  | _ =>
      if written : properties.isEmpty = false then do
        let (number, graph) ←
          graph.addNamed properties.anchor (tag.scalar [] true) (.scalar [])
        .ok ⟨number, graph, rest, Properties.length_take_lt tokens written⟩
      else .error .unexpectedToken

mutual

/-- Read a node or an alias. -/
def read
    (handles : Handles)
    (position : Position)
    (graph : Graph)
    (tokens : List Token) : Reading (Found Nat tokens.length) :=
  match tokens with
  | .alias name :: rest =>
      match graph.anchors.lookup name with
      | some number => .ok ⟨number, graph, rest, by simp⟩
      | none => .error .undefinedAlias
  | tokens => do
      let found := Properties.take tokens
      let tag ← found.1.writtenTag handles found.2
      readUnnamed handles position graph tag tokens
termination_by 4 * tokens.length + 1

/-- Read a node after its properties, which stand at the start of the tokens. With
properties the node itself may be empty. -/
def readUnnamed
    (handles : Handles)
    (position : Position)
    (graph : Graph)
    (tag : WrittenTag)
    (tokens : List Token) : Reading (Found Nat tokens.length) :=
  let start := fun (usual : Tag) (shape : Shape) =>
    graph.addNamed (Properties.take tokens).1.anchor (tag.collection usual) shape
  match following : (Properties.take tokens).2 with
  | .scalar content plain :: rest => do
      have smaller := Properties.length_lt_of_take following
      let (number, graph) ←
        graph.addNamed (Properties.take tokens).1.anchor (tag.scalar content plain)
          (.scalar content)
      .ok ⟨number, graph, rest, smaller⟩
  | .flowSequenceStart :: rest => do
      have smaller := Properties.length_lt_of_take following
      let (number, graph) ← start .sequence (.sequence [])
      let ⟨items, graph, rest, fewer⟩ ← readFlowItems handles graph rest
      .ok ⟨number, graph.fill number (.sequence items), rest, by omega⟩
  | .flowMappingStart :: rest => do
      have smaller := Properties.length_lt_of_take following
      let (number, graph) ← start .mapping (.mapping [])
      let ⟨entries, graph, rest, fewer⟩ ← readFlowEntries handles graph rest
      .ok ⟨number, graph.fill number (.mapping entries), rest, by omega⟩
  | .blockItem :: rest =>
      if position == .part then do
        have smaller := Properties.length_lt_of_take following
        let (number, graph) ← start .sequence (.sequence [])
        let ⟨items, graph, rest, fewer⟩ ← readItems handles true graph rest
        .ok ⟨number, graph.fill number (.sequence items), rest, by omega⟩
      else readNothing graph tag tokens
  | .blockSequenceStart :: .blockItem :: rest =>
      if position == .flow then readNothing graph tag tokens
      else do
        have smaller : rest.length < tokens.length :=
          Nat.lt_of_succ_lt (Properties.length_lt_of_take following)
        let (number, graph) ← start .sequence (.sequence [])
        let ⟨items, graph, rest, fewer⟩ ← readItems handles false graph rest
        .ok ⟨number, graph.fill number (.sequence items), rest, by omega⟩
  | .blockMappingStart :: rest =>
      if position == .flow then readNothing graph tag tokens
      else do
        have smaller := Properties.length_lt_of_take following
        let (number, graph) ← start .mapping (.mapping [])
        let ⟨entries, graph, rest, fewer⟩ ← readEntries handles graph rest
        .ok ⟨number, graph.fill number (.mapping entries), rest, by omega⟩
  | _ => readNothing graph tag tokens
termination_by 4 * tokens.length

/-- Read a node, or none at all if the next token shows that nothing is
written. -/
def readOptional
    (handles : Handles)
    (position : Position)
    (graph : Graph)
    (tokens : List Token) : Reading (Found Nat (tokens.length + 1)) :=
  if tokens.head?.any position.isLeftOpenBy then
    let (number, graph) := graph.addAbsent
    .ok ⟨number, graph, tokens, by simp⟩
  else do
    let ⟨number, graph, rest, fewer⟩ ← read handles position graph tokens
    .ok ⟨number, graph, rest, by omega⟩
termination_by 4 * tokens.length + 2

/-- Read the value of an entry. An entry need not have one. -/
def readValue
    (handles : Handles)
    (position : Position)
    (graph : Graph)
    (tokens : List Token) : Reading (Found Nat (tokens.length + 1)) :=
  match tokens with
  | .value :: rest => do
      let ⟨number, graph, rest, fewer⟩ ← readOptional handles position graph rest
      .ok ⟨number, graph, rest, by simp only [List.length_cons]; omega⟩
  | tokens =>
      let (number, graph) := graph.addAbsent
      .ok ⟨number, graph, tokens, by simp⟩
termination_by 4 * tokens.length

/-- Read the key and the value of an entry after the sign of its key. -/
def readEntry
    (handles : Handles)
    (position : Position)
    (graph : Graph)
    (tokens : List Token) : Reading (Found (Nat × Nat) (tokens.length + 1)) := do
  let ⟨key, graph, rest, fewer⟩ ← readOptional handles position graph tokens
  let ⟨value, graph, rest, fewer'⟩ ← readValue handles position graph rest
  .ok ⟨(key, value), graph, rest, by omega⟩
termination_by 4 * tokens.length + 3

/-- Read the items of a block sequence after the sign of its first item. A
sequence that is not indented ends where no further item starts, the others at
their end. -/
def readItems
    (handles : Handles)
    (unindented : Bool)
    (graph : Graph)
    (tokens : List Token) : Reading (Found (List Nat) (tokens.length + 1)) := do
  let ⟨item, graph, rest, fewer⟩ ← readOptional handles .item graph tokens
  match rest, fewer with
  | .blockItem :: rest, fewer => do
      have smaller : rest.length < tokens.length := by simp only [List.length_cons] at fewer; omega
      let ⟨items, graph, rest, fewer'⟩ ← readItems handles unindented graph rest
      .ok ⟨item :: items, graph, rest, by omega⟩
  | .blockEnd :: after, fewer =>
      if unindented then .ok ⟨[item], graph, .blockEnd :: after, fewer⟩
      else .ok ⟨[item], graph, after, by simp only [List.length_cons] at fewer; omega⟩
  | rest, fewer =>
      if unindented then .ok ⟨[item], graph, rest, fewer⟩ else .error (problemAt rest)
termination_by 4 * tokens.length + 3

/-- Read the entries of a block mapping up to its end. -/
def readEntries
    (handles : Handles)
    (graph : Graph)
    (tokens : List Token) : Reading (Found (List (Nat × Nat)) (tokens.length + 1)) :=
  match tokens with
  | .blockEnd :: rest => .ok ⟨[], graph, rest, by simp only [List.length_cons]; omega⟩
  | .key :: tail => do
      let ⟨entry, graph, rest, fewer⟩ ← readEntry handles .part graph tail
      let ⟨entries, graph, rest, fewer'⟩ ← readEntries handles graph rest
      .ok ⟨entry :: entries, graph, rest, by simp only [List.length_cons]; omega⟩
  | tokens => .error (problemAt tokens)
termination_by 4 * tokens.length

/-- Read the items of a sequence between brackets up to the closing one, from
where an item may start. An item may be a single entry of a mapping. -/
def readFlowItems
    (handles : Handles)
    (graph : Graph)
    (tokens : List Token) : Reading (Found (List Nat) (tokens.length + 1)) :=
  match tokens with
  | .flowSequenceEnd :: rest => .ok ⟨[], graph, rest, by simp only [List.length_cons]; omega⟩
  | .key :: tail => do
      let ⟨entry, graph, rest, fewer⟩ ← readEntry handles .flow graph tail
      let (item, graph) := graph.add .mapping (.mapping [entry])
      let ⟨items, graph, rest, fewer'⟩ ← readFlowItemsAfter handles graph rest
      .ok ⟨item :: items, graph, rest, by simp only [List.length_cons]; omega⟩
  | tokens => do
      let ⟨item, graph, rest, fewer⟩ ← read handles .flow graph tokens
      let ⟨items, graph, rest, fewer'⟩ ← readFlowItemsAfter handles graph rest
      .ok ⟨item :: items, graph, rest, by omega⟩
termination_by 4 * tokens.length + 2

/-- Read the items of a sequence between brackets after one of them. -/
def readFlowItemsAfter
    (handles : Handles)
    (graph : Graph)
    (tokens : List Token) : Reading (Found (List Nat) (tokens.length + 1)) :=
  match tokens with
  | .flowSequenceEnd :: rest => .ok ⟨[], graph, rest, by simp only [List.length_cons]; omega⟩
  | .flowSeparator :: rest => do
      let ⟨items, graph, rest, fewer⟩ ← readFlowItems handles graph rest
      .ok ⟨items, graph, rest, by simp only [List.length_cons]; omega⟩
  | tokens => .error (problemAt tokens)
termination_by 4 * tokens.length

/-- Read the entries of a mapping between brackets up to the closing one, from
where an entry may start. A node without a colon is a key. -/
def readFlowEntries
    (handles : Handles)
    (graph : Graph)
    (tokens : List Token) : Reading (Found (List (Nat × Nat)) (tokens.length + 1)) :=
  match tokens with
  | .flowMappingEnd :: rest => .ok ⟨[], graph, rest, by simp only [List.length_cons]; omega⟩
  | .key :: tail => do
      let ⟨entry, graph, rest, fewer⟩ ← readEntry handles .flow graph tail
      let ⟨entries, graph, rest, fewer'⟩ ← readFlowEntriesAfter handles graph rest
      .ok ⟨entry :: entries, graph, rest, by simp only [List.length_cons]; omega⟩
  | tokens => do
      let ⟨key, graph, rest, fewer⟩ ← read handles .flow graph tokens
      let (value, graph) := graph.addAbsent
      let ⟨entries, graph, rest, fewer'⟩ ← readFlowEntriesAfter handles graph rest
      .ok ⟨(key, value) :: entries, graph, rest, by omega⟩
termination_by 4 * tokens.length + 2

/-- Read the entries of a mapping between brackets after one of them. -/
def readFlowEntriesAfter
    (handles : Handles)
    (graph : Graph)
    (tokens : List Token) : Reading (Found (List (Nat × Nat)) (tokens.length + 1)) :=
  match tokens with
  | .flowMappingEnd :: rest => .ok ⟨[], graph, rest, by simp only [List.length_cons]; omega⟩
  | .flowSeparator :: rest => do
      let ⟨entries, graph, rest, fewer⟩ ← readFlowEntries handles graph rest
      .ok ⟨entries, graph, rest, by simp only [List.length_cons]; omega⟩
  | tokens => .error (problemAt tokens)
termination_by 4 * tokens.length

end

/-- Read the directives in front of a document. The version must be given once at
most and a handle declared once at most. -/
def readDirectives
    (versioned : Bool)
    (declared : Handles) : List Token → Reading (Handles × List Token)
  | .directive content :: rest =>
      match content with
      | .version major =>
          if versioned then .error .repeatedDirective
          else if major != 1 then .error .unsupportedVersion
          else readDirectives true declared rest
      | .handle name content =>
          if (declared.lookup name).isSome then .error .repeatedDirective
          else readDirectives versioned ((name, content) :: declared) rest
      | .other => readDirectives versioned declared rest
  | rest => .ok (declared ++ standardHandles, rest)

/-- Make sure that nothing follows a document but the signs of its end. -/
def checkEnd (tokens : List Token) : Reading Unit :=
  match tokens.dropWhile (· == .documentEnd) with
  | [.textEnd] => .ok ()
  | rest =>
      match readDirectives false [] rest with
      | .error problem => .error problem
      | .ok (_, .broken problem :: _) => .error problem
      | .ok _ => .error .secondDocument

/-- The root and the graph of a document from its first node on, with nothing after
it. -/
def readRoot
    (handles : Handles)
    (tokens : List Token) : Reading (Nat × Graph) := do
  let ⟨root, graph, rest, _⟩ ← read handles .item .empty tokens
  checkEnd rest
  .ok (root, graph)

/-- The root and the graph of a document after its start, where nothing need be
written. -/
def readStarted
    (handles : Handles)
    (tokens : List Token) : Reading (Nat × Graph) :=
  match tokens with
  | .directive _ :: _ | .documentStart :: _ | .documentEnd :: _ | .textEnd :: _ => do
      checkEnd tokens
      .ok Graph.empty.addAbsent
  | _ => readRoot handles tokens

/-- The root and the graph of the only document of a list of tokens, if there is
one. -/
def ofTokens? (tokens : List Token) : Reading (Option (Nat × Graph)) :=
  match tokens with
  | [.textEnd] => .ok none
  | .directive _ :: _ | .documentStart :: _ => do
      let (handles, rest) ← readDirectives false [] tokens
      match rest with
      | .documentStart :: rest => (readStarted handles rest).map some
      | _ => .error (problemAt rest)
  | _ => (readRoot standardHandles tokens).map some

end Node
end Document
end DataContract
