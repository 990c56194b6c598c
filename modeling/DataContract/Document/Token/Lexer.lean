import DataContract.Document.Scalar.Block
import DataContract.Document.Source
import DataContract.Document.Token.Directive

/-!
# From text to tokens

The lexer walks over a text once. Outside brackets it keeps the columns of the
blocks around the place it has come to, and closes those that the next token is
left of. Whether a node is the key of a mapping shows only at the colon after
it, so the lexer keeps, for every level of brackets, the node that a colon may
turn into a key; the tokens in front of such a node are put in then. A key
without a question mark must be on one line with its colon and not longer than
`maxKeyLength`.
-/

namespace DataContract
namespace Document

/-- The greatest number of characters between the start of a key and its
colon. -/
def maxKeyLength : Nat := 1024

/-- A node that may become a key. -/
structure PossibleKey where
  /-- The number of tokens before it. -/
  number : Nat
  /-- Whether it must become a key. -/
  required : Bool
  /-- The number of characters before it. -/
  index : Nat
  /-- The line where it starts. -/
  line : Nat
  /-- The column where it starts. -/
  column : Nat

/-- What the lexer knows at a place. -/
structure Lexer where
  /-- The place. -/
  cursor : Cursor
  /-- The tokens so far, latest first. -/
  tokens : List Token
  /-- Their number. -/
  count : Nat
  /-- The number of open brackets. -/
  flow : Nat
  /-- The columns of the open blocks, innermost first. -/
  indents : List Nat
  /-- Whether a node may become a key here. -/
  keyAllowed : Bool
  /-- The possible keys by level of brackets. -/
  keys : List (Nat × PossibleKey)

namespace Lexer

/-- The lexer before the first character. -/
def start (chars : List Char) : Lexer :=
  { cursor := .start chars
    tokens := []
    count := 0
    flow := 0
    indents := []
    keyAllowed := true
    keys := [] }

/-- Whether the place is outside all brackets. -/
def inBlock (lexer : Lexer) : Bool :=
  lexer.flow == 0

/-- The first column that is inside the innermost block. -/
def innerColumn (lexer : Lexer) : Nat :=
  match lexer.indents with
  | [] => 0
  | indent :: _ => indent + 1

/-- Add a token and go to a place. -/
def add
    (lexer : Lexer)
    (token : Token)
    (cursor : Cursor) : Lexer :=
  { lexer with
    cursor
    tokens := token :: lexer.tokens
    count := lexer.count + 1 }

/-- Put a token in front of the token with a number. -/
def insert
    (lexer : Lexer)
    (token : Token)
    (number : Nat) : Lexer :=
  let later := lexer.count - number
  { lexer with
    tokens := lexer.tokens.take later ++ token :: lexer.tokens.drop later
    count := lexer.count + 1 }

/-- Close blocks as long as `left` holds for their columns. -/
def closeBlocks
    (lexer : Lexer)
    (left : Nat → Bool) : Lexer :=
  let closed := lexer.indents.takeWhile left
  { lexer with
    tokens := closed.map (fun _ => .blockEnd) ++ lexer.tokens
    count := lexer.count + closed.length
    indents := lexer.indents.dropWhile left }

/-- Drop the possible keys that have become too old: on an earlier line or too
far back. -/
def dropOldKeys (lexer : Lexer) : Reading Lexer :=
  let isOld := fun (entry : Nat × PossibleKey) =>
    entry.2.line != lexer.cursor.line || lexer.cursor.index - entry.2.index > maxKeyLength
  if lexer.keys.any fun entry => isOld entry && entry.2.required then .error .missingColon
  else .ok { lexer with keys := lexer.keys.filter (!isOld ·) }

/-- Drop the possible key of the current level. -/
def dropKey (lexer : Lexer) : Reading Lexer :=
  match lexer.keys.lookup lexer.flow with
  | some key =>
      if key.required then .error .missingColon
      else .ok { lexer with keys := lexer.keys.filter fun entry => entry.1 != lexer.flow }
  | none => .ok lexer

/-- Keep the node that starts here as a possible key. A node that is the first
thing in a block mapping's column must become one. -/
def keepKey (lexer : Lexer) : Reading Lexer :=
  if lexer.keyAllowed then do
    let lexer ← lexer.dropKey
    let cursor := lexer.cursor
    let key : PossibleKey :=
      { number := lexer.count
        required := lexer.inBlock && lexer.indents.head? == some cursor.column
        index := cursor.index
        line := cursor.line
        column := cursor.column }
    .ok { lexer with keys := (lexer.flow, key) :: lexer.keys }
  else .ok lexer

/-- Open a block in a column unless the innermost block starts there. -/
def opensBlock
    (lexer : Lexer)
    (column : Nat) : Bool :=
  lexer.indents.head?.all (· < column)

/-- Go past spaces, comments and line ends. Outside brackets a node on a new line
may become a key. -/
def skipGaps (lexer : Lexer) : Lexer :=
  let after := lexer.cursor.skipComment
  if after.peek.any isBreak then
    if _later : after.next.isAfter lexer.cursor then
      skipGaps
        { lexer with
          cursor := after.next
          keyAllowed := lexer.keyAllowed || lexer.inBlock }
    else { lexer with cursor := after }
  else { lexer with cursor := after }
termination_by lexer.cursor.remaining
decreasing_by exact Cursor.remaining_lt_of_isAfter _later

/-- Go past the mark in front of the document. -/
def skipMark (lexer : Lexer) : Lexer :=
  if lexer.cursor.index == 0 && lexer.cursor.peek == some byteOrderMark then
    { lexer with cursor := lexer.cursor.next }
  else lexer

/-- Read a sign of `width` characters that stands outside all blocks. -/
def readOutside
    (lexer : Lexer)
    (token : Token)
    (width : Nat) : Reading Lexer := do
  let lexer ← (lexer.closeBlocks fun _ => true).dropKey
  .ok ({ lexer with keyAllowed := false }.add token (lexer.cursor.skip width))

/-- Read a directive with its line. -/
def readDirectiveLine (lexer : Lexer) : Reading Lexer := do
  let lexer ← (lexer.closeBlocks fun _ => true).dropKey
  let (directive, after) ← readDirective lexer.cursor.next
  match after.finishLine? with
  | some after => .ok ({ lexer with keyAllowed := false }.add (.directive directive) after)
  | none => .error .malformedDirective

/-- Read an opening bracket. -/
def openBracket
    (lexer : Lexer)
    (token : Token) : Reading Lexer := do
  let lexer ← lexer.keepKey
  .ok
    ({ lexer with
      flow := lexer.flow + 1
      keyAllowed := true }.add token lexer.cursor.next)

/-- Read a closing bracket. -/
def closeBracket
    (lexer : Lexer)
    (token : Token) : Reading Lexer := do
  let lexer ← lexer.dropKey
  .ok
    ({ lexer with
      flow := lexer.flow - 1
      keyAllowed := false }.add token lexer.cursor.next)

/-- Read a comma between brackets. -/
def readSeparator (lexer : Lexer) : Reading Lexer := do
  let lexer ← lexer.dropKey
  .ok ({ lexer with keyAllowed := true }.add .flowSeparator lexer.cursor.next)

/-- Start a block in the current column, if none starts there, before a sign that
needs one. -/
def startBlock
    (lexer : Lexer)
    (token : Token)
    (refusal : Problem) : Reading Lexer :=
  if !lexer.inBlock then .ok lexer
  else if !lexer.keyAllowed then .error refusal
  else if lexer.opensBlock lexer.cursor.column then
    .ok
      ({ lexer with indents := lexer.cursor.column :: lexer.indents }.add token lexer.cursor)
  else .ok lexer

/-- Read the sign of an item of a block sequence. -/
def readItem (lexer : Lexer) : Reading Lexer := do
  let lexer ← lexer.startBlock .blockSequenceStart .itemNotAllowed
  let lexer ← { lexer with keyAllowed := true }.dropKey
  .ok (lexer.add .blockItem lexer.cursor.next)

/-- Read the sign of a key. -/
def readKey (lexer : Lexer) : Reading Lexer := do
  let lexer ← lexer.startBlock .blockMappingStart .keyNotAllowed
  let lexer ← { lexer with keyAllowed := lexer.inBlock }.dropKey
  .ok (lexer.add .key lexer.cursor.next)

/-- Read the sign of a value. If there is a possible key it becomes one. -/
def readValue (lexer : Lexer) : Reading Lexer :=
  match lexer.keys.lookup lexer.flow with
  | some key =>
      let opens := lexer.inBlock && lexer.opensBlock key.column
      let lexer := lexer.insert .key key.number
      let lexer := if opens then lexer.insert .blockMappingStart key.number else lexer
      .ok
        ({ lexer with
          indents := if opens then key.column :: lexer.indents else lexer.indents
          keyAllowed := false
          keys := lexer.keys.filter fun entry => entry.1 != lexer.flow }.add .value
            lexer.cursor.next)
  | none => do
      let lexer ← lexer.startBlock .blockMappingStart .valueNotAllowed
      let lexer ← { lexer with keyAllowed := lexer.inBlock }.dropKey
      .ok (lexer.add .value lexer.cursor.next)

/-- Read a node or a property that may start a key; `read` reads what follows its
first character. -/
def readKeyPart
    (lexer : Lexer)
    (read : Cursor → Reading (Token × Cursor)) : Reading Lexer := do
  let lexer ← lexer.keepKey
  let (token, after) ← read lexer.cursor.next
  .ok ({ lexer with keyAllowed := false }.add token after)

/-- Read a quoted scalar. -/
def readQuotedScalar
    (lexer : Lexer)
    (double : Bool) : Reading Lexer :=
  lexer.readKeyPart fun start =>
    (readQuoted double start).map fun found => (.scalar found.1 false, found.2)

/-- Read a block scalar. -/
def readBlockScalar
    (lexer : Lexer)
    (folded : Bool) : Reading Lexer := do
  let lexer ← { lexer with keyAllowed := true }.dropKey
  let (content, after) ← readBlock folded (max lexer.innerColumn 1) lexer.cursor.next
  .ok (lexer.add (.scalar content false) after)

/-- Read a plain scalar. -/
def readPlainScalar (lexer : Lexer) : Reading Lexer := do
  let lexer ← lexer.keepKey
  let found := readPlain (!lexer.inBlock) lexer.innerColumn lexer.cursor
  .ok ({ lexer with keyAllowed := found.crossed }.add (.scalar found.content true) found.after)

/-- Signs that cannot start a plain scalar. -/
def signs : List Char :=
  "-?:,[]\x7b\x7d#&*!|>\"%@".toList ++ [Char.ofNat 39, Char.ofNat 96]

/-- Whether a plain scalar starts with a character; `rest` is what follows. -/
def startsPlain
    (lexer : Lexer)
    (c : Char)
    (rest : List Char) : Bool :=
  !(isGap c || signs.contains c) ||
    (!atGap rest && (c == '-' || (lexer.inBlock && (c == '?' || c == ':'))))

/-- Read the token that starts with a character; `rest` is what follows. -/
def readToken
    (lexer : Lexer)
    (c : Char)
    (rest : List Char) : Reading Lexer :=
  let inFirstColumn := lexer.cursor.column == 0
  if inFirstColumn && c == '%' then lexer.readDirectiveLine
  else if inFirstColumn && startsWithRule '-' (c :: rest) then
    lexer.readOutside .documentStart 3
  else if inFirstColumn && startsWithRule '.' (c :: rest) then lexer.readOutside .documentEnd 3
  else if c == '[' then lexer.openBracket .flowSequenceStart
  else if c == '\x7b' then lexer.openBracket .flowMappingStart
  else if c == ']' then lexer.closeBracket .flowSequenceEnd
  else if c == '\x7d' then lexer.closeBracket .flowMappingEnd
  else if c == ',' then lexer.readSeparator
  else if c == '-' && atGap rest then lexer.readItem
  else if c == '?' && (!lexer.inBlock || atGap rest) then lexer.readKey
  else if c == ':' && (!lexer.inBlock || atGap rest) then lexer.readValue
  else if c == '*' then
    lexer.readKeyPart fun start =>
      (readAnchor start).map fun found => (.alias found.1, found.2)
  else if c == '&' then
    lexer.readKeyPart fun start =>
      (readAnchor start).map fun found => (.anchor found.1, found.2)
  else if c == '!' then lexer.readKeyPart readTag
  else if c == '|' && lexer.inBlock then lexer.readBlockScalar false
  else if c == '>' && lexer.inBlock then lexer.readBlockScalar true
  else if c == Char.ofNat 39 then lexer.readQuotedScalar false
  else if c == '"' then lexer.readQuotedScalar true
  else if lexer.startsPlain c rest then lexer.readPlainScalar
  else .error .unexpectedCharacter

/-- Go to the next token and read it, if there is one. -/
def step (lexer : Lexer) : Reading (Option Lexer) := do
  let lexer ← lexer.skipMark.skipGaps.dropOldKeys
  let column := lexer.cursor.column
  let lexer := if lexer.inBlock then lexer.closeBlocks (column < ·) else lexer
  match lexer.cursor.rest with
  | [] => do
      let _ ← lexer.dropKey
      .ok none
  | c :: rest => (lexer.readToken c rest).map some

/-- The tokens in their order, and last ones. -/
def finish
    (lexer : Lexer)
    (last : List Token) : List Token :=
  lexer.tokens.reverseAux last

/-- The number of tokens that nothing can come before any more: those before the
first possible key. -/
def settledCount (lexer : Lexer) : Nat :=
  match lexer.dropOldKeys with
  | .ok lexer => (lexer.keys.map fun entry => entry.2.number).foldl min lexer.count
  | .error _ => lexer.count

/-- The settled tokens, and a problem after them. -/
def breakOff
    (lexer : Lexer)
    (problem : Problem) : List Token :=
  let unsettled := lexer.count - lexer.settledCount
  { lexer with tokens := lexer.tokens.drop unsettled }.finish [.broken problem]

/-- The problem of a step. A text that cannot be read any further ends in no
quoted scalar. -/
def problemOr
    (fault : Option Problem)
    (problem : Problem) : Problem :=
  if problem = .unterminatedQuote then fault.getD problem else problem

/-- The tokens of a text whose first part has been read. A fault prevents reading
what follows the text, and shows as soon as a step comes close to it. -/
def run
    (fault : Option Problem)
    (lexer : Lexer) : List Token :=
  match lexer.step, fault with
  | .error problem, _ => lexer.breakOff (problemOr fault problem)
  | .ok none, some problem => lexer.breakOff problem
  | .ok none, none => (lexer.closeBlocks fun _ => true).finish [.textEnd]
  | .ok (some next), _ =>
      if fault.isSome && next.cursor.remaining ≤ 1 then
        lexer.breakOff (fault.getD .unexpectedCharacter)
      else if _later : next.cursor.isAfter lexer.cursor then run fault next
      else lexer.breakOff .unexpectedCharacter
termination_by lexer.cursor.remaining
decreasing_by exact Cursor.remaining_lt_of_isAfter _later

end Lexer

/-- The tokens of a text. -/
def Token.ofSource (source : Source) : List Token :=
  (Lexer.start source.chars).run source.fault

end Document
end DataContract
