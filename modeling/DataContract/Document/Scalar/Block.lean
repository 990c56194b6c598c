import DataContract.Document.Cursor
import DataContract.Document.Problem

/-!
# Block scalars

A scalar that takes whole lines below its sign. Its lines start in one column,
which the header gives or the first line shows. Line ends are kept, or folded
into spaces; the header also says what becomes of the line ends after the last
line.
-/

namespace DataContract
namespace Document

/-- What becomes of the line ends after the last line. -/
inductive Chomping
  | strip
  | clip
  | keep
  deriving DecidableEq

/-- What the header of a block scalar says. -/
structure BlockHeader where
  /-- What becomes of the line ends after the text. -/
  chomping : Chomping
  /-- The number of blanks before each line, if it is written. -/
  indentation : Option Nat

/-- The chomping that a sign asks for. -/
def chompingOf? (c : Char) : Option Chomping :=
  if c == '+' then some .keep
  else if c == '-' then some .strip
  else none

/-- A chomping sign, if there is one, and the place after it. -/
def takeChomping (cursor : Cursor) : Option Chomping × Cursor :=
  match cursor.peek.bind chompingOf? with
  | some chomping => (some chomping, cursor.next)
  | none => (none, cursor)

/-- An indentation from 1 to 9, if there is one, and the place after it. -/
def takeIndentation (cursor : Cursor) : Reading (Option Nat × Cursor) :=
  match cursor.peek with
  | none => .ok (none, cursor)
  | some c =>
      if c == '0' then .error .malformedHeader
      else if c.isDigit then .ok (some (c.toNat - 48), cursor.next)
      else .ok (none, cursor)

/-- The header of a block scalar, which has its two parts in either order, and
the place after it. -/
def readHeader (cursor : Cursor) : Reading (BlockHeader × Cursor) := do
  let (first, after) := takeChomping cursor
  let (indentation, after) ← takeIndentation after
  let (second, after) := if first.isSome then (none, after) else takeChomping after
  .ok (⟨(first <|> second).getD .clip, indentation⟩, after)

/-- The line ends before the next line with a text, after those found before with
the latest first; and the place in the column `indent` of that line, or at its
first character if that comes earlier. -/
def blockBreaks
    (indent : Nat)
    (found : List Char)
    (cursor : Cursor) : List Char × Cursor :=
  let spaces := (cursor.rest.take (indent - cursor.column)).takeWhile (· == ' ')
  let after := cursor.skip spaces.length
  match after.peek with
  | none => (found.reverse, after)
  | some c =>
      if !isBreak c then (found.reverse, after)
      else if _later : after.next.isAfter cursor then
        blockBreaks indent (breakText c :: found) after.next
      else (found.reverse, after)
termination_by cursor.remaining
decreasing_by exact Cursor.remaining_lt_of_isAfter _later

/-- The greatest column that spaces at the start of a text lead to, given the
column of the place and the greatest column before it. -/
def deepestColumn (deepest : Nat) : Nat → List Char → Nat
  | _, [] => deepest
  | column, c :: rest =>
      if c == ' ' then deepestColumn (max (column + 1) deepest) (column + 1) rest
      else deepestColumn deepest 0 rest

/-- What has been read of a block scalar. -/
structure BlockText where
  /-- The text, latest character first. -/
  content : List Char
  /-- The end of its last line. -/
  lineEnd : List Char
  /-- The line ends after that. -/
  breaks : List Char
  /-- The place behind it. -/
  after : Cursor

/-- Whether a text starts with a blank. -/
def startsWithSpace (chars : List Char) : Bool :=
  chars.head?.any isSpace

/-- What stands between a line and the next one. Folding leaves the ends of
lines that start with a blank alone. -/
def joint
    (folded : Bool)
    (line lineEnd breaks rest : List Char) : List Char :=
  if folded && lineEnd == ['\n'] && !startsWithSpace line && !startsWithSpace rest then
    if breaks.isEmpty then [' '] else []
  else lineEnd

/-- Read the lines of a block scalar that start in the column `indent`, after
the text and the line ends read before. -/
def blockLines
    (folded : Bool)
    (indent : Nat)
    (content breaks : List Char)
    (cursor : Cursor) : BlockText :=
  if cursor.column == indent && !cursor.rest.isEmpty then
    let (line, after) := cursor.takeWhile (!isBreak ·)
    let content := line.reverseAux (breaks.reverseAux content)
    let lineEnd := (after.rest.take 1).map breakText
    let (breaks, last) := blockBreaks indent [] after.next
    let more := (joint folded line lineEnd breaks last.rest).reverseAux content
    if last.column == indent && !last.rest.isEmpty then
      if _later : last.isAfter cursor then blockLines folded indent more breaks last
      else ⟨content, lineEnd, breaks, last⟩
    else ⟨content, lineEnd, breaks, last⟩
  else ⟨content, [], breaks, cursor⟩
termination_by cursor.remaining
decreasing_by exact Cursor.remaining_lt_of_isAfter _later

/-- The text of a block scalar whose lines have been read. -/
def BlockText.chomped
    (found : BlockText)
    (chomping : Chomping) : List Char :=
  match chomping with
  | .strip => found.content.reverse
  | .clip => found.content.reverse ++ found.lineEnd
  | .keep => found.content.reverse ++ found.lineEnd ++ found.breaks

/-- Read a block scalar, given the place after its sign and the column that its
lines must reach. -/
def readBlock
    (folded : Bool)
    (least : Nat)
    (cursor : Cursor) : Reading (List Char × Cursor) := do
  let (header, after) ← readHeader cursor
  if !atSpace after.rest then .error .malformedHeader
  else
    match after.finishLine? with
    | none => .error .malformedHeader
    | some start =>
        let gap := start.takeWhile fun c => c == ' ' || isBreak c
        let (indent, breaks, first) :=
          match header.indentation with
          | some depth =>
              let indent := least + depth - 1
              (indent, blockBreaks indent [] start)
          | none =>
              let indent := max least (deepestColumn 0 start.column gap.1)
              (indent, (gap.1.filter isBreak).map breakText, gap.2)
        let block := blockLines folded indent [] breaks first
        .ok (block.chomped header.chomping, block.after)

end Document
end DataContract
