import DataContract.Document.Cursor

/-!
# Plain scalars

A scalar without quotes ends at a colon, a comment or, between brackets, at any
sign of a collection. It may go on over several lines that are indented deeper
than the block around it; a line end becomes a space, and each empty line a
line end. Texts that are read piece by piece are kept with the latest character
first.
-/

namespace DataContract
namespace Document

/-- The text of a line end and of the empty lines after it. -/
def foldedBreaks
    (first : Char)
    (others : List Char) : List Char :=
  if breakText first != '\n' then breakText first :: others
  else if others.isEmpty then [' ']
  else others

/-- Whether a plain scalar between brackets ends before a character. -/
def isFlowSign (c : Char) : Bool :=
  c == ',' || c == '[' || c == ']' || c == '\x7b' || c == '\x7d'

/-- Whether a plain scalar ends where a text starts. -/
def endsPlain
    (flow : Bool)
    (chars : List Char) : Bool :=
  match chars with
  | [] => true
  | c :: rest =>
      isGap c ||
        (c == ':' && (atGap rest || (flow && rest.head?.any isFlowSign))) ||
        (flow && (c == '?' || isFlowSign c))

/-- The length of the part of a plain scalar that stands before the next blank. -/
def plainLength
    (flow : Bool)
    (counted : Nat) : List Char → Nat
  | [] => counted
  | c :: rest =>
      if endsPlain flow (c :: rest) then counted else plainLength flow (counted + 1) rest

/-- What stands between two parts of a plain scalar. -/
structure PlainGap where
  /-- The text it stands for. -/
  content : List Char
  /-- Where the next part starts. -/
  after : Cursor
  /-- Whether a line has ended before it. -/
  crossed : Bool

/-- The empty lines at a place with the indentation of the line after them, and
the place from there on; `found` are the line ends before. There is no text for
them if a separator of documents follows. -/
def emptyLines
    (found : List Char)
    (cursor : Cursor) : Option (List Char) × Cursor :=
  let after := cursor.skipWhile (· == ' ')
  match after.rest with
  | [] => (some found.reverse, after)
  | c :: rest =>
      if !isBreak c then (some found.reverse, after)
      else if atSeparator rest then (none, after.next)
      else if _later : after.next.isAfter cursor then emptyLines (breakText c :: found) after.next
      else (some found.reverse, after)
termination_by cursor.remaining
decreasing_by exact Cursor.remaining_lt_of_isAfter _later

/-- The gap after a part of a plain scalar. -/
def plainGap (cursor : Cursor) : PlainGap :=
  let (spaces, after) := cursor.takeWhile (· == ' ')
  match after.rest with
  | [] => ⟨spaces, after, false⟩
  | c :: rest =>
      if !isBreak c then ⟨spaces, after, false⟩
      else if atSeparator rest then ⟨[], after.next, true⟩
      else
        let lines := emptyLines [] after.next
        ⟨lines.1.elim [] (foldedBreaks c), lines.2, true⟩

/-- A plain scalar. -/
structure PlainScalar where
  /-- Its text. -/
  content : List Char
  /-- The place behind it and the blanks that follow it. -/
  after : Cursor
  /-- Whether a line has ended there. -/
  crossed : Bool

/-- Read a plain scalar whose further lines are indented to the column `indent`
at least, after the parts read before and the gap that follows them. -/
def readPlainAfter
    (flow : Bool)
    (indent : Nat)
    (found : List Char)
    (before : PlainGap) : PlainScalar :=
  let cursor := before.after
  let length := plainLength flow 0 cursor.rest
  let run := cursor.rest.take length
  let gap := plainGap (cursor.skip length)
  let longer := run.reverseAux (before.content.reverseAux found)
  if length = 0 then ⟨found.reverse, cursor, before.crossed⟩
  else if gap.content.isEmpty || gap.after.peek == some '#' ||
      (!flow && gap.after.column < indent) then
    ⟨longer.reverse, gap.after, gap.crossed⟩
  else if _later : gap.after.isAfter cursor then readPlainAfter flow indent longer gap
  else ⟨longer.reverse, gap.after, gap.crossed⟩
termination_by before.after.remaining
decreasing_by exact Cursor.remaining_lt_of_isAfter _later

/-- Read a plain scalar whose further lines are indented to the column `indent`
at least. -/
def readPlain
    (flow : Bool)
    (indent : Nat)
    (cursor : Cursor) : PlainScalar :=
  readPlainAfter flow indent [] ⟨[], cursor, false⟩

end Document
end DataContract
