import DataContract.Text.Ranges

/-!
# Places in documents

Blocks of a document are shaped by the columns in which they start, so a reader
keeps the place it has come to: the line, the column and the number of
characters before it.
-/

namespace DataContract
namespace Document

open Text

/-- Code points that a document may hold. -/
def documentRanges : CodeRanges := [
  (9, 10), (13, 13), (32, 126), (133, 133), (160, 55295), (57344, 65533), (65536, 1114111)]

/-- The mark that may stand in front of a document. -/
def byteOrderMark : Char := Char.ofNat 65279

/-- Whether a character ends a line. -/
def isBreak (c : Char) : Bool :=
  c == '\n' || c.toNat == 133 || c.toNat == 8232 || c.toNat == 8233

/-- The text that a line end stands for. The separators of lines and of
paragraphs are kept. -/
def breakText (c : Char) : Char :=
  if c.toNat == 8232 || c.toNat == 8233 then c else '\n'

/-- Whether a character is a blank within a line. -/
def isSpace (c : Char) : Bool :=
  c == ' ' || c == '\t'

/-- Whether a character is a blank or ends a line. -/
def isGap (c : Char) : Bool :=
  isSpace c || isBreak c

/-- Whether a text has ended or goes on with one of some characters. -/
def endsBefore (stops : Char → Bool) : List Char → Bool
  | [] => true
  | c :: _ => stops c

/-- Whether a text has ended or goes on with a gap. -/
def atGap (chars : List Char) : Bool :=
  endsBefore isGap chars

/-- Whether a text has ended or goes on with a space or a line end. -/
def atSpace (chars : List Char) : Bool :=
  endsBefore (fun c => c == ' ' || isBreak c) chars

/-- Whether a line has ended. -/
def atLineEnd (chars : List Char) : Bool :=
  endsBefore isBreak chars

/-- Whether a text starts with three equal signs that stand alone. -/
def startsWithRule
    (sign : Char)
    (chars : List Char) : Bool :=
  chars.take 3 == [sign, sign, sign] && atGap (chars.drop 3)

/-- Whether a text starts with a separator of documents. -/
def atSeparator (chars : List Char) : Bool :=
  startsWithRule '-' chars || startsWithRule '.' chars

/-- Whether a character may be part of a name. -/
def isNameChar (c : Char) : Bool :=
  c.isAlphanum || c == '-' || c == '_'

/-- A place in a document. -/
structure Cursor where
  /-- The text from here on. -/
  rest : List Char
  /-- The number of characters in it. -/
  remaining : Nat
  /-- The number of characters before it. -/
  index : Nat
  /-- The number of lines before this one. -/
  line : Nat
  /-- The number of characters before it on this line. -/
  column : Nat

namespace Cursor

/-- The start of a document. -/
def start (chars : List Char) : Cursor := ⟨chars, chars.length, 0, 0, 0⟩

/-- The place after the next character. A byte order mark takes no column. -/
def next (cursor : Cursor) : Cursor :=
  match cursor.rest with
  | [] => cursor
  | c :: rest =>
      let remaining := cursor.remaining - 1
      let index := cursor.index + 1
      if isBreak c then ⟨rest, remaining, index, cursor.line + 1, 0⟩
      else if c == byteOrderMark then ⟨rest, remaining, index, cursor.line, cursor.column⟩
      else ⟨rest, remaining, index, cursor.line, cursor.column + 1⟩

/-- The place after so many characters. -/
def skip (cursor : Cursor) : Nat → Cursor
  | 0 => cursor
  | count + 1 => cursor.next.skip count

/-- The next character, if the document has not ended. -/
def peek (cursor : Cursor) : Option Char :=
  cursor.rest.head?

/-- Whether a place comes after another one. -/
def isAfter (cursor earlier : Cursor) : Bool :=
  decide (cursor.remaining < earlier.remaining)

theorem remaining_lt_of_isAfter
    {cursor earlier : Cursor}
    (after : cursor.isAfter earlier = true) :
    cursor.remaining < earlier.remaining :=
  of_decide_eq_true after

/-- The longest run of characters of a kind, and the place after it. -/
def takeWhile
    (cursor : Cursor)
    (kind : Char → Bool) : List Char × Cursor :=
  let run := cursor.rest.takeWhile kind
  (run, cursor.skip run.length)

/-- The place after the longest run of characters of a kind. -/
def skipWhile
    (cursor : Cursor)
    (kind : Char → Bool) : Cursor :=
  (cursor.takeWhile kind).2

/-- The place after spaces and a comment. -/
def skipComment (cursor : Cursor) : Cursor :=
  let after := cursor.skipWhile (· == ' ')
  if after.peek == some '#' then after.skipWhile (!isBreak ·) else after

/-- The place after spaces, a comment and the end of the line; nothing else may
stand there. -/
def finishLine? (cursor : Cursor) : Option Cursor :=
  let after := cursor.skipComment
  if atLineEnd after.rest then some after.next else none

end Cursor

end Document
end DataContract
