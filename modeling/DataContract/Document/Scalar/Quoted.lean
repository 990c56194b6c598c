import DataContract.Document.Problem
import DataContract.Document.Scalar.Plain
import DataContract.Text.Quoted

/-!
# Quoted scalars

Between apostrophes only the apostrophe itself is special: it is written twice.
Between double quotes a backslash introduces an escape. In both, line ends are
folded as in plain scalars, and a backslash at the end of a line joins it to
the next.
-/

namespace DataContract
namespace Document

open Text

/-- The characters with an escape of one letter. -/
def letterEscapes : List (Char × Nat) := [
  ('0', 0), ('a', 7), ('b', 8), ('t', 9), ('\t', 9), ('n', 10), ('v', 11), ('f', 12),
  ('r', 13), ('e', 27), (' ', 32), ('"', 34), ('\\', 92), ('/', 47), ('N', 133), ('_', 160),
  ('L', 8232), ('P', 8233)]

/-- The number of hexadecimal digits after a letter that introduces a code. -/
def codeWidths : List (Char × Nat) := [('x', 2), ('u', 4), ('U', 8)]

/-- The number that exactly `width` hexadecimal digits at the start of a text
write. -/
def readHex?
    (width : Nat)
    (chars : List Char) : Option Nat :=
  let digits := chars.take width
  if digits.length < width then none
  else
    (digits.mapM hexValue?).map fun values =>
      values.foldl (fun total digit => 16 * total + digit) 0

/-- The greatest code that fits a machine word with a sign. -/
def maxCode : Nat := 2147483647

/-- The character with a code, which may be that of a surrogate. -/
def charOfCode (code : Nat) : Reading Char :=
  if maxCode < code then .error (.content .overflow)
  else if 1114111 < code then .error (.content .badContent)
  else .ok (charAt code)

/-- The line ends before the next character of a quoted scalar, after those found
before with the latest first, and the place of that character; blanks around the
line ends are skipped. -/
def quotedBreaks
    (found : List Char)
    (cursor : Cursor) : Reading (List Char × Cursor) :=
  let after := cursor.skipWhile isSpace
  if atSeparator cursor.rest then .error .separatorInQuote
  else
    match after.peek with
    | none => .ok (found.reverse, after)
    | some c =>
        if !isBreak c then .ok (found.reverse, after)
        else if _later : after.next.isAfter cursor then
          quotedBreaks (breakText c :: found) after.next
        else .ok (found.reverse, after)
termination_by cursor.remaining
decreasing_by exact Cursor.remaining_lt_of_isAfter _later

/-- What an escape stands for, given the place after the backslash, and the place
after the escape. -/
def readEscape (cursor : Cursor) : Reading (List Char × Cursor) :=
  match cursor.peek with
  | none => .error .unknownEscape
  | some c =>
      match letterEscapes.lookup c, codeWidths.lookup c with
      | some code, _ => .ok ([Char.ofNat code], cursor.next)
      | none, some width => do
          match readHex? width cursor.next.rest with
          | none => .error .unknownEscape
          | some code => .ok ([← charOfCode code], cursor.next.skip width)
      | none, none => if isBreak c then quotedBreaks [] cursor.next else .error .unknownEscape

/-- What blanks in a quoted scalar stand for, and the place after them. -/
def readQuotedGap (cursor : Cursor) : Reading (List Char × Cursor) := do
  let (spaces, after) := cursor.takeWhile isSpace
  match after.peek with
  | none => .error .unterminatedQuote
  | some c =>
      if isBreak c then do
        let (breaks, after) ← quotedBreaks [] after.next
        .ok (foldedBreaks c breaks, after)
      else .ok (spaces, after)

/-- Whether a character of a quoted scalar stands for itself. -/
def isOrdinary
    (double : Bool)
    (c : Char) : Bool :=
  !(isGap c || (if double then c == '"' || c == '\\' else c == apostrophe))

/-- What the next piece of a quoted scalar stands for and the place after it, or
none where the scalar is closed. -/
def readQuotedPiece?
    (double : Bool)
    (cursor : Cursor) : Reading (Option (List Char × Cursor)) :=
  match cursor.rest with
  | [] => .error .unterminatedQuote
  | c :: rest =>
      if isGap c then (readQuotedGap cursor).map some
      else if double && c == '\\' then (readEscape cursor.next).map some
      else if !double && c == apostrophe && rest.head? == some apostrophe then
        .ok (some ([apostrophe], cursor.skip 2))
      else if isOrdinary double c then .ok (some (cursor.takeWhile (isOrdinary double)))
      else .ok none

/-- The text of a quoted scalar from a place on, after what has been found before
with the latest character first, and the place after its closing quote. -/
def readQuotedAfter
    (double : Bool)
    (found : List Char)
    (cursor : Cursor) : Reading (List Char × Cursor) :=
  match readQuotedPiece? double cursor with
  | .error problem => .error problem
  | .ok none => .ok (found.reverse, cursor.next)
  | .ok (some (piece, after)) =>
      if _later : after.isAfter cursor then
        readQuotedAfter double (piece.reverseAux found) after
      else .error .unterminatedQuote
termination_by cursor.remaining
decreasing_by exact Cursor.remaining_lt_of_isAfter _later

/-- The text of a quoted scalar, given the place after its opening quote, and the
place after its closing quote. -/
def readQuoted
    (double : Bool)
    (cursor : Cursor) : Reading (List Char × Cursor) :=
  readQuotedAfter double [] cursor

end Document
end DataContract
