import DataContract.Document.Scalar.Quoted
import DataContract.Document.Token
import DataContract.Text.Encoded

/-!
# Properties of nodes

An anchor names a node so that an alias can repeat it. A tag names the type of
a node: a handle, which stands for the first part of the type's full name, and
the rest of that name. Full names may hold bytes in hexadecimal after a percent
sign.
-/

namespace DataContract
namespace Document

open Text

/-- A name, which must not be empty, and the place after it. -/
def readName (cursor : Cursor) : Reading (List Char × Cursor) :=
  let found := cursor.takeWhile isNameChar
  if found.1.isEmpty then .error .malformedName else .ok found

/-- Whether the name of an anchor or an alias may end before a character. -/
def endsName (c : Char) : Bool :=
  isGap c || "?:,]\x7d%@".toList.contains c || c.toNat == 96

/-- The name of an anchor or an alias, and the place after it. -/
def readAnchor (cursor : Cursor) : Reading (List Char × Cursor) := do
  let (name, after) ← readName cursor
  if endsBefore endsName after.rest then .ok (name, after) else .error .malformedName

/-- Whether a character of the full name of a type stands for itself. -/
def isTagChar (c : Char) : Bool :=
  c.isAlphanum || "-;/?:@&=+$,_.!~*()[]".toList.contains c || c == apostrophe

/-- The bytes at the start of a text that are written in hexadecimal, each after a
percent sign. -/
def percentBytes : List Char → Reading (List UInt8)
  | '%' :: high :: low :: rest =>
      match hexValue? high, hexValue? low with
      | some high, some low => do
          let bytes ← percentBytes rest
          .ok (UInt8.ofNat (16 * high + low) :: bytes)
      | _, _ => .error .malformedTag
  | '%' :: _ => .error .malformedTag
  | _ => .ok []

/-- The full name of a type or a part of it after what has been found before, and
the place after it. -/
def readTagNameAfter
    (found : List Char)
    (cursor : Cursor) : Reading (List Char × Cursor) := do
  let (run, after) := cursor.takeWhile isTagChar
  if after.peek == some '%' then
    let bytes ← percentBytes after.rest
    let next := after.skip (3 * bytes.length)
    match decode? bytes with
    | none => .error .malformedTag
    | some piece =>
        if _later : next.isAfter cursor then readTagNameAfter (found ++ run ++ piece) next
        else .error .malformedTag
  else .ok (found ++ run, after)
termination_by cursor.remaining
decreasing_by exact Cursor.remaining_lt_of_isAfter _later

/-- The full name of a type or a part of it, which must not be empty, and the
place after it. -/
def readTagName (cursor : Cursor) : Reading (List Char × Cursor) := do
  let found ← readTagNameAfter [] cursor
  if found.1.isEmpty then .error .malformedTag else .ok found

/-- A handle after its exclamation mark, and the place after it: the mark stands
alone before a space, or another one follows after a name, which may be empty. -/
def readHandle (cursor : Cursor) : Reading (List Char × Cursor) :=
  if cursor.peek == some ' ' then .ok (['!'], cursor)
  else
    let (name, after) := cursor.takeWhile isNameChar
    if after.peek == some '!' then .ok ('!' :: (name ++ ['!']), after.next)
    else .error .malformedTag

/-- A tag before its closing space, given the place after its exclamation mark. -/
def readTagParts
    (cursor : Cursor) : Reading ((Option (List Char) × List Char) × Cursor) :=
  if cursor.peek == some '<' then do
    let (name, after) ← readTagName cursor.next
    if after.peek == some '>' then .ok ((none, name), after.next) else .error .malformedTag
  else if atGap cursor.rest then .ok ((none, ['!']), cursor)
  else do
    let (word, _) := cursor.takeWhile fun c => !(c == ' ' || isBreak c)
    let (handle, after) ← if word.contains '!' then readHandle cursor else .ok (['!'], cursor)
    let (name, after) ← readTagName after
    .ok ((some handle, name), after)

/-- A tag, given the place after its exclamation mark, and the place after it. -/
def readTag (cursor : Cursor) : Reading (Token × Cursor) := do
  let ((handle, suffix), after) ← readTagParts cursor
  if atSpace after.rest then .ok (.tag handle suffix, after) else .error .malformedTag

end Document
end DataContract
