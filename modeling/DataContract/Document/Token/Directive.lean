import DataContract.Document.Token.Property
import DataContract.Number.Reading

/-!
# Directives

A line in front of a document that starts with a percent sign. It names the
version of the format or declares a handle for tags; other directives are
passed by.
-/

namespace DataContract
namespace Document

/-- A whole number and the place after it. It may not have too many digits. -/
def readNumber (cursor : Cursor) : Reading (Nat × Cursor) :=
  let (digits, after) := cursor.takeWhile Char.isDigit
  if digits.isEmpty then .error .malformedDirective
  else if Number.maxWholeDigits < digits.length then .error (.content .badContent)
  else .ok (digits.foldl (fun total c => 10 * total + (c.toNat - 48)) 0, after)

/-- The place after spaces. -/
def skipSpaces (cursor : Cursor) : Cursor :=
  cursor.skipWhile (· == ' ')

/-- The two numbers of a version. -/
def readVersion (cursor : Cursor) : Reading (Directive × Cursor) := do
  let (major, after) ← readNumber (skipSpaces cursor)
  if after.peek == some '.' then
    let (_, after) ← readNumber after.next
    if atSpace after.rest then .ok (.version major, after) else .error .malformedDirective
  else .error .malformedDirective

/-- A handle and the text that it stands for. -/
def readHandleDirective (cursor : Cursor) : Reading (Directive × Cursor) := do
  let start := skipSpaces cursor
  if start.peek == some '!' then
    let (handle, after) ← readHandle start.next
    if after.peek == some ' ' then
      let (content, after) ← readTagName (skipSpaces after)
      if atSpace after.rest then .ok (.handle handle content, after)
      else .error .malformedDirective
    else .error .malformedDirective
  else .error .malformedTag

/-- A directive, given the place after its percent sign, and the place after it in
its line. -/
def readDirective (cursor : Cursor) : Reading (Directive × Cursor) := do
  let (name, after) ← readName cursor
  if !atSpace after.rest then .error .malformedDirective
  else if name == "YAML".toList then readVersion after
  else if name == "TAG".toList then readHandleDirective after
  else .ok (.other, after.skipWhile (!isBreak ·))

end Document
end DataContract
