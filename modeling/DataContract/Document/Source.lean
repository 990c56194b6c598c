import DataContract.Document.Cursor
import DataContract.Document.Problem
import DataContract.Text.Encoded

/-!
# Texts that are read in portions

A document is read in portions, so what is wrong with a later one shows only
when reading comes to it. A portion is refused as a whole if it holds a
character that documents may not hold, or bytes that are no text.
-/

namespace DataContract
namespace Document

open Text

/-- The number of characters that are read at a time. -/
def portionSize : Nat := 4096

/-- The number of characters that are read before anything else. -/
def firstPortionSize : Nat := 2 * portionSize

/-- The number of bytes that are decoded at a time. -/
def blockSize : Nat := 8192

/-- What can be read of a document. -/
structure Source where
  /-- The characters that can be read. -/
  chars : List Char
  /-- Why there are no more of them, unless the text ends there. -/
  fault : Option Problem

namespace Source

/-- The number of characters in the portions that fit into so many. -/
def wholePortions (length : Nat) : Nat :=
  if length < firstPortionSize then 0 else length / portionSize * portionSize

/-- The number of characters before the first portion that begins at or before
the character with an index and holds it. -/
def portionStart (index : Nat) : Nat :=
  if index < firstPortionSize then 0 else index / portionSize * portionSize

/-- The part of a source before the portion with the first character that
documents may not hold. -/
def printable (source : Source) : Source :=
  match source.chars.findIdx? fun c => !documentRanges.contains c with
  | some index => ⟨source.chars.take (portionStart index), some .unprintable⟩
  | none => source

/-- The source of an encoded text, without its blocks from the first one on that
cannot be decoded. -/
def ofBytes (bytes : List UInt8) : Source :=
  let decoded := decodePrefix bytes
  match decoded.2 with
  | [] => printable ⟨unifyLineEnds decoded.1, none⟩
  | rest =>
      let whole := (bytes.length - rest.length) / blockSize * blockSize
      let chars := unifyLineEnds (decodePrefix (bytes.take whole)).1
      printable ⟨chars.take (wholePortions chars.length), some (.content .undecodable)⟩

end Source

end Document
end DataContract
