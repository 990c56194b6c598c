import DataContract.Fault

/-!
# Problems of documents

Why a document cannot be read. Most problems lie in the document's form; a
scalar of good form may still have a content that its type refuses.
-/

namespace DataContract
namespace Document

/-- Why a document cannot be read. -/
inductive Problem
  /-- A character that documents may not hold. -/
  | unprintable
  /-- A character that starts no token. -/
  | unexpectedCharacter
  /-- A key at the start of a line without its colon. -/
  | missingColon
  /-- An item of a block sequence where none may start. -/
  | itemNotAllowed
  /-- A key of a block mapping where none may start. -/
  | keyNotAllowed
  /-- A value of a block mapping where none may start. -/
  | valueNotAllowed
  | malformedDirective
  | malformedName
  | malformedTag
  | malformedHeader
  | unterminatedQuote
  | unknownEscape
  /-- A document separator inside a quoted scalar. -/
  | separatorInQuote
  /-- A token that cannot stand where it does. -/
  | unexpectedToken
  | repeatedDirective
  | unsupportedVersion
  | undefinedHandle
  | undefinedAlias
  | repeatedAnchor
  /-- Another document after the first one. -/
  | secondDocument
  | unknownTag
  /-- A collection where a scalar belongs, or the other way round. -/
  | wrongShape
  /-- A collection as the key of a mapping. -/
  | collectionAsKey
  | malformedMerge
  | malformedBinary
  /-- A content that the scalar's type refuses. -/
  | content (fault : Fault)
  deriving DecidableEq, Inhabited

/-- The result of reading a document or a part of it. -/
abbrev Reading := Except Problem

end Document
end DataContract
