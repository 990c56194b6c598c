import DataContract.Document.Problem

/-!
# Tokens of documents

The signs and the scalars that a document consists of. Blocks, which the text
shows by columns alone, are given a start and an end. Where the text goes wrong
the tokens end with the problem.
-/

namespace DataContract
namespace Document

/-- An instruction in front of a document. -/
inductive Directive
  | version (major : Nat)
  | handle (name content : List Char)
  | other
  deriving DecidableEq

/-- A token. -/
inductive Token
  | directive (content : Directive)
  | documentStart
  | documentEnd
  | textEnd
  | blockSequenceStart
  | blockMappingStart
  | blockEnd
  | flowSequenceStart
  | flowSequenceEnd
  | flowMappingStart
  | flowMappingEnd
  | blockItem
  | flowSeparator
  | key
  | value
  | alias (name : List Char)
  | anchor (name : List Char)
  | tag
      (handle : Option (List Char))
      (suffix : List Char)
  | scalar
      (content : List Char)
      (plain : Bool)
  | broken (problem : Problem)
  deriving DecidableEq

end Document
end DataContract
