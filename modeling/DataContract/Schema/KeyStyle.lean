import DataContract.Text.Case
import DataContract.Value.Display

/-!
# Key styles

A key has one name in the schema and may have another on the wire. A key style
gives the name on the wire.
-/

namespace DataContract

open Text

/-- Whether a character starts a word after low lines. -/
def isWordStart (c : Char) : Bool :=
  ('a' ≤ c && c ≤ 'z') || c.isDigit

/-- Join words that low lines separate, given the number of low lines that
were just read: a word that starts with a small letter or a digit drops the
low lines before it and gets a capital instead. -/
def joinWords (pending : Nat) : List Char → List Char
  | [] => List.replicate pending '_'
  | c :: rest =>
      if c == '_' then joinWords (pending + 1) rest
      else if pending != 0 && isWordStart c then c.toUpper :: joinWords 0 rest
      else List.replicate pending '_' ++ c :: joinWords 0 rest

/-- The first character of a name, and the joined words of the rest. -/
def camelizeChars : List Char → List Char
  | [] => []
  | c :: rest => c :: joinWords 0 rest

/-- A name whose words are joined by capitals instead of low lines. -/
def camelize (name : String) : String :=
  String.ofList (camelizeChars name.toList)

/-- A way to name keys on the wire. -/
structure KeyStyle where
  /-- The name it is shown with. -/
  name : String
  /-- The name on the wire of a key. -/
  external : Value → Value

namespace KeyStyle

/-- Members of enumerations stand for their content, texts are camelized, and
everything else is written as text. -/
def camel : KeyStyle where
  name := "default"
  external
    | .member _ _ content => content
    | .text content => .text (camelize content)
    | other => .text other.plain

/-- Members of enumerations stand for their content, and everything else is
written as text. -/
def same : KeyStyle where
  name := "identity"
  external
    | .member _ _ content => content
    | other => .text other.plain

/-- The text of a key in capitals. -/
def capitals : KeyStyle where
  name := "upper"
  external key := .text (upper key.plain)

/-- The text of a key with hyphens in place of low lines. -/
def hyphenated : KeyStyle where
  name := "kebab"
  external key := .text (key.plain.map fun c => if c == '_' then '-' else c)

/-- One name for all keys. -/
def constant : KeyStyle where
  name := "const"
  external _ := .text "k"

/-- All styles. -/
def all : List KeyStyle := [camel, same, capitals, hyphenated, constant]

/-- The style with a name. -/
def ofName? (name : String) : Option KeyStyle :=
  all.find? (·.name == name)

end KeyStyle
end DataContract
