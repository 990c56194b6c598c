/-!
# Runs of named characters

The names of characters that follow one another, written one after the other.
Neighbours often begin with the same words, so each name tells how many words
it takes over from the name before it.
-/

namespace DataContract
namespace Text

/-- The names of the code points from `first` on. A small letter begins each
name: `a` before a name that is written out, `b` before one that takes over
the first word of the name before it, and so on. -/
structure NameRun where
  /-- The first code point. -/
  first : Nat
  /-- The names, each behind its small letter. -/
  names : List String

namespace NameRun

/-- A word of a name. -/
abbrev Word := List Char

/-- The words of a name. -/
def words (name : List Char) : List Word :=
  name.foldr
    (fun c words =>
      match words with
      | word :: later => if c == ' ' then [] :: word :: later else (c :: word) :: later
      | [] => [[c]])
    [[]]

/-- Split written names into the number of words that each takes over and the
words that it adds; the word and the words being read come first. -/
def split (names : List Char) : Word × List Word × List (Nat × List Word) :=
  names.foldr
    (fun c (word, words, entries) =>
      if c.isLower then
        ([], [], (c.toNat - 97, if word.isEmpty then words else word :: words) :: entries)
      else if c == ' ' then ([], word :: words, entries)
      else (c :: word, words, entries))
    ([], [], [])

/-- The place of a name among names, given how each continues the one before
it. -/
def position?
    (name : List Word) : List (Nat × List Word) → List Word → Option Nat
  | [], _ => none
  | (shared, added) :: rest, previous =>
      let current := previous.take shared ++ added
      if current == name then some 0 else (position? name rest current).map (· + 1)

/-- The code point that a name stands for in a run. -/
def find?
    (run : NameRun)
    (name : List Word) : Option Nat :=
  (position? name (split (run.names.flatMap String.toList)).2.2 []).map (run.first + ·)

end NameRun

example : NameRun.find? ⟨65, ["aLETTER A", "bB"]⟩ ["LETTER".toList, "B".toList] = some 66 := by
  decide +kernel

end Text
end DataContract
