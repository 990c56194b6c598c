import DataContract.Text.Ranges

/-!
# Blank characters

The separators and control characters that count as white space, and the
removal of white space around a text.
-/

namespace DataContract
namespace Text

/-- Code points of white space. -/
def blankRanges : CodeRanges := [
  (9, 13), (28, 32), (133, 133), (160, 160), (5760, 5760), (8192, 8202), (8232, 8233),
  (8239, 8239), (8287, 8287), (12288, 12288)]

/-- Whether a character is white space. -/
def isBlank (c : Char) : Bool :=
  blankRanges.contains c

theorem isBlank_of_isWhitespace
    (c : Char)
    (white : c.isWhitespace = true) :
    isBlank c = true := by
  simp only [Char.isWhitespace, Bool.or_eq_true, decide_eq_true_eq, or_assoc] at white
  rcases white with rfl | rfl | rfl | rfl <;> decide +kernel

/-- The characters left after removing white space at both ends. -/
def trimBlanks (chars : List Char) : List Char :=
  ((chars.dropWhile isBlank).reverse.dropWhile isBlank).reverse

/-- A text without white space at either end. -/
def trim (text : String) : String :=
  String.ofList (trimBlanks text.toList)

/-- A text with the letters `A` to `Z` made small and nothing else changed. -/
def lowerAscii (text : String) : String :=
  text.map Char.toLower

end Text
end DataContract
