import DataContract.Text.CharacterName.Alias
import DataContract.Text.CharacterName.Alphabet
import DataContract.Text.CharacterName.Ancient
import DataContract.Text.CharacterName.Notation
import DataContract.Text.CharacterName.Picture
import DataContract.Text.CharacterName.Syllable
import DataContract.Text.CharacterName.Symbol
import DataContract.Text.Quoted

/-!
# Names of characters

The character that a name stands for. Most names are listed. The names of
ideographs end in their code, and those of the Korean syllables are made of the
names of their sounds; these two kinds are written in capitals, while case does
not matter in the others.
-/

namespace DataContract
namespace Text

/-- The listed names. -/
def listedNames : List NameRun :=
  alphabetNames ++ symbolNames ++ syllableNames ++ ancientNames ++ notationNames ++
    pictureNames ++ aliasNames

/-- Code points whose name consists of some words and their code. -/
structure CodedNames where
  /-- The words before the code. -/
  start : List Char
  /-- Whether a zero may stand before a code of four digits. -/
  mayPad : Bool
  /-- The first and the last code point of each range. -/
  ranges : List (Nat × Nat)

/-- The ideographs that are common to several scripts. -/
def unifiedIdeographs : CodedNames :=
  ⟨"CJK UNIFIED IDEOGRAPH-".toList, true,
    [(0x3400, 0x4DBF), (0x4E00, 0x9FFF), (0x20000, 0x2A6DF), (0x2A700, 0x2B738),
      (0x2B740, 0x2B81D), (0x2B820, 0x2CEA1), (0x2CEB0, 0x2EBE0), (0x30000, 0x3134A)]⟩

/-- Other characters that are named by their code. -/
def codedNames : List CodedNames := [
  ⟨"CJK COMPATIBILITY IDEOGRAPH-".toList, false,
    [(0xF900, 0xFA6D), (0xFA70, 0xFAD9), (0x2F800, 0x2FA1D)]⟩,
  ⟨"KHITAN SMALL SCRIPT CHARACTER-".toList, false, [(0x18B00, 0x18CD5)]⟩,
  ⟨"NUSHU CHARACTER-".toList, false, [(0x1B170, 0x1B2FB)]⟩]

/-- The number written in four or five hexadecimal digits with capital letters. -/
def readCode? (digits : List Char) : Option Nat :=
  if (digits.length == 4 || digits.length == 5) &&
      digits.all fun c => c.isDigit || ('A' ≤ c && c ≤ 'F') then
    digits.foldlM (fun total c => (hexValue? c).map (total * 16 + ·)) 0
  else none

/-- The code point that a name made of some words and a code stands for. -/
def CodedNames.find?
    (coded : CodedNames)
    (name : List Char) : Option Nat :=
  let digits := name.drop coded.start.length
  if coded.start.isPrefixOf name && (coded.mayPad || digits.head? != some '0') then
    (readCode? digits).filter fun code =>
      coded.ranges.any fun range => range.1 ≤ code && code ≤ range.2
  else none

/-- The sounds that a Korean syllable can begin with. -/
def firstSounds : List String :=
  ["G", "GG", "N", "D", "DD", "R", "M", "B", "BB", "S", "SS", "", "J", "JJ", "C", "K", "T", "P",
    "H"]

/-- The sounds in the middle of a Korean syllable. -/
def middleSounds : List String :=
  ["A", "AE", "YA", "YAE", "EO", "E", "YEO", "YE", "O", "WA", "WAE", "OE", "YO", "U", "WEO", "WE",
    "WI", "YU", "EU", "YI", "I"]

/-- The sounds that a Korean syllable can end with. -/
def lastSounds : List String :=
  ["", "G", "GG", "GS", "N", "NJ", "NH", "D", "L", "LG", "LM", "LB", "LS", "LT", "LP", "LH", "M",
    "B", "BS", "S", "SS", "NG", "J", "C", "K", "T", "P", "H"]

/-- The place of the longest sound that a text begins with, and what follows
it. -/
def takeSound?
    (sounds : List String)
    (text : List Char) : Option (Nat × List Char) :=
  let lengths := (sounds.filter (·.toList.isPrefixOf text)).map String.length
  lengths.max?.bind fun longest =>
    (sounds.findIdx? (·.toList == text.take longest)).map fun index => (index, text.drop longest)

/-- The Korean syllable whose sounds a text names. -/
def syllable? (sounds : List Char) : Option Nat := do
  let (first, rest) ← takeSound? firstSounds sounds
  let (middle, rest) ← takeSound? middleSounds rest
  let (last, rest) ← takeSound? lastSounds rest
  if rest.isEmpty then
    some (0xAC00 + (first * middleSounds.length + middle) * lastSounds.length + last)
  else none

/-- What the name of a Korean syllable begins with. -/
def syllableStart : List Char :=
  "HANGUL SYLLABLE ".toList

/-- The code point of the character that a name stands for. -/
def characterNamed? (name : List Char) : Option Nat :=
  if syllableStart.isPrefixOf name then syllable? (name.drop syllableStart.length)
  else if unifiedIdeographs.start.isPrefixOf name then unifiedIdeographs.find? name
  else
    let capitals := name.map Char.toUpper
    let words := NameRun.words capitals
    (codedNames.findSome? (·.find? capitals)).or (listedNames.findSome? (·.find? words))

end Text
end DataContract
