import DataContract.Text.Blank
import DataContract.Text.Case
import DataContract.Text.Digit
import DataContract.Text.Word

/-!
# Tests for one character

What a pattern can say about one character: that it is a given letter, or that
a set of letters, ranges and classes holds it. A test compares code points, so
that it also speaks about those that are no character. Case can count, or be
ignored for the letters of the ASCII range or of all scripts.
-/

namespace DataContract

open Text

/-- Whether letters that differ in case are told apart: always, unless both are
of the ASCII range, or never. -/
inductive CaseMode
  | exact
  | ascii
  | full
  deriving DecidableEq, Repr

/-- The form of a code point that stands for all that differ from it in case. -/
def CaseMode.fold
    (mode : CaseMode)
    (code : Nat) : Nat :=
  match mode with
  | .exact => code
  | .ascii => lowerAsciiCode code
  | .full => lowerCode code

/-- Whether a code point is a letter that has another case. -/
def CaseMode.isCased
    (mode : CaseMode)
    (code : Nat) : Bool :=
  match mode with
  | .exact => false
  | .ascii => isCasedAscii code
  | .full => Text.isCased code

/-- The folded forms that a folded letter stands for. -/
def CaseMode.alike
    (mode : CaseMode)
    (folded : Nat) : List Nat :=
  match mode with
  | .full => sharingCapital folded
  | _ => [folded]

/-- The code points that have a given folded form. -/
def CaseMode.unfold
    (mode : CaseMode)
    (folded : Nat) : List Nat :=
  match mode with
  | .exact => [folded]
  | .ascii => if 97 ≤ folded && folded ≤ 122 then [folded, folded - 32] else [folded]
  | .full => withSmallForm folded

/-- A class of characters that a pattern can name. -/
inductive CharacterClass
  | digit
  | blank
  | word
  deriving DecidableEq, Repr

/-- Whether a code point is in a class, which covers all scripts or only the
letters, digits and blanks of the ASCII range. -/
def CharacterClass.contains
    (kind : CharacterClass)
    (ascii : Bool)
    (code : Nat) : Bool :=
  let c := Char.ofNat code
  if ascii then
    code < 128 &&
      match kind with
      | .digit => c.isDigit
      | .blank => (9 ≤ code && code ≤ 13) || code == 32
      | .word => c.isAlphanum || c == '_'
  else
    match kind with
    | .digit => isDecimalDigit c
    | .blank => isBlank c
    | .word => isWordCharacter c

/-- A part of a set of characters. -/
inductive SetItem
  | code (code : Nat)
  | range (first last : Nat)
  | kind
      (family : CharacterClass)
      (negated ascii : Bool)
  deriving DecidableEq, Repr

/-- The last code point of the basic plane. -/
def basicLast : Nat := 65535

/-- Whether a code point lies in a range. -/
def inRange (first last code : Nat) : Bool :=
  first ≤ code && code ≤ last

/-- Whether a part of a set holds a code point, given folded. Case is ignored
throughout the basic plane. Beyond it a letter of a set is compared as it is
written, and a range also holds what has its capital in it. -/
def SetItem.holds
    (mode : CaseMode)
    (folded : Nat) : SetItem → Bool
  | .code own =>
      let small := mode.fold own
      if small ≤ basicLast then (mode.alike small).contains folded else own == folded
  | .range first last =>
      ((mode.alike folded).any fun form =>
          (mode.unfold form).any (inRange first (min last basicLast))) ||
        (basicLast < last &&
          (inRange first last folded ||
            (mode != .exact && inRange first last (upperCode folded))))
  | .kind family negated ascii => family.contains ascii folded != negated

/-- Whether a part of a set names a letter that has another case. -/
def SetItem.isCased (mode : CaseMode) : SetItem → Bool
  | .code own => mode.isCased own
  | .range first last =>
      mode != .exact &&
        (basicLast < last ||
          (List.range (last + 1 - first)).any fun distance => mode.isCased (first + distance))
  | .kind .. => false

/-- A test for one character. -/
inductive CharTest
  | anyCharacter
  | anyOnLine
  | letter
      (negated : Bool)
      (mode : CaseMode)
      (code : Nat)
  | oneOf
      (negated : Bool)
      (mode : CaseMode)
      (items : List SetItem)
  deriving DecidableEq, Repr

/-- Whether a code point passes a test. -/
def CharTest.accepts (code : Nat) : CharTest → Bool
  | .anyCharacter => true
  | .anyOnLine => code != 10
  | .letter negated mode own =>
      (mode.alike (mode.fold own)).contains (mode.fold code) != negated
  | .oneOf negated mode items => items.any (SetItem.holds mode (mode.fold code)) != negated

/-- The test that admits the first character of a search for what starts with a
test: the set with its classes taken over all scripts or the ASCII range, as
the whole pattern has them. -/
def CharTest.entry?
    (ascii : Bool) : CharTest → Option CharTest
  | .oneOf negated mode items =>
      if items.any (SetItem.isCased mode) then none
      else
        some (.oneOf negated .exact
          (items.map fun
            | .kind family complement _ => .kind family complement ascii
            | item => item))
  | _ => none

end DataContract
