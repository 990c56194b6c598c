import DataContract.Document.Scalar.Moment
import DataContract.Document.Scalar.Quoted
import DataContract.Number.Numeral

/-!
# Types of nodes

Every node has a type. It is written as a tag, or follows from the kind of the
node and, for a plain scalar, from its form: words for truth values and for the
absent value, numbers to several bases, and moments. Every other plain scalar
is a text. Sets are no values, and their type is not known.
-/

namespace DataContract
namespace Document

open Number

/-- The type of a node. -/
inductive Tag
  | null
  | truth
  | whole
  | real
  | text
  | binary
  | moment
  | sequence
  | mapping
  | ordered
  | pairs
  /-- The key under which other mappings are merged. -/
  | merge
  /-- The key of the entry that stands for the whole mapping. -/
  | standard
  | unknown
  deriving DecidableEq, Repr

namespace Tag

/-- What the full names of the known types start with. -/
def family : List Char := "tag:yaml.org,2002:".toList

/-- The known types by the last part of their names. -/
def names : List (String × Tag) := [
  ("null", null), ("bool", truth), ("int", whole), ("float", real), ("str", text),
  ("binary", binary), ("timestamp", moment), ("seq", sequence), ("map", mapping),
  ("omap", ordered), ("pairs", pairs), ("merge", merge), ("value", standard)]

/-- The type with a full name. -/
def ofName (name : List Char) : Tag :=
  if family.isPrefixOf name then
    (names.lookup (String.ofList (name.drop family.length))).getD unknown
  else unknown

/-- The words for the absent value. -/
def nullWords : List String := ["~", "null", "Null", "NULL"]

/-- The words for truth values. -/
def truthWords : List String := [
  "yes", "Yes", "YES", "no", "No", "NO", "true", "True", "TRUE", "false", "False", "FALSE",
  "on", "On", "ON", "off", "Off", "OFF"]

/-- The texts between the colons of a text. -/
def colonParts : List Char → List (List Char)
  | [] => [[]]
  | c :: rest =>
      match colonParts rest with
      | [] => [[c]]
      | first :: others => if c == ':' then [] :: first :: others else (c :: first) :: others

/-- Whether a character may stand inside a decimal number. -/
def isGrouped (c : Char) : Bool :=
  c.isDigit || c == '_'

/-- Whether a text is made of digits and low lines and starts with a digit that
satisfies `first`. -/
def isNumberPart
    (first : Char → Bool)
    (chars : List Char) : Bool :=
  chars.head?.any (fun c => c.isDigit && first c) && chars.all isGrouped

/-- Whether a text is a number below sixty with one or two digits. -/
def isSixtieth (chars : List Char) : Bool :=
  match chars with
  | [c] => c.isDigit
  | [tens, ones] => tens.isDigit && tens ≤ '5' && ones.isDigit
  | _ => false

/-- Whether a text is a number to the base sixty: two or more parts with colons
between them, the first of any size. -/
def isSixtyBased
    (first : Char → Bool)
    (chars : List Char) : Bool :=
  match colonParts chars with
  | leading :: next :: others =>
      isNumberPart first leading && (next :: others).all isSixtieth
  | _ => false

/-- Whether a text is not empty and has characters of one kind only. -/
def allOf
    (kind : Char → Bool)
    (chars : List Char) : Bool :=
  !chars.isEmpty && chars.all kind

/-- Whether a plain scalar is a whole number. -/
def isWhole (chars : List Char) : Bool :=
  let nonzero := fun c : Char => c != '0'
  match (takeSign chars).2 with
  | ['0'] => true
  | '0' :: 'b' :: digits => allOf (fun c => c == '0' || c == '1' || c == '_') digits
  | '0' :: 'x' :: digits => allOf (fun c => (Text.hexValue? c).isSome || c == '_') digits
  | '0' :: digits => allOf (fun c => ('0' ≤ c && c ≤ '7') || c == '_') digits
  | body => isNumberPart nonzero body || isSixtyBased nonzero body

/-- Whether a text is a power of ten with its sign, or empty. -/
def isPower (chars : List Char) : Bool :=
  match chars with
  | [] => true
  | mark :: sign :: digits =>
      (mark == 'e' || mark == 'E') && (sign == '+' || sign == '-') && allOf Char.isDigit digits
  | _ => false

/-- Whether a text is a number with a point and possibly a power of ten. -/
def isPointed (chars : List Char) : Bool :=
  let whole := chars.takeWhile isGrouped
  match chars.dropWhile isGrouped with
  | '.' :: rest =>
      let fraction := rest.takeWhile isGrouped
      let starts := if whole.isEmpty then fraction else whole
      starts.head?.any Char.isDigit && isPower (rest.dropWhile isGrouped)
  | _ => false

/-- Whether a text is a number to the base sixty with a point. -/
def isSixtyBasedReal (chars : List Char) : Bool :=
  match chars.dropWhile (· != '.') with
  | '.' :: fraction =>
      isSixtyBased (fun _ => true) (chars.takeWhile (· != '.')) && fraction.all isGrouped
  | _ => false

/-- The words for infinity, after an optional sign. -/
def infinityWords : List String := [".inf", ".Inf", ".INF"]

/-- The words for the value that is not a number. -/
def nanWords : List String := [".nan", ".NaN", ".NAN"]

/-- Whether a plain scalar is a floating-point number. A number that starts with
its point has no sign. -/
def isReal (chars : List Char) : Bool :=
  let body := (takeSign chars).2
  let pointFirst := body.head? == some '.'
  (isPointed body && (!pointFirst || body.length == chars.length)) || isSixtyBasedReal body ||
    infinityWords.contains (String.ofList body) || nanWords.contains (String.ofList chars)

/-- The type of a plain scalar. A line end after it is passed by. -/
def ofPlain (content : List Char) : Tag :=
  let chars := dropLineEnd content
  let word := String.ofList chars
  if content.isEmpty then null
  else if truthWords.contains word then truth
  else if isReal chars then real
  else if isWhole chars then whole
  else if word == "<<" then merge
  else if nullWords.contains word then null
  else if isMoment chars then moment
  else if word == "=" then standard
  else if word == "!" || word == "&" || word == "*" then unknown
  else text

/-- Whether nodes of a type stand for anything. -/
def hasValues : Tag → Bool
  | merge | standard | unknown => false
  | _ => true

/-- Whether nodes of a type are collections. -/
def isCollection : Tag → Bool
  | sequence | mapping | ordered | pairs => true
  | _ => false

example : ofPlain "12:30:45".toList = whole := by decide +kernel
example : ofPlain "1e3".toList = text := by decide +kernel

end Tag
end Document
end DataContract
