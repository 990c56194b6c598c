import DataContract.Calendar.Time
import DataContract.Number.Decimal
import DataContract.Value.Form

/-!
# Values

The data that contracts are about: scalars of ten kinds, members of
enumerations, two kinds of sequences, maps that keep the order of their entries,
and records. A handle stands for a function that contracts only carry around;
it is known by its label and nothing else.
-/

namespace DataContract

open Number Calendar

/-- A value without parts. -/
inductive Scalar
  | null
  | bool (flag : Bool)
  | int (number : Int)
  | float (number : Binary64)
  | text (content : String)
  | bytes (content : List UInt8)
  | date (day : Date)
  | dateTime (moment : DateTime)
  | time (clock : Time)
  | decimal (number : Decimal)
  deriving DecidableEq, Repr, Inhabited

/-- A value. -/
inductive Value
  | scalar (content : Scalar)
  | member
      (enumeration name : String)
      (content : Value)
  | list (items : List Value)
  | tuple (items : List Value)
  | map (entries : List (Value × Value))
  | record
      (form : RecordForm)
      (parts : List Value)
  | handle (label : String)
  deriving Inhabited

/-- The entries of a map, in order. -/
abbrev Entries := List (Value × Value)

/-- A sequence of keys and indices that leads into a value. -/
abbrev Path := List Value

/-- Named options, in order. -/
abbrev Options := List (String × Value)

namespace Value

/-- The absent value. -/
@[match_pattern] abbrev null : Value := .scalar .null

/-- A truth value. -/
@[match_pattern] abbrev bool (flag : Bool) : Value := .scalar (.bool flag)

/-- A whole number. -/
@[match_pattern] abbrev int (number : Int) : Value := .scalar (.int number)

/-- A floating-point number. -/
@[match_pattern] abbrev float (number : Binary64) : Value := .scalar (.float number)

/-- A text. -/
@[match_pattern] abbrev text (content : String) : Value := .scalar (.text content)

/-- A byte string. -/
@[match_pattern] abbrev bytes (content : List UInt8) : Value := .scalar (.bytes content)

/-- A day. -/
@[match_pattern] abbrev date (day : Date) : Value := .scalar (.date day)

/-- A date and time. -/
@[match_pattern] abbrev dateTime (moment : DateTime) : Value := .scalar (.dateTime moment)

/-- A time of day. -/
@[match_pattern] abbrev time (clock : Time) : Value := .scalar (.time clock)

/-- A decimal number. -/
@[match_pattern] abbrev decimal (number : Decimal) : Value := .scalar (.decimal number)

mutual

/-- Whether two values are the same in every detail, so that `1` differs from
`1.0` and maps with another order of entries differ. -/
def identical : Value → Value → Bool
  | .scalar a, .scalar b => a == b
  | .member e n v, .member e' n' v' => e == e' && n == n' && identical v v'
  | .list xs, .list ys => identicalItems xs ys
  | .tuple xs, .tuple ys => identicalItems xs ys
  | .map es, .map fs => identicalEntries es fs
  | .record f xs, .record g ys => f == g && identicalItems xs ys
  | .handle a, .handle b => a == b
  | _, _ => false

/-- Whether two sequences are the same in every detail. -/
def identicalItems : List Value → List Value → Bool
  | [], [] => true
  | x :: xs, y :: ys => identical x y && identicalItems xs ys
  | _, _ => false

/-- Whether two lists of entries are the same in every detail. -/
def identicalEntries : List (Value × Value) → List (Value × Value) → Bool
  | [], [] => true
  | (k, v) :: es, (k', v') :: fs => identical k k' && identical v v' && identicalEntries es fs
  | _, _ => false

end

mutual

theorem identical_iff_eq
    (a b : Value) :
    a.identical b = true ↔ a = b := by
  match a, b with
  | .scalar _, .scalar _ => simp [identical]
  | .member _ _ v, .member _ _ v' =>
      simp [identical, identical_iff_eq v v', and_assoc]
  | .list xs, .list ys => simp [identical, identicalItems_iff_eq xs ys]
  | .tuple xs, .tuple ys => simp [identical, identicalItems_iff_eq xs ys]
  | .map es, .map fs => simp [identical, identicalEntries_iff_eq es fs]
  | .record _ xs, .record _ ys => simp [identical, identicalItems_iff_eq xs ys]
  | .handle _, .handle _ => simp [identical]
  | .scalar _, .member .. | .scalar _, .list _ | .scalar _, .tuple _ | .scalar _, .map _
  | .scalar _, .record .. | .scalar _, .handle _ | .member .., .scalar _ | .member .., .list _
  | .member .., .tuple _ | .member .., .map _ | .member .., .record .. | .member .., .handle _
  | .list _, .scalar _ | .list _, .member .. | .list _, .tuple _ | .list _, .map _
  | .list _, .record .. | .list _, .handle _ | .tuple _, .scalar _ | .tuple _, .member ..
  | .tuple _, .list _ | .tuple _, .map _ | .tuple _, .record .. | .tuple _, .handle _
  | .map _, .scalar _ | .map _, .member .. | .map _, .list _ | .map _, .tuple _
  | .map _, .record .. | .map _, .handle _ | .record .., .scalar _ | .record .., .member ..
  | .record .., .list _ | .record .., .tuple _ | .record .., .map _ | .record .., .handle _
  | .handle _, .scalar _ | .handle _, .member .. | .handle _, .list _ | .handle _, .tuple _
  | .handle _, .map _ | .handle _, .record .. => simp [identical]

theorem identicalItems_iff_eq
    (xs ys : List Value) :
    identicalItems xs ys = true ↔ xs = ys := by
  match xs, ys with
  | [], [] => simp [identicalItems]
  | [], _ :: _ => simp [identicalItems]
  | _ :: _, [] => simp [identicalItems]
  | x :: xs, y :: ys =>
      simp [identicalItems, identical_iff_eq x y, identicalItems_iff_eq xs ys]

theorem identicalEntries_iff_eq
    (es fs : List (Value × Value)) :
    identicalEntries es fs = true ↔ es = fs := by
  match es, fs with
  | [], [] => simp [identicalEntries]
  | [], _ :: _ => simp [identicalEntries]
  | _ :: _, [] => simp [identicalEntries]
  | (k, v) :: es, (k', v') :: fs =>
      simp [identicalEntries, identical_iff_eq k k', identical_iff_eq v v',
        identicalEntries_iff_eq es fs]

end

instance : DecidableEq Value := fun a b =>
  decidable_of_iff (a.identical b = true) (identical_iff_eq a b)

/-- The number of parts of a value that has a size. -/
def size? : Value → Option Nat
  | .text content => some content.length
  | .bytes content => some content.length
  | .list items => some items.length
  | .tuple items => some items.length
  | .map entries => some entries.length
  | _ => none

/-- The fields of a record as pairs of a name and a value. -/
def fieldPairs
    (form : RecordForm)
    (parts : List Value) : List Value :=
  (form.fields.zip parts).map fun field => .tuple [.text field.1, field.2]

/-- The parts of a value one after another: the items of a sequence, the keys
of a map, the characters of a text, the numbers of a byte string, the fields of
a record. -/
def items? : Value → Option (List Value)
  | .text content => some (content.toList.map fun c => .text (String.singleton c))
  | .bytes content => some (content.map fun byte => .int byte.toNat)
  | .list items => some items
  | .tuple items => some items
  | .map entries => some (entries.map Prod.fst)
  | .record form parts => if form.fields.isEmpty then none else some (fieldPairs form parts)
  | _ => none

/-- The items of a value that has an item at every index up to its size. -/
def sequence? : Value → Option (List Value)
  | .map _ => none
  | .record .. => none
  | value => value.items?

/-- Whether a value counts as true: numbers other than zero, texts, byte
strings, sequences and maps that are not empty, and all other values except the
absent one. -/
def truthy : Value → Bool
  | .null => false
  | .bool flag => flag
  | .int number => number != 0
  | .float number => !number.isZero
  | .decimal number => !number.isZero
  | value => value.size? != some 0

/-- Whether a value belongs to a kind that may be a segment of a path. Lists
and maps may not; what is inside a tuple or a record is not looked at. -/
def isSegment : Value → Bool
  | .list _ => false
  | .map _ => false
  | _ => true

mutual

/-- Whether a value can be a key of a map: neither a list nor a map, no
signaling decimal, and the same for everything inside a tuple or a record. -/
def isKey : Value → Bool
  | .list _ => false
  | .map _ => false
  | .decimal number => !number.isSignaling
  | .tuple items => areKeys items
  | .record _ parts => areKeys parts
  | _ => true

/-- Whether all items can be keys. -/
def areKeys : List Value → Bool
  | [] => true
  | x :: xs => isKey x && areKeys xs

end

end Value
end DataContract
