import DataContract.Fault

/-!
# Equality of values

Numbers of all kinds are equal if their values are, and truth values count as
the numbers 0 and 1. Sequences of one kind are equal item by item and maps
entry by entry in any order; members of enumerations are equal only to
themselves. Comparing a signaling decimal with a number is a fault.

Something that is not a number equals nothing on its own. As a part of something
else, or as a key, it counts as equal to itself.
-/

namespace DataContract

open Number Calendar

namespace Scalar

/-- The value of a number or a truth value. -/
def number? : Scalar → Option Decimal
  | .bool flag => some (.ofInt flag.toNat)
  | .int number => some (.ofInt number)
  | .float number => some (.ofBinary64 number)
  | .decimal number => some number
  | _ => none

/-- Equality of scalars. -/
def equals (a b : Scalar) : Attempt Bool :=
  match a.number?, b.number? with
  | some x, some y =>
      if x.isSignaling || y.isSignaling then .error .undefinedDecimal
      else .ok (x.compare? y == some .eq)
  | none, none =>
      match a, b with
      | .dateTime x, .dateTime y => .ok (x.compare? y == some .eq)
      | .time x, .time y => .ok (x.compare? y == some .eq)
      | _, _ => .ok (a == b)
  | _, _ => .ok false

/-- Whether two scalars that are not numbers come from one place. -/
def isSame : Scalar → Scalar → Bool
  | .float (.nan a), .float (.nan b) => a == b && a != 0
  | .decimal (.nan _ _ _ a), .decimal (.nan _ _ _ b) => a == b && a != 0
  | _, _ => false

end Scalar

namespace Value

/-- Whether two values that are not numbers come from one place. -/
def isSame : Value → Value → Bool
  | .scalar a, .scalar b => a.isSame b
  | _, _ => false

mutual

/-- Whether equal values also agree in the exact moments of the times in them.
Two times can be equal though they are less than a second apart. -/
def agrees : Value → Value → Bool
  | .time a, .time b => a.universal == b.universal
  | .tuple xs, .tuple ys => agreesItems xs ys
  | .record _ xs, .record _ ys => agreesItems xs ys
  | _, _ => true

/-- Whether equal sequences also agree in the exact moments of the times in
them. -/
def agreesItems : List Value → List Value → Bool
  | x :: xs, y :: ys => agrees x y && agreesItems xs ys
  | _, _ => true

end

mutual

/-- Equality of values. -/
def equals : Value → Value → Attempt Bool
  | .scalar a, .scalar b => a.equals b
  | .member e n v, .member e' n' v' => .ok (e == e' && n == n' && v == v')
  | .list xs, .list ys => if xs.length = ys.length then equalsItems xs ys else .ok false
  | .tuple xs, .tuple ys => if xs.length = ys.length then equalsItems xs ys else .ok false
  | .map es, .map fs => if es.length = fs.length then equalsEntries es fs else .ok false
  | .record .custom xs, .record .custom ys => .ok (xs == ys)
  | .record f xs, .record g ys => if f = g then equalsItems xs ys else .ok false
  | .handle a, .handle b => .ok (a == b)
  | _, _ => .ok false

/-- Equality of two sequences of equal length, up to the first difference. -/
def equalsItems : List Value → List Value → Attempt Bool
  | x :: xs, y :: ys => do
      if ← (if x.isSame y then .ok true else x.equals y) then equalsItems xs ys else .ok false
  | _, _ => .ok true

/-- Whether every entry of the first map has an equal one in the second, up to
the first that has not. -/
def equalsEntries : List (Value × Value) → List (Value × Value) → Attempt Bool
  | (key, value) :: rest, entries =>
      let found := entries.find? fun entry =>
        key == entry.1 || ((key.equals entry.1) matches .ok true) && key.agrees entry.1
      match found with
      | some entry => do
          if ← (if value.isSame entry.2 then .ok true else value.equals entry.2) then
            equalsEntries rest entries
          else .ok false
      | none => .ok false
  | [], _ => .ok true

end

/-- Whether two values are the same key of a map. -/
def sameKey (a b : Value) : Bool :=
  a == b || ((a.equals b) matches .ok true) && a.agrees b

@[simp] theorem sameKey_self (key : Value) : key.sameKey key = true := by
  simp [sameKey]

/-- Whether two values are equal as parts of something else. -/
def equalsAsPart (a b : Value) : Attempt Bool :=
  if a.isSame b then .ok true else a.equals b

end Value

namespace Entries

/-- The value of the entry for a key. -/
def get?
    (entries : Entries)
    (key : Value) : Option Value :=
  (entries.find? fun entry => key.sameKey entry.1).map Prod.snd

/-- Whether there is an entry for a key. -/
def has
    (entries : Entries)
    (key : Value) : Bool :=
  (entries.get? key).isSome

/-- The entries after putting a value under a key: an equal key keeps its place
and its form, a new one goes to the end. -/
def put {α : Type}
    (entries : List (Value × α))
    (key : Value)
    (value : α) : List (Value × α) :=
  match entries with
  | [] => [(key, value)]
  | entry :: rest =>
      if key.sameKey entry.1 then (entry.1, value) :: rest
      else entry :: Entries.put rest key value

/-- The map of a sequence of entries, later ones replacing equal earlier ones;
a fault if a key cannot be one. -/
def ofList (entries : List (Value × Value)) : Attempt Entries :=
  entries.foldlM
    (fun made entry => if entry.1.isKey then .ok (Entries.put made entry.1 entry.2)
      else .error .wrongKind)
    []

end Entries

namespace Value

/-- Whether the first list occurs in the second without gaps. -/
def occursIn {α : Type} [BEq α] (needle : List α) : List α → Bool
  | [] => needle.isEmpty
  | x :: xs => needle.isPrefixOf (x :: xs) || occursIn needle xs

/-- Whether some item of a sequence is equal to a value. -/
def memberOf (items : List Value) (value : Value) : Attempt Bool :=
  match items with
  | [] => .ok false
  | item :: rest => do
      if ← item.equalsAsPart value then .ok true else memberOf rest value

/-- The whole number that a value of a whole kind stands for. -/
def whole? : Value → Option Int
  | .int number => some number
  | .bool flag => some flag.toNat
  | _ => none

/-- Whether a value is part of another: a part of a text, a byte or a part of a
byte string, an item of a sequence, a key of a map. -/
def contains (container value : Value) : Attempt Bool :=
  match container with
  | .text content =>
      match value with
      | .text part => .ok (occursIn part.toList content.toList)
      | _ => .error .wrongKind
  | .bytes content =>
      match value with
      | .bytes part => .ok (occursIn part content)
      | _ =>
          match value.whole? with
          | some number =>
              if 0 ≤ number && number < 256 then
                .ok (content.any fun byte => (byte.toNat : Int) == number)
              else .error .badContent
          | none => .error .wrongKind
  | .list items => memberOf items value
  | .tuple items => memberOf items value
  | .record form parts =>
      if form.fields.isEmpty then .error .wrongKind else memberOf (fieldPairs form parts) value
  | .map entries => if value.isKey then .ok (Entries.has entries value) else .error .wrongKind
  | _ => .error .wrongKind

/-- The item of a sequence at an index; negative indices count from the end. -/
def itemAt (items : List Value) (index : Int) : Attempt Value :=
  let position := if index < 0 then index + items.length else index
  if position < 0 then .error .missingIndex
  else
    match items[position.toNat]? with
    | some item => .ok item
    | none => .error .missingIndex

/-- The part of a value under a key or at an index. -/
def pick (container key : Value) : Attempt Value :=
  match container with
  | .map entries =>
      if key.isKey then
        match Entries.get? entries key with
        | some value => .ok value
        | none => .error .missingKey
      else .error .wrongKind
  | _ =>
      match container.sequence?, key.whole? with
      | some items, some index => itemAt items index
      | _, _ => .error .wrongKind

end Value
end DataContract
