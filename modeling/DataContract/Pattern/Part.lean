import DataContract.Pattern.Basic

/-!
# Parts of a written pattern

A written pattern is a sequence of parts, or a choice between sequences. What
the sequences of a choice have in common at their start is written once before
the choice, and a choice between single characters is a set of characters.
-/

namespace DataContract
namespace Pattern

/-- A part of a sequence. Only units, anchors and references are ever the same
as another part; anchors and repetitions cannot be repeated. -/
inductive Part
  | unit (test : CharTest)
  | anchor (place : Anchor)
  | reference
      (group : Nat)
      (mode : CaseMode)
  | repetition (pattern : Pattern)
  | other (pattern : Pattern)

/-- The pattern of a part. -/
def Part.pattern : Part → Pattern
  | .unit test => .one test
  | .anchor place => .anchor place
  | .reference group mode => .again group mode
  | .repetition pattern => pattern
  | .other pattern => pattern

/-- Whether two parts are known to be the same. -/
def Part.isSame : Part → Part → Bool
  | .unit first, .unit second => first == second
  | .anchor first, .anchor second => first == second
  | .reference first mode, .reference second mode' => first == second && mode == mode'
  | _, _ => false

/-- Whether a part can be repeated. -/
def Part.isRepeatable : Part → Bool
  | .anchor _ => false
  | .repetition _ => false
  | _ => true

/-- The patterns of some parts one after another. -/
def sequence : List Part → Pattern
  | [] => .empty
  | [part] => part.pattern
  | part :: rest => .both part.pattern (sequence rest)

/-- A choice between patterns, in order. -/
def anyOf : List Pattern → Pattern
  | [] => .empty
  | [last] => last
  | first :: rest => .either first (anyOf rest)

/-- The number of parts that a sequence shares with all others at its start. -/
def sharedLength : List Part → List (List Part) → Nat
  | [], _ => 0
  | part :: rest, others =>
      if others.all fun other => other.head?.any part.isSame then
        sharedLength rest (others.map List.tail) + 1
      else 0

/-- The members of a set that holds the only character of a sequence. -/
def setItems? : List Part → Option (List SetItem)
  | [.unit (.letter false _ code)] => some [.code code]
  | [.unit (.oneOf false _ items)] => some items
  | _ => none

/-- The parts that stand for a choice between sequences, where case is treated
in the given way. -/
def choice
    (mode : CaseMode)
    (alternatives : List (List Part)) : List Part :=
  match alternatives with
  | [] => []
  | [only] => only
  | first :: others =>
      let length := sharedLength first others
      let branches := alternatives.map (List.drop length)
      let branching : Part :=
        match branches.mapM setItems? with
        | some items => .unit (.oneOf false mode items.flatten.eraseDups)
        | none => .other (anyOf (branches.map sequence))
      first.take length ++ [branching]

/-- A repeated pattern; a repeated test for one character is a stretch. -/
def repeated
    (least : Nat)
    (most : Option Nat)
    (appetite : Appetite) : Pattern → Pattern
  | .one test => .stretch least most appetite test
  | body => .iterate least most appetite body

end Pattern
end DataContract
