import DataContract.Pattern.Character

/-!
# Text patterns

Regular expressions with captures, back references, assertions about what
stands before and after, and repetitions that try more, try less, or never
give back. A repeated test for one character is a form of its own, because it
takes a stretch of the text at once.

The widths of a pattern are the least and the greatest number of characters
that it takes. They are counted up to a limit, which also stands for “no
greatest number”.
-/

namespace DataContract

/-- A place in a text that takes no room. -/
inductive Anchor
  | lineStart (everyLine : Bool)
  | lineEnd (everyLine : Bool)
  | textStart
  | textEnd
  | wordEdge (negated ascii : Bool)
  deriving DecidableEq, Repr

/-- How a repetition chooses the number of iterations: as many as possible, as
few as possible, or as many as possible without ever giving one back. -/
inductive Appetite
  | greedy
  | lazy
  | possessive
  deriving DecidableEq, Repr

/-- A pattern. Groups are numbered from 1. -/
inductive Pattern
  | empty
  | one (test : CharTest)
  | anchor (place : Anchor)
  | both (first second : Pattern)
  | either (first second : Pattern)
  | capture
      (group : Nat)
      (body : Pattern)
  | stretch
      (least : Nat)
      (most : Option Nat)
      (appetite : Appetite)
      (test : CharTest)
  | iterate
      (least : Nat)
      (most : Option Nat)
      (appetite : Appetite)
      (body : Pattern)
  | again
      (group : Nat)
      (mode : CaseMode)
  | ahead
      (negated : Bool)
      (body : Pattern)
  | behind
      (negated : Bool)
      (width : Nat)
      (body : Pattern)
  | atomic (body : Pattern)
  | ifCaptured
      (group : Nat)
      (whenSet whenUnset : Pattern)
  deriving Repr

/-- The least and the greatest number of characters that a pattern takes. -/
structure Width where
  /-- The least number of characters. -/
  least : Nat
  /-- The greatest number of characters. -/
  greatest : Nat
  deriving DecidableEq, Repr

namespace Width

/-- The greatest width that is told apart from none. -/
def limit : Nat := 4294967295

/-- Widths within the limit; the least one stays below it. -/
def capped (least greatest : Nat) : Width :=
  ⟨min least (limit - 1), min greatest limit⟩

/-- The width of two patterns, one after the other. -/
def followedBy (first second : Width) : Width :=
  capped (first.least + second.least) (first.greatest + second.greatest)

/-- The width of a choice between two patterns. -/
def orElse (first second : Width) : Width :=
  ⟨min first.least second.least, max first.greatest second.greatest⟩

/-- The width of a repetition. -/
def iterated
    (width : Width)
    (least : Nat)
    (most : Option Nat) : Width :=
  capped (width.least * least) (width.greatest * most.getD limit)

end Width

namespace Pattern

/-- The width of a pattern, given those of its groups. -/
def width (groups : List (Nat × Width)) : Pattern → Width
  | .empty => ⟨0, 0⟩
  | .one _ => ⟨1, 1⟩
  | .anchor _ => ⟨0, 0⟩
  | .both first second => (width groups first).followedBy (width groups second)
  | .either first second => (width groups first).orElse (width groups second)
  | .capture _ body => width groups body
  | .stretch least most _ _ => Width.iterated ⟨1, 1⟩ least most
  | .iterate least most _ body => (width groups body).iterated least most
  | .again group _ => ((groups.find? (·.1 == group)).map (·.2)).getD ⟨0, 0⟩
  | .ahead .. => ⟨0, 0⟩
  | .behind .. => ⟨0, 0⟩
  | .atomic body => width groups body
  | .ifCaptured _ whenSet whenUnset => (width groups whenSet).orElse (width groups whenUnset)

/-- The test that a pattern starts with, if it starts with one that is neither
repeated nor one of several. -/
def leading? : Pattern → Option CharTest
  | .one test => some test
  | .both first _ => leading? first
  | .capture _ body => leading? body
  | _ => none

end Pattern
end DataContract
