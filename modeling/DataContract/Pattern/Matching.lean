import DataContract.Pattern.Basic

/-!
# Matching

A search tries the start positions from left to right and, at each, the ways to
match in the order in which the pattern lists them. Matching is written with
continuations: a pattern is given what has to follow it and a place, and
answers with the place at which everything was found, or with what the groups
hold after the last attempt failed.

What the groups hold is a list of marks, two for each group. A failed attempt
may leave marks behind. Inside a repetition they are put back as they were
before it; elsewhere only the marks that are new are dropped. A condition on a
group, or a repeated group, can tell the difference.

A repetition goes on only after an iteration that moved forward, so the rest of
the text bounds it.
-/

namespace DataContract
namespace Pattern

/-- Where groups were last entered and left: mark `2 * n` is the start of group
`n + 1` and mark `2 * n + 1` its end. -/
abbrev Marks := List (Option Nat)

/-- Set a mark. The marks before it that were not set stay unset. -/
def Marks.put
    (marks : Marks)
    (mark index : Nat) : Marks :=
  marks.take mark ++ List.replicate (mark - marks.length) none ++
    some index :: marks.drop (mark + 1)

/-- Where the part that a group captured starts and ends. -/
def Marks.captured?
    (marks : Marks)
    (group : Nat) : Option (Nat × Nat) :=
  match marks[2 * (group - 1)]?, marks[2 * (group - 1) + 1]? with
  | some (some first), some (some last) => if first ≤ last then some (first, last) else none
  | _, _ => none

/-- The marks with which to go on after a failed attempt that began with
`saved` and left `remaining`. -/
def Marks.backFrom
    (inRepeat : Bool)
    (saved remaining : Marks) : Marks :=
  if inRepeat then saved else remaining.take saved.length

/-- A position in a text, and the marks set on the way to it. -/
structure Place where
  /-- The number of characters before the position. -/
  index : Nat
  /-- The marks that have been set. -/
  marks : Marks

/-- What an attempt to match comes to. -/
inductive Outcome
  | found (place : Place)
  | lost (remaining : Marks)

/-- Whether a match was found. -/
def Outcome.isFound : Outcome → Bool
  | .found _ => true
  | .lost _ => false

/-- Go on from where a match was found. -/
def Outcome.andThen
    (outcome : Outcome)
    (next : Place → Outcome) : Outcome :=
  match outcome with
  | .found place => next place
  | .lost remaining => .lost remaining

/-- Try something else with the marks that a failed attempt left. -/
def Outcome.orElse
    (outcome : Outcome)
    (other : Marks → Outcome) : Outcome :=
  match outcome with
  | .found place => .found place
  | .lost remaining => other remaining

/-- What remains to be matched from a place on. -/
abbrev Continuation := Place → Outcome

/-- Whether the character at an index is part of a word. -/
def wordAt
    (text : Array Nat)
    (ascii : Bool)
    (index : Nat) : Bool :=
  text[index]?.any (CharacterClass.word.contains ascii)

/-- Whether an anchor holds at an index. The edges of words exist only in texts
that are not empty. -/
def holdsAt
    (text : Array Nat)
    (index : Nat) : Anchor → Bool
  | .lineStart everyLine =>
      index == 0 || (everyLine && text[index - 1]? == some 10)
  | .lineEnd everyLine =>
      index == text.size || (text[index]? == some 10 && (everyLine || index + 1 == text.size))
  | .textStart => index == 0
  | .textEnd => index == text.size
  | .wordEdge negated ascii =>
      let before := index != 0 && wordAt text ascii (index - 1)
      let after := wordAt text ascii index
      text.size != 0 && ((before != after) != negated)

/-- Whether the character at an index passes a test. -/
def passesAt
    (text : Array Nat)
    (test : CharTest)
    (index : Nat) : Bool :=
  text[index]?.any fun code => test.accepts code

/-- The index after another occurrence of a part of the text. -/
def repeated?
    (text : Array Nat)
    (mode : CaseMode)
    (first last index : Nat) : Option Nat :=
  let length := last - first
  if index + length ≤ text.size &&
      (List.range length).all fun distance =>
        (text[first + distance]?.map mode.fold) == (text[index + distance]?.map mode.fold) then
    some (index + length)
  else none

/-- The number of characters from an index on that pass a test, up to `room`. -/
def stretchLength
    (text : Array Nat)
    (test : CharTest)
    (index room : Nat) : Nat :=
  go index room 0
where
  /-- Count on from `length` characters found. -/
  go (index : Nat) : Nat → Nat → Nat
    | 0, length => length
    | room + 1, length =>
        if passesAt text test index then go (index + 1) room (length + 1) else length

/-- Go on from the first of some indices from which the rest can be matched. -/
def fromFirst
    (inRepeat : Bool)
    (next : Continuation) : List Nat → Marks → Outcome
  | [], marks => .lost marks
  | index :: later, marks =>
      (next ⟨index, marks⟩).orElse fun remaining =>
        fromFirst inRepeat next later (.backFrom inRepeat marks remaining)

/-- A stretch of characters that pass a test, and what follows it. -/
def takeStretch
    (text : Array Nat)
    (inRepeat : Bool)
    (least : Nat)
    (most : Option Nat)
    (appetite : Appetite)
    (test : CharTest)
    (next : Continuation)
    (place : Place) : Outcome :=
  let room := text.size - place.index
  let length := stretchLength text test place.index ((most.map (min room)).getD room)
  let ends := (List.range (length + 1 - least)).map (place.index + least + ·)
  if length < least then .lost place.marks
  else
    match appetite with
    | .greedy => fromFirst inRepeat next ends.reverse place.marks
    | .lazy => fromFirst inRepeat next ends place.marks
    | .possessive => next { place with index := place.index + length }

/-- Up to `most` further iterations, as many as possible. -/
def more
    (size : Nat)
    (body : Continuation → Continuation)
    (next : Continuation)
    (most : Option Nat)
    (place : Place) : Outcome :=
  if most = some 0 then next place
  else
    (body
      (fun reached =>
        if place.index < reached.index ∧ reached.index ≤ size then
          more size body next (most.map (· - 1)) reached
        else next reached)
      place).orElse fun _ => next place
termination_by size - place.index

/-- Up to `most` further iterations, as few as possible. -/
def fewer
    (size : Nat)
    (inRepeat : Bool)
    (body : Continuation → Continuation)
    (next : Continuation)
    (most : Option Nat)
    (place : Place) : Outcome :=
  (next place).orElse fun remaining =>
    let restored : Place := { place with marks := .backFrom inRepeat place.marks remaining }
    if most = some 0 then .lost restored.marks
    else
      body
        (fun reached =>
          if place.index < reached.index ∧ reached.index ≤ size then
            fewer size inRepeat body next (most.map (· - 1)) reached
          else
            (next reached).orElse fun remaining =>
              .lost (.backFrom inRepeat reached.marks remaining))
        restored
termination_by size - place.index

/-- The place after up to `most` iterations, each taken in its first way. -/
def exhaust
    (size : Nat)
    (body : Continuation)
    (most : Option Nat)
    (place : Place) : Place :=
  if most = some 0 then place
  else
    match body place with
    | .lost _ => place
    | .found reached =>
        if place.index < reached.index ∧ reached.index ≤ size then
          exhaust size body (most.map (· - 1)) reached
        else reached
termination_by size - place.index

/-- Exactly `count` iterations. -/
def exactly
    (body : Continuation → Continuation)
    (next : Continuation) : Nat → Continuation
  | 0 => next
  | count + 1 => body (exactly body next count)

/-- The place after exactly `count` iterations, each taken in its first way. -/
def exactlyFirst (body : Continuation) : Nat → Continuation
  | 0, place => .found place
  | count + 1, place => (body place).andThen (exactlyFirst body count)

/-- Match a pattern at a place and what remains after it. The flag tells
whether the pattern stands in the body of a repetition. -/
def run (text : Array Nat) : Bool → Pattern → Continuation → Continuation
  | _, .empty, next => next
  | _, .one test, next => fun place =>
      if passesAt text test place.index then next { place with index := place.index + 1 }
      else .lost place.marks
  | _, .anchor kind, next => fun place =>
      if holdsAt text place.index kind then next place else .lost place.marks
  | inRepeat, .both first second, next => run text inRepeat first (run text inRepeat second next)
  | inRepeat, .either first second, next => fun place =>
      (run text inRepeat first next place).orElse fun remaining =>
        let marks := Marks.backFrom inRepeat place.marks remaining
        (run text inRepeat second next { place with marks }).orElse fun remaining =>
          .lost (.backFrom inRepeat marks remaining)
  | inRepeat, .capture group body, next => fun place =>
      run text inRepeat body
        (fun reached =>
          next { reached with marks := reached.marks.put (2 * (group - 1) + 1) reached.index })
        { place with marks := place.marks.put (2 * (group - 1)) place.index }
  | inRepeat, .stretch least most appetite test, next =>
      takeStretch text inRepeat least most appetite test next
  | inRepeat, .iterate least most appetite body, next =>
      let rest := most.map (· - least)
      match appetite with
      | .greedy =>
          exactly (run text true body) (more text.size (run text true body) next rest) least
      | .lazy =>
          exactly (run text true body) (fewer text.size inRepeat (run text true body) next rest)
            least
      | .possessive => fun place =>
          (exactlyFirst (run text inRepeat body .found) least place).andThen fun reached =>
            next (exhaust text.size (run text inRepeat body .found) rest reached)
  | _, .again group mode, next => fun place =>
      match place.marks.captured? group with
      | some (first, last) =>
          match repeated? text mode first last place.index with
          | some index => next { place with index }
          | none => .lost place.marks
      | none => .lost place.marks
  | inRepeat, .ahead negated body, next => fun place =>
      look inRepeat negated (run text inRepeat body .found place) next place
  | inRepeat, .behind negated width body, next => fun place =>
      if width ≤ place.index then
        look inRepeat negated
          (run text inRepeat body .found { place with index := place.index - width }) next place
      else if negated then next place
      else .lost place.marks
  | inRepeat, .atomic body, next => fun place =>
      (run text inRepeat body .found place).andThen next
  | inRepeat, .ifCaptured group whenSet whenUnset, next => fun place =>
      if (place.marks.captured? group).isSome then run text inRepeat whenSet next place
      else run text inRepeat whenUnset next place
where
  /-- Go on from a place after what was looked for there was found or not. -/
  look
      (inRepeat negated : Bool)
      (outcome : Outcome)
      (next : Continuation)
      (place : Place) : Outcome :=
    match outcome with
    | .found reached =>
        if negated then .lost reached.marks else next { place with marks := reached.marks }
    | .lost remaining =>
        if negated then next { place with marks := .backFrom inRepeat place.marks remaining }
        else .lost remaining

end Pattern

/-- A pattern to search for. -/
structure Search where
  /-- The pattern. -/
  pattern : Pattern
  /-- The number of characters that there have to be for it. -/
  least : Nat
  /-- The test that the first of them has to pass, if there is one. -/
  entry : Option CharTest
  deriving Repr

/-- Whether the pattern of a search matches at some place of a text. -/
def Search.succeedsIn
    (search : Search)
    (content : List Nat) : Bool :=
  let text := content.toArray
  (List.range (text.size + 1 - search.least)).any fun start =>
    search.entry.all (Pattern.passesAt text · start) &&
      (search.pattern.run text false .found ⟨start, []⟩).isFound

end DataContract
