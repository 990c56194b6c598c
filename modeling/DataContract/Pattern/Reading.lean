import DataContract.Number.Reading
import DataContract.Pattern.Matching
import DataContract.Pattern.Part
import DataContract.Text.CharacterName
import DataContract.Text.Consume
import DataContract.Text.Identifier
import DataContract.Text.Surrogate

/-!
# Reading patterns

The written form of patterns. The reader walks over the text once and keeps
the parts of the group that it is in, with the groups around it on a stack. A
repetition applies to the last part read. Switches for case, lines, blanks and
scripts hold from where they are set to the end of their group; switches for
the whole pattern may stand only at its start. What concerns the pattern as a
whole is examined once all of it has been read.
-/

namespace DataContract

open Text

/-- Why a text is no pattern: it breaks a rule, it counts too far, its switches
contradict each other, or it looks too far behind. -/
inductive PatternFault
  | malformed
  | countTooLarge
  | contradictory
  | tooWide
  deriving DecidableEq, Repr

/-- What a pattern is searched in. -/
inductive PatternSubject
  | text
  | bytes
  deriving DecidableEq, Repr

namespace Pattern

/-- A character, a character after a backslash, or a backslash that nothing
follows. -/
inductive Sign
  | plain (c : Char)
  | escaped (c : Char)
  | unfinished
  deriving DecidableEq

/-- The signs of a text. -/
def signs : List Char → List Sign
  | [] => []
  | '\\' :: c :: rest => .escaped c :: signs rest
  | '\\' :: [] => [.unfinished]
  | c :: rest => .plain c :: signs rest

/-- The switches that are on. -/
structure Switches where
  /-- Letters stand for both cases. -/
  ignoreCase : Bool
  /-- Anchors are for every line. -/
  everyLine : Bool
  /-- A dot is for line ends too. -/
  dotAll : Bool
  /-- Blanks and comments count for nothing. -/
  spaced : Bool
  /-- Classes of characters are those of ASCII. -/
  ascii : Bool

/-- All switches off. -/
def Switches.none : Switches := ⟨false, false, false, false, false⟩

/-- How the switches treat case. -/
def Switches.caseMode (switches : Switches) : CaseMode :=
  if !switches.ignoreCase then .exact
  else if switches.ascii then .ascii
  else .full

/-- Turn one switch on or off. The letters for scripts choose between the ASCII
range and all scripts; the others have no effect on what a pattern matches. -/
def Switches.set
    (on : Bool)
    (switches : Switches)
    (letter : Char) : Switches :=
  if letter == 'i' then { switches with ignoreCase := on }
  else if letter == 'm' then { switches with everyLine := on }
  else if letter == 's' then { switches with dotAll := on }
  else if letter == 'x' then { switches with spaced := on }
  else if letter == 'a' then { switches with ascii := true }
  else if letter == 'u' || letter == 'L' then { switches with ascii := false }
  else switches

/-- The kinds of groups. A plain group is joined into what surrounds it. -/
inductive GroupKind
  | plain
  | switched
  | capturing (group : Nat)
  | unbroken
  | lookingAhead (negated : Bool)
  | lookingBehind (negated : Bool)
  | conditional (group : Nat)

/-- A part, or the parts of a plain group. -/
inductive Item
  | single (part : Part)
  | joined (parts : List Part)

/-- The parts of an item. -/
def Item.parts : Item → List Part
  | .single part => [part]
  | .joined parts => parts

/-- The pattern of an item that is to be repeated, if it can be. -/
def Item.repeatable? : Item → Option Pattern
  | .single part => if part.isRepeatable then some part.pattern else none
  | .joined parts => some (sequence parts)

/-- A group that is being read. -/
structure OpenGroup where
  /-- What kind of group it is. -/
  kind : GroupKind
  /-- The alternatives before the current one, latest first. -/
  alternatives : List (List Part)
  /-- The items of the current alternative, latest first. -/
  items : List Item
  /-- The switches outside the group. -/
  outside : Switches
  /-- The number of groups that may be referred to inside an assertion about what stands before. -/
  reachable : Option Nat

/-- What has been read so far. -/
structure Progress where
  /-- What the pattern is for: texts or bytes. -/
  subject : PatternSubject
  /-- The innermost open group. -/
  current : OpenGroup
  /-- The groups around it, innermost first. -/
  around : List OpenGroup
  /-- The switches that are on here. -/
  switches : Switches
  /-- The letters of switches that hold for the whole pattern. -/
  wholeLetters : List Char
  /-- The number of groups so far. -/
  groups : Nat
  /-- The names of groups, with their numbers. -/
  names : List (String × Nat)
  /-- The widths of groups, by their numbers. -/
  widths : List (Nat × Width)
  /-- The number of groups that may be referred to here. -/
  reachable : Option Nat
  /-- The groups that conditions refer to. -/
  expected : List Nat
  /-- The widths of assertions about what stands before. -/
  behind : List Width
  /-- Whether anything is repeated. -/
  repeats : Bool

/-- The result of reading a piece. -/
abbrev Reading := Except PatternFault

/-- Refuse a text. -/
def malformed {α : Type} : Reading α :=
  .error .malformed

namespace Progress

/-- Before anything is read. Group 0 is the whole pattern. -/
def start (subject : PatternSubject) : Progress :=
  { subject
    current := ⟨.plain, [], [], .none, none⟩
    around := []
    switches := .none
    wholeLetters := []
    groups := 1
    names := []
    widths := []
    reachable := none
    expected := []
    behind := []
    repeats := false }

/-- Add an item to the current sequence. -/
def addItem
    (progress : Progress)
    (item : Item) : Progress :=
  { progress with
    current := { progress.current with items := item :: progress.current.items } }

/-- Add a part to the current sequence. -/
def add
    (progress : Progress)
    (part : Part) : Progress :=
  progress.addItem (.single part)

/-- Add a character that stands for itself. -/
def addCode
    (progress : Progress)
    (code : Nat) : Progress :=
  progress.add (.unit (.letter false progress.switches.caseMode code))

/-- Whether a group is complete, so that it can be referred to. -/
def isComplete
    (progress : Progress)
    (group : Nat) : Bool :=
  progress.widths.any (·.1 == group)

/-- Whether the assertion around, if it is about what stands before, allows a
reference to a group. -/
def mayRefer
    (progress : Progress)
    (group : Nat) : Bool :=
  progress.reachable.all fun limit => progress.isComplete group && group < limit

/-- Add a reference to what a group captured. -/
def addReference
    (progress : Progress)
    (group : Nat) : Reading Progress :=
  if progress.isComplete group && progress.mayRefer group then
    .ok (progress.add (.reference group progress.switches.caseMode))
  else malformed

/-- Open a group. -/
def openGroup
    (progress : Progress)
    (kind : GroupKind)
    (switches : Switches) : Progress :=
  { progress with
    current := ⟨kind, [], [], progress.switches, progress.reachable⟩
    around := progress.current :: progress.around
    switches }

end Progress

/-- The parts of the current alternative. -/
def OpenGroup.latest (group : OpenGroup) : List Part :=
  group.items.reverse.flatMap Item.parts

/-- The parts of a group that ends here, where case is treated in the given
way. -/
def OpenGroup.parts
    (group : OpenGroup)
    (mode : CaseMode) : List Part :=
  choice mode (group.latest :: group.alternatives).reverse

/-- Start another alternative. A condition has at most two. -/
def OpenGroup.otherwise (group : OpenGroup) : Reading OpenGroup :=
  let next := { group with alternatives := group.latest :: group.alternatives, items := [] }
  match group.kind with
  | .conditional _ => if group.alternatives.isEmpty then .ok next else malformed
  | _ => .ok next

/-- The item for a group that ends here. -/
def OpenGroup.close
    (group : OpenGroup)
    (mode : CaseMode)
    (widths : List (Nat × Width)) : Item :=
  let parts := group.parts mode
  let body := sequence parts
  match group.kind with
  | .plain => .joined parts
  | .switched => .single (.other body)
  | .capturing index => .single (.other (.capture index body))
  | .unbroken => .single (.other (.atomic body))
  | .lookingAhead negated => .single (.other (.ahead negated body))
  | .lookingBehind negated =>
      .single (.other (.behind negated (body.width widths).least body))
  | .conditional index =>
      let pattern : Pattern :=
        match group.alternatives with
        | [] => .ifCaptured index (sequence group.latest) .empty
        | whenSet :: _ => .ifCaptured index (sequence whenSet) (sequence group.latest)
      .single (.other pattern)

/-- End the current group. -/
def Progress.closeGroup
    (progress : Progress)
    (outer : OpenGroup)
    (around : List OpenGroup) : Progress :=
  let group := progress.current
  let mode := progress.switches.caseMode
  let width := (sequence (group.parts mode)).width progress.widths
  let closed : Progress :=
    { progress with
      current := outer
      around
      switches := group.outside
      widths :=
        match group.kind with
        | .capturing index => (index, width) :: progress.widths
        | _ => progress.widths
      reachable := group.reachable
      behind :=
        match group.kind with
        | .lookingBehind _ => width :: progress.behind
        | _ => progress.behind }
  closed.addItem (group.close mode progress.widths)

/-- Up to `count` signs that are plain characters of a kind. -/
def takePlain
    (count : Nat)
    (kind : Char → Bool)
    (input : List Sign) : List Char × List Sign :=
  match count, input with
  | bound + 1, .plain c :: rest =>
      if kind c then
        let more := takePlain bound kind rest
        (c :: more.1, more.2)
      else ([], input)
  | _, _ => ([], input)

/-- What follows the next sign of a kind, if there is one. -/
def dropThrough
    (sign : Sign)
    (input : List Sign) : Option (List Sign) :=
  match input.dropWhile (· != sign) with
  | _ :: rest => some rest
  | [] => none

/-- Whether a character is a hexadecimal digit. -/
def isHex (c : Char) : Bool :=
  c.isDigit || ('a' ≤ c && c ≤ 'f') || ('A' ≤ c && c ≤ 'F')

/-- Whether a character is an octal digit. -/
def isOctal (c : Char) : Bool :=
  '0' ≤ c && c ≤ '7'

/-- The number written by digits of a base up to 16. -/
def numberOf (base : Nat) (digits : List Char) : Nat :=
  digits.foldl
    (fun total c =>
      let value :=
        if c.isDigit then c.toNat - 48
        else if 'a' ≤ c then c.toNat - 87
        else c.toNat - 55
      total * base + value)
    0

/-- The code point written by exactly `count` hexadecimal digits. -/
def takeHexCode
    (count : Nat)
    (input : List Sign) : Reading (Nat × List Sign) :=
  let taken := takePlain count isHex input
  let code := numberOf 16 taken.1
  if taken.1.length = count && code ≤ 1114111 then .ok (code, taken.2) else malformed

/-- The signs before a closing sign, as a name, and what follows it. -/
def takeName
    (closing : Char)
    (input : List Sign) : Reading (List Char × List Sign) := do
  let name ← (input.takeWhile (· != .plain closing)).mapM fun
    | .plain c => .ok c
    | _ => malformed
  match input.drop name.length with
  | _ :: rest => if name.isEmpty then malformed else .ok (name, rest)
  | [] => malformed

/-- The code point of a character that is given by its name in braces. -/
def takeNamedCode (input : List Sign) : Reading (Nat × List Sign) :=
  match input with
  | .plain '\x7b' :: rest => do
      let (name, rest) ← takeName '\x7d' rest
      match characterNamed? name with
      | some code => .ok (code, rest)
      | none => malformed
  | _ => malformed

/-- The control character that a letter after a backslash names. -/
def controlCode? (c : Char) : Option Nat :=
  if c == 'a' then some 7
  else if c == 'f' then some 12
  else if c == 'n' then some 10
  else if c == 'r' then some 13
  else if c == 't' then some 9
  else if c == 'v' then some 11
  else if c == '\\' then some 92
  else none

/-- The class that a letter after a backslash names, and whether its
complement is meant. -/
def classOf? (c : Char) : Option (CharacterClass × Bool) :=
  if c == 'd' then some (.digit, false)
  else if c == 'D' then some (.digit, true)
  else if c == 's' then some (.blank, false)
  else if c == 'S' then some (.blank, true)
  else if c == 'w' then some (.word, false)
  else if c == 'W' then some (.word, true)
  else none

/-- A code point written in hexadecimal or by name after one of the letters for
it. Patterns for bytes have only the shortest form. -/
def codeEscape?
    (subject : PatternSubject)
    (c : Char)
    (input : List Sign) : Option (Reading (Nat × List Sign)) :=
  if c == 'x' then some (takeHexCode 2 input)
  else if subject == .bytes then none
  else if c == 'u' then some (takeHexCode 4 input)
  else if c == 'U' then some (takeHexCode 8 input)
  else if c == 'N' then some (takeNamedCode input)
  else none

/-- A character after a backslash that stands for itself: any but the letters
and digits of the ASCII range. -/
def selfEscape (c : Char) : Reading Nat :=
  if c.isAlphanum then malformed else .ok (codeAt c)

/-- A part of a set that is written with a backslash. -/
def setEscape
    (subject : PatternSubject)
    (ascii : Bool)
    (c : Char)
    (input : List Sign) : Reading (SetItem × List Sign) :=
  match controlCode? c, classOf? c, codeEscape? subject c input with
  | some code, _, _ => .ok (.code code, input)
  | none, some (kind, negated), _ => .ok (.kind kind negated ascii, input)
  | none, none, some read => read.map fun found => (.code found.1, found.2)
  | none, none, none =>
      if c == 'b' then .ok (.code 8, input)
      else if isOctal c then
        let more := takePlain 2 isOctal input
        let code := numberOf 8 (c :: more.1)
        if code ≤ 255 then .ok (.code code, more.2) else malformed
      else (selfEscape c).map fun code => (.code code, input)

/-- One end of a range, or a single part of a set. -/
def setItem
    (subject : PatternSubject)
    (ascii : Bool)
    (sign : Sign)
    (input : List Sign) : Reading (SetItem × List Sign) :=
  match sign with
  | .plain c => .ok (.code (codeAt c), input)
  | .escaped c => setEscape subject ascii c input
  | .unfinished => malformed

/-- Read one part of a set, or its end. The state holds the parts before,
latest first. -/
def setStep
    (subject : PatternSubject)
    (ascii : Bool)
    (items : List SetItem)
    (input : List Sign) :
    Except PatternFault (Step (List SetItem) Sign (List SetItem × List Sign)) :=
  match input with
  | [] => malformed
  | sign :: rest =>
      if sign == .plain ']' && !items.isEmpty then .ok (.done (items.reverse, rest))
      else do
        let (first, rest) ← setItem subject ascii sign rest
        match rest with
        | .plain '-' :: .plain ']' :: rest =>
            .ok (.done ((.code 45 :: first :: items).reverse, rest))
        | .plain '-' :: sign :: rest => do
            let (last, rest) ← setItem subject ascii sign rest
            match first, last with
            | .code low, .code high =>
                if low ≤ high then .ok (.more (.range low high :: items) rest) else malformed
            | _, _ => malformed
        | .plain '-' :: [] => malformed
        | _ => .ok (.more (first :: items) rest)

/-- The parts of a set and what follows its closing bracket. -/
def readSet
    (subject : PatternSubject)
    (ascii : Bool)
    (input : List Sign) : Reading (List SetItem × List Sign) :=
  consume .malformed (setStep subject ascii) [] input

/-- The greatest number of iterations that may be written. -/
def maxCount : Nat := 4294967294

/-- The bounds of a counted repetition and what follows the closing brace;
`none` if the brace stands for itself. -/
def readCounts?
    (input : List Sign) :
    Option (Reading ((Nat × Option Nat) × List Sign)) :=
  let low := takePlain input.length Char.isDigit input
  let upper :=
    match low.2 with
    | .plain ',' :: rest => takePlain rest.length Char.isDigit rest
    | rest => (low.1, rest)
  match upper.2 with
  | .plain '\x7d' :: rest =>
      let least := numberOf 10 low.1
      let most := if upper.1.isEmpty then none else some (numberOf 10 upper.1)
      some
        (if rest.head? == some .unfinished then malformed
        else if maxCount < least || most.any (maxCount < ·) then .error .countTooLarge
        else if most.any (· < least) then malformed
        else .ok ((least, most), rest))
  | _ => none

/-- Repeat the last item. -/
def Progress.repeatLast
    (progress : Progress)
    (least : Nat)
    (most : Option Nat)
    (input : List Sign) : Reading (Progress × List Sign) :=
  match progress.current.items with
  | [] => malformed
  | item :: items =>
      match item.repeatable? with
      | none => malformed
      | some body =>
          let appetite : Appetite × List Sign :=
            match input with
            | .plain '?' :: rest => (.lazy, rest)
            | .plain '+' :: rest => (.possessive, rest)
            | _ => (.greedy, input)
          let part := Part.repetition (repeated least most appetite.1 body)
          .ok
            ({ progress with
              current := { progress.current with items := .single part :: items }
              repeats := true }, appetite.2)

/-- Open a group that captures, with a name if one is given. -/
def Progress.openCapture
    (progress : Progress)
    (name : Option (List Char)) : Reading Progress :=
  let numbered : Progress := { progress with groups := progress.groups + 1 }
  let opened := fun (progress : Progress) (group : Nat) =>
    progress.openGroup (.capturing group) progress.switches
  match name with
  | none => .ok (opened numbered progress.groups)
  | some name =>
      let text := String.ofList name
      if !isIdentifier name || progress.names.any (·.1 == text) then malformed
      else
        .ok (opened { numbered with names := (text, progress.groups) :: progress.names }
          progress.groups)

/-- The group that a name stands for. -/
def Progress.groupNamed?
    (progress : Progress)
    (name : List Char) : Option Nat :=
  (progress.names.find? (·.1 == String.ofList name)).map (·.2)

/-- The number from which on no group can be asked for. -/
def groupLimit : Nat := 1073741823

/-- The group that a condition asks for, by its name or its number. -/
def Progress.groupAskedFor
    (progress : Progress)
    (name : List Char) : Reading Nat :=
  if isIdentifier name then
    match progress.groupNamed? name with
    | some group => .ok group
    | none => malformed
  else
    match Number.readWhole? name with
    | some (.ofNat group) => if 0 < group && group < groupLimit then .ok group else malformed
    | _ => malformed

/-- Open a group whose body depends on whether another group captured. -/
def Progress.openConditional
    (progress : Progress)
    (name : List Char) : Reading Progress := do
  let group ← progress.groupAskedFor name
  if progress.mayRefer group then
    let noted : Progress := { progress with expected := group :: progress.expected }
    .ok (noted.openGroup (.conditional group) progress.switches)
  else malformed

/-- The letters that choose the scripts of a pattern. -/
def scriptLetters : List Char := ['a', 'u', 'L']

/-- Whether switches can be turned on together: they are known, and at most one
of them chooses the scripts. -/
def mayTurnOn
    (subject : PatternSubject)
    (letters : List Char) : Bool :=
  let known := if subject == .text then "imsxtau" else "imsxtaL"
  letters.all known.toList.contains &&
    (letters.filter scriptLetters.contains).eraseDups.length ≤ 1

/-- Whether switches can be turned off for a group. -/
def mayTurnOff (letters : List Char) : Bool :=
  !letters.isEmpty && letters.all "imsx".toList.contains

/-- Read switches after an opening bracket and a question mark. They hold for
the whole pattern if a bracket closes them, else for a group. -/
def Progress.readSwitches
    (progress : Progress)
    (input : List Sign) : Reading (Progress × List Sign) :=
  let (letters, rest) := takePlain input.length Char.isAlpha input
  let on := letters.foldl (Switches.set true) progress.switches
  if !mayTurnOn progress.subject letters then malformed
  else
    match rest with
    | .plain ')' :: rest =>
        if letters.isEmpty || !progress.around.isEmpty || !progress.current.items.isEmpty ||
            !progress.current.alternatives.isEmpty then
          malformed
        else
          .ok
            ({ progress with switches := on, wholeLetters := progress.wholeLetters ++ letters },
              rest)
    | .plain ':' :: rest =>
        if letters.isEmpty || letters.contains 't' then malformed
        else .ok (progress.openGroup .switched on, rest)
    | .plain '-' :: rest =>
        let (removed, rest) := takePlain rest.length Char.isAlpha rest
        match rest with
        | .plain ':' :: rest =>
            if letters.contains 't' || !mayTurnOff removed || letters.any removed.contains then
              malformed
            else .ok (progress.openGroup .switched (removed.foldl (Switches.set false) on), rest)
        | _ => malformed
    | _ => malformed

/-- Open an assertion about what stands before. Groups opened inside it cannot
be referred to there. -/
def Progress.openBehind
    (progress : Progress)
    (negated : Bool) : Progress :=
  let opened := progress.openGroup (.lookingBehind negated) progress.switches
  { opened with reachable := some (progress.reachable.getD progress.groups) }

/-- Read what follows an opening bracket. -/
def Progress.readGroup
    (progress : Progress)
    (input : List Sign) : Reading (Progress × List Sign) :=
  match input with
  | .plain '?' :: .plain ':' :: rest =>
      .ok (progress.openGroup .plain progress.switches, rest)
  | .plain '?' :: .plain '>' :: rest =>
      .ok (progress.openGroup .unbroken progress.switches, rest)
  | .plain '?' :: .plain '=' :: rest =>
      .ok (progress.openGroup (.lookingAhead false) progress.switches, rest)
  | .plain '?' :: .plain '!' :: rest =>
      .ok (progress.openGroup (.lookingAhead true) progress.switches, rest)
  | .plain '?' :: .plain '<' :: .plain '=' :: rest => .ok (progress.openBehind false, rest)
  | .plain '?' :: .plain '<' :: .plain '!' :: rest => .ok (progress.openBehind true, rest)
  | .plain '?' :: .plain 'P' :: .plain '<' :: rest => do
      let (name, rest) ← takeName '>' rest
      .ok (← progress.openCapture (some name), rest)
  | .plain '?' :: .plain 'P' :: .plain '=' :: rest => do
      let (name, rest) ← takeName ')' rest
      match progress.groupNamed? name with
      | some group => .ok (← progress.addReference group, rest)
      | none => malformed
  | .plain '?' :: .plain '#' :: rest =>
      match dropThrough (.plain ')') rest with
      | some rest => .ok (progress, rest)
      | none => malformed
  | .plain '?' :: .plain '(' :: rest => do
      let (name, rest) ← takeName ')' rest
      .ok (← progress.openConditional name, rest)
  | .plain '?' :: rest => progress.readSwitches rest
  | _ => do .ok (← progress.openCapture none, input)

/-- Read a reference to a group or a character in octal; `c` is the first
digit and not zero. -/
def Progress.readDigits
    (progress : Progress)
    (c : Char)
    (input : List Sign) : Reading (Progress × List Sign) :=
  let second := takePlain 1 Char.isDigit input
  match second.1 with
  | [d] =>
      let third := takePlain 1 isOctal second.2
      if isOctal c && isOctal d && !third.1.isEmpty then
        let code := numberOf 8 (c :: d :: third.1)
        if code ≤ 255 then .ok (progress.addCode code, third.2) else malformed
      else do .ok (← progress.addReference (numberOf 10 [c, d]), second.2)
  | _ => do .ok (← progress.addReference (numberOf 10 [c]), second.2)

/-- Read what follows a backslash. -/
def Progress.readEscape
    (progress : Progress)
    (c : Char)
    (input : List Sign) : Reading (Progress × List Sign) :=
  let switches := progress.switches
  let place := fun (anchor : Anchor) => Except.ok (progress.add (.anchor anchor), input)
  if c == 'A' then place .textStart
  else if c == 'Z' then place .textEnd
  else if c == 'b' then place (.wordEdge false switches.ascii)
  else if c == 'B' then place (.wordEdge true switches.ascii)
  else
    match classOf? c, controlCode? c, codeEscape? progress.subject c input with
    | some (kind, negated), _, _ =>
        .ok
          (progress.add
            (.unit (.oneOf false switches.caseMode [.kind kind negated switches.ascii])), input)
    | none, some code, _ => .ok (progress.addCode code, input)
    | none, none, some read => read.map fun found => (progress.addCode found.1, found.2)
    | none, none, none =>
        if c == '0' then
          let more := takePlain 2 isOctal input
          .ok (progress.addCode (numberOf 8 more.1), more.2)
        else if c.isDigit then progress.readDigits c input
        else (selfEscape c).map fun code => (progress.addCode code, input)

/-- Read a set of characters after its opening bracket. A set of one character
is that character. -/
def Progress.readSetOf
    (progress : Progress)
    (input : List Sign) : Reading (Progress × List Sign) := do
  let mode := progress.switches.caseMode
  let negated := input.head? == some (.plain '^')
  let (items, rest) ←
    readSet progress.subject progress.switches.ascii (if negated then input.drop 1 else input)
  let test : CharTest :=
    match items.eraseDups with
    | [.code code] => .letter negated mode code
    | items => .oneOf negated mode items
  .ok (progress.add (.unit test), rest)

/-- Whether a character is skipped between the parts of a spaced pattern. -/
def isSkipped (c : Char) : Bool :=
  c == ' ' || c == '\t' || c == '\n' || c == '\r' || c.toNat == 11 || c.toNat == 12

/-- What follows a comment of a spaced pattern, which goes on to the end of the
line or of the text. -/
def afterComment (input : List Sign) : List Sign :=
  match input.dropWhile fun sign => sign != .plain '\n' && sign != .unfinished with
  | .plain _ :: rest => rest
  | rest => rest

/-- Read one plain character and what belongs to it. -/
def Progress.readPlain
    (progress : Progress)
    (c : Char)
    (input : List Sign) : Reading (Progress × List Sign) :=
  let switches := progress.switches
  if switches.spaced && isSkipped c then .ok (progress, input)
  else if switches.spaced && c == '#' then .ok (progress, afterComment input)
  else if c == '[' then progress.readSetOf input
  else if c == '.' then
    .ok (progress.add (.unit (if switches.dotAll then .anyCharacter else .anyOnLine)), input)
  else if c == '^' then .ok (progress.add (.anchor (.lineStart switches.everyLine)), input)
  else if c == '$' then .ok (progress.add (.anchor (.lineEnd switches.everyLine)), input)
  else if c == '?' then progress.repeatLast 0 (some 1) input
  else if c == '*' then progress.repeatLast 0 none input
  else if c == '+' then progress.repeatLast 1 none input
  else if c == '\x7b' then
    match input with
    | .plain '\x7d' :: _ => .ok (progress.addCode (codeAt c), input)
    | _ =>
        match readCounts? input with
        | some counts => do
            let ((least, most), rest) ← counts
            progress.repeatLast least most rest
        | none => .ok (progress.addCode (codeAt c), input)
  else if c == '(' then progress.readGroup input
  else if c == '|' then
    progress.current.otherwise.map fun current => ({ progress with current }, input)
  else .ok (progress.addCode (codeAt c), input)

/-- Widths from which on nothing can be looked for behind a place. -/
def behindLimit : Nat := 2147483648

/-- The search for a pattern that has been read up to its end, or up to a
bracket that closes no group. -/
def Progress.finish
    (progress : Progress)
    (atEnd : Bool) : Reading Search :=
  let letters := progress.wholeLetters
  let body := sequence (progress.current.parts progress.switches.caseMode)
  if 1 < (letters.filter scriptLetters.contains).eraseDups.length then .error .contradictory
  else if !atEnd || progress.expected.any (progress.groups ≤ ·) then malformed
  else if (progress.repeats && letters.contains 't') ||
      progress.behind.any (fun width => width.least != width.greatest) then
    malformed
  else if progress.behind.any (behindLimit ≤ ·.least) then .error .tooWide
  else
    .ok
      { pattern := body
        least := (body.width progress.widths).least
        entry := body.leading?.bind (CharTest.entry? progress.switches.ascii) }

/-- Read one sign and what belongs to it, or the end of the pattern. -/
def readStep
    (progress : Progress)
    (input : List Sign) : Reading (Step Progress Sign Search) :=
  match input with
  | [] => if progress.around.isEmpty then (progress.finish true).map .done else malformed
  | .plain ')' :: rest =>
      match progress.around with
      | [] => (progress.finish false).map .done
      | outer :: around => .ok (.more (progress.closeGroup outer around) rest)
  | .plain c :: rest => do
      let (progress, rest) ← progress.readPlain c rest
      .ok (.more progress rest)
  | .escaped c :: rest => do
      let (progress, rest) ← progress.readEscape c rest
      .ok (.more progress rest)
  | .unfinished :: _ => malformed

/-- The search for the pattern that a text writes. -/
def read
    (subject : PatternSubject)
    (text : List Char) : Reading Search :=
  consume .malformed readStep (Progress.start subject) (signs text)

end Pattern
end DataContract
