import DataContract.Failure
import DataContract.Value.Display

/-!
# Message backends

A backend words the failures of predicates. The default backend has a text for
every kind of value and a template for every built-in predicate, in which
`%input%` stands for the predicate's first argument.
-/

namespace DataContract

/-- The wording of failures. -/
structure MessageBackend where
  /-- The text for the name of a predicate or of a named union, its arguments with the examined
  value last, and that value. -/
  text : Value → List Value → Value → Attempt String

/-- The texts of the default backend. -/
structure Wording where
  /-- The texts for failed type checks, by tag. -/
  kinds : List (String × String)
  /-- The texts for all other predicates, by name. -/
  templates : List (String × String)

namespace Wording

/-- The English texts. -/
def english : Wording where
  kinds := [
    ("any", "must be present"),
    ("none", "must be nil"),
    ("boolean", "must be boolean"),
    ("integer", "must be an integer"),
    ("float", "must be a float"),
    ("string", "must be a string"),
    ("bytes", "must be bytes"),
    ("list", "must be a list"),
    ("map", "must be a map"),
    ("date", "must be a date"),
    ("date_time", "must be a date time"),
    ("time", "must be a time"),
    ("decimal", "must be a decimal")]
  templates := [
    ("has_key?", "key must be present"),
    ("filled?", "must be filled"),
    ("empty?", "must be empty"),
    ("eql?", "must be equal to %input%"),
    ("not_eql?", "must not be equal to %input%"),
    ("lt?", "must be less than %input%"),
    ("gt?", "must be greater than %input%"),
    ("lteq?", "must be less than or equal to %input%"),
    ("gteq?", "must be greater than or equal to %input%"),
    ("min_size?", "size cannot be less than %input%"),
    ("max_size?", "size cannot be greater than %input%"),
    ("size?", "size must be %input%"),
    ("even?", "must be even"),
    ("odd?", "must be odd"),
    ("match?", "must have a valid format"),
    ("includes?", "must include %input%"),
    ("excludes?", "must exclude %input%"),
    ("in?", "must be one of: %input%"),
    ("not_in?", "must not be one of: %input%"),
    ("number", "must be a number")]

/-- The wording with further texts, which come before those of the same
names. -/
def extend
    (wording : Wording)
    (kinds templates : List (String × String)) : Wording :=
  ⟨kinds ++ wording.kinds, templates ++ wording.templates⟩

end Wording

/-- The text under a name in a list of texts. The name may be any value that
can be a key. -/
def findText
    (texts : List (String × String))
    (name : Value) : Attempt (Option String) :=
  if !name.isKey then .error .wrongKind
  else
    match name with
    | .text name => .ok (texts.lookup name)
    | _ => .ok none

/-- The mark in a template for the first argument. -/
def inputMark : String := "%input%"

/-- The pieces of a text around the places where a mark stands: `piece` is what has been read of
the current one, backwards, and the next `skip` characters belong to a mark. -/
def piecesFrom (mark : List Char) : (skip : Nat) → (piece : List Char) → List Char → List String
  | _, piece, [] => [String.ofList piece.reverse]
  | skip + 1, piece, _ :: rest => piecesFrom mark skip piece rest
  | 0, piece, char :: rest =>
      if mark.isPrefixOf (char :: rest) then
        String.ofList piece.reverse :: piecesFrom mark (mark.length - 1) [] rest
      else piecesFrom mark 0 (char :: piece) rest

/-- The pieces of a template around the marks for the first argument. -/
def templatePieces (template : String) : List String :=
  piecesFrom inputMark.toList 0 [] template.toList

/-- The text of the first argument of a predicate: the options of a membership
test one by one. -/
def expectedText (predicate expected : Value) : Attempt String :=
  if predicate == .text "in?" || predicate == .text "not_in?" then
    match expected.items? with
    | some options => do .ok (", ".intercalate (← options.mapM Value.write))
    | none => .error .wrongKind
  else expected.write

/-- The default wording of a failure. -/
def Wording.message
    (wording : Wording)
    (predicate : Value)
    (args : List Value) : Attempt String := do
  let own := args.dropLast
  if predicate == .text Failure.typePredicate then
    let tag := own.headD .null
    let written ← tag.write
    .ok ((← findText wording.kinds tag).getD ("must be " ++ written))
  else
    match ← findText wording.templates predicate with
    | none => do .ok ("must satisfy " ++ (← predicate.write))
    | some template =>
        match own with
        | [] => .ok template
        | expected :: _ =>
            match templatePieces template with
            | [_] => .ok template
            | pieces => do .ok ((← expectedText predicate expected).intercalate pieces)

namespace MessageBackend

/-- The backend with a given wording. -/
def ofWording (wording : Wording) : MessageBackend where
  text predicate args _ := wording.message predicate args

/-- The default backend. -/
def default : MessageBackend := ofWording .english

end MessageBackend
end DataContract
