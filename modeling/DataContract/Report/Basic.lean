import DataContract.Report.Backend

/-!
# Reports

A failure tree becomes a list of records for people to read, one for every
leaf, except that a union is one record: with the records of both sides, or,
if the union has a name, with the one message that fits best. Records are
sorted by path; whole numbers come first, and everything else is compared as
text.
-/

namespace DataContract

/-- The kinds of records. -/
inductive RecordKind
  | type
  | key
  | union
  | rule
  deriving DecidableEq, Repr

/-- The name of a kind. -/
def RecordKind.name : RecordKind → String
  | .type => "type"
  | .key => "key"
  | .union => "union"
  | .rule => "rule"

/-- A record of a failure: where, in which words, and what lies behind it. -/
inductive Record
  | mk
      (kind : RecordKind)
      (path : Path)
      (text : String)
      (details : Entries)
      (cast : Bool)
      (left right : List Record)

namespace Record

/-- The kind of a record. -/
def kind : Record → RecordKind
  | .mk kind _ _ _ _ _ _ => kind

/-- The path to what failed. -/
def path : Record → Path
  | .mk _ path _ _ _ _ _ => path

/-- The message without the path. -/
def text : Record → String
  | .mk _ _ text _ _ _ _ => text

/-- What lies behind the message. -/
def details : Record → Entries
  | .mk _ _ _ details _ _ _ => details

/-- Whether the failure is that of the input of a cast. -/
def cast : Record → Bool
  | .mk _ _ _ _ cast _ _ => cast

/-- The records of the left side of a union. -/
def left : Record → List Record
  | .mk _ _ _ _ _ left _ => left

/-- The records of the right side of a union. -/
def right : Record → List Record
  | .mk _ _ _ _ _ _ right => right

/-- The record marked as that of a cast. -/
def markCast : Record → Record
  | .mk kind path text details _ left right => .mk kind path text details true left right

/-- A record, all of whose path segments must be of a kind that segments can
have. -/
def make
    (kind : RecordKind)
    (path : Path)
    (text : String)
    (details : Entries)
    (left right : List Record) : Attempt Record :=
  if path.all Value.isSegment then .ok (.mk kind path text details false left right)
  else .error .invalidField

end Record

/-- The text of one segment of a path: members of enumerations show their
content. -/
def segmentText : Value → String
  | .member _ _ content => content.plain
  | other => other.plain

/-- The text of a path. -/
def formatPath (path : Path) : String :=
  ".".intercalate (path.map segmentText)

/-- The two sides of a union as one text. -/
def joinSides (left right : List String) : String :=
  " and ".intercalate left ++ " or " ++ " and ".intercalate right

mutual

/-- The text of a record with its path. -/
def Record.display : Record → String
  | .mk kind path text _ cast left right =>
      let message :=
        match kind with
        | .union => joinSides (displayRecords left) (displayRecords right)
        | _ => if path.isEmpty then text else formatPath path ++ " " ++ text
      if cast then "cast error: " ++ message else message

/-- The texts of records with their paths. -/
def displayRecords : List Record → List String
  | [] => []
  | record :: rest => record.display :: displayRecords rest

end

/-- The details of a failed predicate. -/
def predicateDetails (name : String) (args : List Value) : Entries :=
  [(.text "predicate", .text name), (.text "args", .tuple args)]

/-- The record of a failed predicate. -/
def predicateRecord
    (backend : MessageBackend)
    (front path : Path)
    (name : String)
    (args : List Value)
    (input : Value) : Attempt Record := do
  let text ← backend.text (.text name) args input
  Record.make .type (front ++ path) text (predicateDetails name args) [] []

/-- The name that the options of a union give it, if there is one. -/
def unionName? (options : Options) : Option Value :=
  match options.lookup "name" with
  | some .null => none
  | found => found

/-- The one side of a union that failed a predicate after the check of its
kind, if there is exactly one. -/
def preciseSide? (left right : Failure) : Option Failure :=
  match left.isPastTypeCheck, right.isPastTypeCheck with
  | true, false => some left
  | false, true => some right
  | _, _ => none

/-- The record of a failure that is a predicate. -/
def leafRecord
    (backend : MessageBackend)
    (front : Path) : Failure → Attempt (List Record)
  | .predicate path name args input => do
      .ok [← predicateRecord backend front path name args input]
  | _ => .ok []

mutual

/-- The records of a failure in the order of the tree. -/
def records
    (backend : MessageBackend)
    (front : Path) : Failure → Attempt (List Record)
  | .several failures => recordsOfAll backend front failures
  | .predicate path name args input => do
      .ok [← predicateRecord backend front path name args input]
  | .missing path => do
      let text ← backend.text (.text "has_key?") path.getLast?.toList .null
      .ok [← Record.make .key (front ++ path) text (predicateDetails "has_key?" path) [] []]
  | .either path left right options =>
      match unionName? options with
      | none => do
          let left ← records backend front left
          let right ← records backend front right
          let text := joinSides (left.map Record.text) (right.map Record.text)
          .ok
            [← Record.make .union (front ++ path) text [(.text "union", .bool true)] left right]
      | some name =>
          match preciseSide? left right with
          | some side => leafRecord backend front side
          | none => do
              let text ← backend.text name [.null] .null
              .ok [← Record.make .type (front ++ path) text [(.text "union", name)] [] []]
  | .cast inner => (records backend front inner).map (List.map Record.markCast)
  | .rule path text => do .ok [← Record.make .rule (front ++ path) text [] [] []]

/-- The records of several failures. -/
def recordsOfAll
    (backend : MessageBackend)
    (front : Path) : List Failure → Attempt (List Record)
  | [] => .ok []
  | failure :: rest => do
      let first ← records backend front failure
      let others ← recordsOfAll backend front rest
      .ok (first ++ others)

end

/-- What a segment of a path is sorted by. -/
inductive SegmentKey
  | index (number : Int)
  | word (text : String)
  deriving DecidableEq, Repr

namespace SegmentKey

/-- The key of a segment: the number of a whole number or truth value, the text
of everything else. -/
def ofSegment (segment : Value) : SegmentKey :=
  match segment.whole? with
  | some number => .index number
  | none => .word segment.plain

/-- Numbers come before texts. -/
def compare : SegmentKey → SegmentKey → Ordering
  | .index a, .index b => Ord.compare a b
  | .index _, .word _ => .lt
  | .word _, .index _ => .gt
  | .word a, .word b => Ord.compare a b

/-- Paths are compared segment by segment, and a path comes before its
extensions. -/
def comparePaths : List SegmentKey → List SegmentKey → Ordering
  | [], [] => .eq
  | [], _ :: _ => .lt
  | _ :: _, [] => .gt
  | a :: as, b :: bs =>
      match compare a b with
      | .eq => comparePaths as bs
      | other => other

end SegmentKey

/-- What a record is sorted by. -/
def Record.sortKey (record : Record) : List SegmentKey :=
  record.path.map SegmentKey.ofSegment

/-- Records in the order of their paths; those with equal keys keep their
order. -/
def sortRecords (records : List Record) : List Record :=
  records.mergeSort fun a b =>
    SegmentKey.comparePaths a.sortKey b.sortKey != .gt

/-- Whether a segment of a path has something to be sorted by. -/
def Value.isSortable (segment : Value) : Bool :=
  segment.whole?.isSome || segment.hasPlain

/-- The records of a failure, sorted if asked for, with a path in front. Records cannot be
sorted if a segment of their paths has no text. -/
def render
    (backend : MessageBackend)
    (front : Path)
    (sort : Bool)
    (failure : Failure) : Attempt (List Record) := do
  let found ← records backend front failure
  if !sort then .ok found
  else if found.all (·.path.all Value.isSortable) then .ok (sortRecords found)
  else .error .badContent

end DataContract
