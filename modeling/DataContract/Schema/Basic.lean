import DataContract.Failure
import DataContract.Predicate.Basic
import DataContract.Schema.KeyStyle
import DataContract.Value.Tag

/-!
# Schemas

A schema describes the values that a contract accepts. Primitives, lists and
maps carry a chain of predicates, the first of which tells whether the value
is of the right kind; unions offer two alternatives; casts accept one schema
and answer with a value of another. A custom schema comes from elsewhere: it
validates values in its own way, and may take further predicates in its own way.
-/

namespace DataContract

/-- A function that turns a value of one tag into a value of another. -/
structure Caster where
  /-- The name by which the function is shown. -/
  name : String
  /-- The function, which is given both tags, the value and the options of the cast. -/
  run : (source target value : Value) → Entries → Attempt Value

/-- What is seen of a custom schema. -/
structure CustomView where
  /-- The tag. -/
  tag : String
  /-- The predicates that it shows as its constraints. -/
  chain : List Predicate
  /-- Its own validation. -/
  validate : Value → Attempt Outcome
  /-- Whether it counts as a primitive. -/
  isPrimitive : Bool
  /-- Its own way to take further predicates, if it has one: whether it takes
  them or stops with a fault. -/
  take? : Option (List Predicate → Attempt Unit)
  /-- A mark that tells it apart from others with the same tag. -/
  mark : Nat

/-- A custom schema. Of what it is nothing is known but what is seen of it, now
and after it has taken further predicates. -/
structure CustomType where
  /-- What is seen after it has taken each of some lists of predicates in turn. -/
  view : List (List Predicate) → CustomView

namespace CustomType

/-- What is seen of a custom schema now. -/
def now (type : CustomType) : CustomView :=
  type.view []

/-- What a custom schema is after it has taken further predicates. -/
def after
    (type : CustomType)
    (extra : List Predicate) : CustomType where
  view later := type.view (extra :: later)

/-- A custom schema in a state of its own, which changes with every list of
predicates that it takes. -/
def ofState {State : Type}
    (view : State → CustomView)
    (next : State → List Predicate → State)
    (state : State) : CustomType where
  view history := view (history.foldl next state)

end CustomType

/-- Whether a map must have an entry for a key. -/
inductive Presence
  | required
  | optional
  deriving DecidableEq, Repr

/-- The name of a presence. -/
def Presence.name : Presence → String
  | .required => "required"
  | .optional => "optional"

/-- The presence with a name. -/
def Presence.ofName? (name : String) : Option Presence :=
  [Presence.required, .optional].find? (·.name == name)

mutual

/-- A schema. -/
inductive Schema
  | primitive
      (tag : Tag)
      (chain : List Predicate)
  | list
      (chain : List Predicate)
      (member : Schema)
  | map
      (chain : List Predicate)
      (keys : List Key)
      (atomize : Bool)
      (style : KeyStyle)
  | union
      (left right : Schema)
      (options : Options)
  | cast
      (input output : Schema)
      (caster : Caster)
      (options : Options)
  | custom
      (type : CustomType)

/-- A key of a map: the names of the keys around it, its own name, and the
schema of its value. A key is inline if its value was given as a map in
place. -/
inductive Key
  | mk
      (around : Path)
      (name : Value)
      (presence : Presence)
      (type : Schema)
      (inline : Bool)

end

namespace Key

/-- The name of a key. -/
def name : Key → Value
  | .mk _ name _ _ _ => name

/-- The names of the keys around a key and its own. -/
def path : Key → Path
  | .mk around name _ _ _ => around ++ [name]

/-- Whether an entry is required. -/
def presence : Key → Presence
  | .mk _ _ presence _ _ => presence

/-- The schema of a key's value. -/
def type : Key → Schema
  | .mk _ _ _ type _ => type

/-- Whether the value was given as a map in place. -/
def inline : Key → Bool
  | .mk _ _ _ _ inline => inline

end Key

namespace Schema

/-- The keys of a map. -/
def keys : Schema → List Key
  | .map _ keys _ _ => keys
  | _ => []

/-- Whether a schema counts as a primitive. -/
def isPrimitive : Schema → Bool
  | .primitive .. => true
  | .custom type => type.now.isPrimitive
  | _ => false

/-- The tag of a schema: of a union its name, of a cast that of its output. -/
def tag : Schema → Value
  | .primitive tag _ => .text tag.name
  | .list _ _ => .text Tag.list.name
  | .map .. => .text Tag.map.name
  | .union _ _ options => (options.lookup "name").getD (.text "union")
  | .cast _ output _ _ => output.tag
  | .custom type => .text type.now.tag

end Schema

/-- The keys of a key's value, if it was given as a map in place. -/
def Key.children (key : Key) : List Key :=
  if key.inline then key.type.keys else []

/-- Options as the entries of a map. -/
def Options.entries (options : Options) : Entries :=
  options.map fun option => (.text option.1, option.2)

end DataContract
