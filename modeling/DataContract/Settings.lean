import DataContract.Schema.KeyStyle
import DataContract.Text.Blank
import DataContract.Value.Equality

/-!
# Settings

Library-wide choices: whether maps rename entries from their names on the
wire, which names these are, and whether reported errors are sorted. They are
given by fields or by environment variables.
-/

namespace DataContract

open Number Text

/-- Choices that hold where nothing else is said. -/
structure Settings where
  /-- Whether maps rename their keys. -/
  atomize : Bool
  /-- Whether keys are called on the wire as they are named. -/
  identityKeys : Bool
  /-- Whether reports are sorted by path. -/
  sortErrors : Bool
  deriving DecidableEq, Repr

namespace Settings

/-- The choices if nothing is given. -/
def standard : Settings := ⟨false, false, true⟩

/-- The name of the chosen key style in settings. -/
def keyStyleName (settings : Settings) : String :=
  if settings.identityKeys then "identity" else "camel"

/-- The chosen key style. -/
def keyStyle (settings : Settings) : KeyStyle :=
  if settings.identityKeys then .same else .camel

/-- Texts that mean no. -/
def offTexts : List String := ["0", "off", "f", "false", "n", "no"]

/-- Texts that mean yes. -/
def onTexts : List String := ["1", "on", "t", "true", "y", "yes"]

/-- The truth value that a text means; letter case is ignored. -/
def switchOf? (text : String) : Option Bool :=
  let name := lowerAscii text
  if onTexts.contains name then some true
  else if offTexts.contains name then some false
  else none

/-- The truth value that a field means: a truth value, one of the numbers 0 and
1, or a text or byte string for one. -/
def flagOf? : Value → Option Bool
  | .bool flag => some flag
  | .text content => switchOf? content
  | .bytes content => switchOf? (String.ofList (content.map fun byte => Char.ofNat byte.toNat))
  | .scalar number =>
      match number.number? with
      | some decimal =>
          if decimal.compare? (.ofInt 0) == some .eq then some false
          else if decimal.compare? (.ofInt 1) == some .eq then some true
          else none
      | none => none
  | _ => none

/-- The settings after taking over one field. -/
def withField?
    (settings : Settings)
    (name : String)
    (value : Value) : Option Settings :=
  if name == "atomize" then
    (flagOf? value).map fun flag => { settings with atomize := flag }
  else if name == "sort_errors" then
    (flagOf? value).map fun flag => { settings with sortErrors := flag }
  else if name == "key_style" then
    match value with
    | .text "camel" => some { settings with identityKeys := false }
    | .text "identity" => some { settings with identityKeys := true }
    | _ => none
  else none

/-- The settings that differ from the standard in some fields. -/
def ofFields (fields : List (String × Value)) : Attempt Settings :=
  fields.foldlM
    (fun settings field =>
      match settings.withField? field.1 field.2 with
      | some changed => .ok changed
      | none => .error .invalidField)
    standard

/-- The environment variable of each field. -/
def environmentNames : List (String × String) := [
  ("atomize", "CONFORM_KIT_ATOMIZE"),
  ("key_style", "CONFORM_KIT_KEY_STYLE"),
  ("sort_errors", "CONFORM_KIT_SORT_ERRORS")]

/-- The settings given by environment variables. Variables that are unset or
blank are left at the standard; letter case and white space around a value are
ignored. -/
def ofEnvironment (environment : List (String × String)) : Attempt Settings :=
  let fields := environmentNames.filterMap fun entry =>
    (environment.lookup entry.2).bind fun content =>
      let value := trim content
      if value.isEmpty then none else some (entry.1, Value.text (lowerAscii value))
  match ofFields fields with
  | .ok settings => .ok settings
  | .error _ => refuse .invalidSettings

end Settings
end DataContract
