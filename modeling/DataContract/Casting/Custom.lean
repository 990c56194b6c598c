import DataContract.Casting.Default
import DataContract.Text.Blank
import DataContract.Text.Case

/-!
# Further casters

Ready-made casters that a cast can name in place of the default one.
-/

namespace DataContract

open Text

namespace Caster

/-- A caster of texts; values of other kinds do not have its operation. -/
def ofTextFunction (name : String) (function : String → String) : Caster where
  name
  run _ _ value _ :=
    match value with
    | .text content => .ok (.text (function content))
    | _ => .error .missingOperation

/-- The value itself. -/
def identity : Caster where
  name := "identity"
  run _ _ value _ := .ok value

/-- A text in capitals. -/
def capitals : Caster := ofTextFunction "upper" upper

/-- A text without white space at either end. -/
def strip : Caster := ofTextFunction "strip" trim

/-- A report of everything that the caster was given. -/
def trace : Caster where
  name := "trace"
  run source target value options :=
    .ok
      (.map
        [(.text "in", source), (.text "out", target), (.text "value", value),
          (.text "opts", .map options)])

/-- The absent value. -/
def absent : Caster where
  name := "null"
  run _ _ _ _ := .ok .null

/-- No answer at all. -/
def failing : Caster where
  name := "fail"
  run _ _ _ _ := .error .functionFailed

/-- An object that offers two ways to cast, of which the named one is used. -/
def both : Caster where
  name := "both"
  run _ _ _ _ := .ok (.text "cast")

/-- All further casters. -/
def further : List Caster := [identity, capitals, trace, absent, failing, strip, both]

/-- The further caster with a name. -/
def ofName? (name : String) : Option Caster :=
  further.find? (·.name == name)

end Caster
end DataContract
