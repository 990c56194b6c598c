import DataContract.Fault
import DataContract.Text.Encoded

/-!
# Names

Where a field wants a text as its name, it also takes the bytes of one and a
member of an enumeration, which stands for the plain text of its content.
-/

namespace DataContract
namespace Value

/-- The text of a value that is given for a name. -/
def asName : Value → Attempt String
  | .text name => .ok name
  | .bytes content =>
      match Text.decode? content with
      | some chars => .ok (String.ofList chars)
      | none => .error .invalidField
  | .member _ _ content => .ok content.plain
  | _ => .error .invalidField

end Value
end DataContract
