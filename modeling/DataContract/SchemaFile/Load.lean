import DataContract.SchemaFile.Unfolding

/-!
# Loading schema files

A schema file is an encoded text that holds one document, a mapping of keys. A
document that counts as false stands for the mapping without keys. Any reader of
documents will do.
-/

namespace DataContract
namespace SchemaFile

open Document

/-- The document in a file with a content; the absent value if there is none. -/
def readContent
    (reader : Reader)
    (location : String)
    (content : List UInt8) : Attempt Value :=
  match reader content with
  | .ok document => .ok (document.elim .null unfold)
  | .error (.content fault) => .error fault
  | .error _ => refuse (.schemaFileUnreadable location)

/-- The specification in a document. It must not be part of itself. -/
def ofDocument
    (location : String)
    (document : Value) : Attempt Spec :=
  if !document.truthy then .ok (.map [])
  else
    match document with
    | .map _ => do
        let spec ← parseDocument location document
        if hasSign spec.toValue then .error .endlessDefinition else .ok spec
    | _ => refuse (.schemaFileNotMapped location)

/-- Load a schema file from its content, which is absent if the file does not
exist. -/
def load
    (reader : Reader)
    (location : String)
    (content : Option (List UInt8)) : Attempt Spec :=
  match content with
  | none => refuse (.schemaFileMissing location)
  | some content => do ofDocument location (← readContent reader location content)

end SchemaFile
end DataContract
