import IntentProvider.Entity.Basic

/-!
The body of a callback: the metadata, spec and status of the entity that it is about, and the input
of the procedure.
-/

namespace IntentProvider

open IntentProvider.Json

/-- The body of a callback. -/
structure Envelope where
  metadata : Option Metadata := none
  spec : Option Value := none
  status : Option Value := none
  input : Value := .null

instance : Wire Envelope where
  read? depth t := do
    let fs ← Fields.read? ["metadata", "spec", "status", "input"] depth t
    let metadata ← fs.orDefault depth "metadata" none
    let spec ← fs.orDefault depth "spec" none
    let status ← fs.orDefault depth "status" none
    let input ← fs.orDefault depth "input" Value.null
    some { metadata, spec, status, input }
  write e := .object
    [("metadata", Wire.write e.metadata), ("spec", Wire.write e.spec),
      ("status", Wire.write e.status), ("input", e.input)]

/-- What is said about a document that is not of the wanted form. -/
def Envelope.unreadable : String := "the document has another form"

/-- The document of a half of an entity, which is empty if the half is missing or no object. -/
def documentOf (half : Option Value) : Document :=
  (half.bind Value.document?).getD {}

/-- The entity that a callback is about. -/
def Envelope.entity (e : Envelope) : Entity where
  metadata := e.metadata.getD {}
  spec := documentOf e.spec
  status := documentOf e.status

end IntentProvider
