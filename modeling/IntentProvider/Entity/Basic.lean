import IntentProvider.Json.Wire

/-!
Entities: the resources that an engine keeps. An entity has metadata, a spec that says what is
wanted, and a status that says what is observed.
-/

namespace IntentProvider

open IntentProvider.Json
open IntentProvider.Time

/-- The identity of an entity. -/
structure Reference where
  uuid : String
  kind : String
  deriving DecidableEq, Repr

/-- What a store maintains about an entity. `specVersion` counts the writes of the spec. -/
structure Metadata where
  uuid : String := ""
  kind : String := ""
  specVersion : UInt64 := 0
  createdAt : Option Instant := none
  deletedAt : Option Instant := none
  extension : Document := {}

/-- The identity in some metadata. -/
def Metadata.reference (m : Metadata) : Reference :=
  ⟨m.uuid, m.kind⟩

/-- An entity with its three parts. -/
structure Entity where
  metadata : Metadata := {}
  spec : Document := {}
  status : Document := {}

/-- The identity of an entity. -/
def Entity.reference (e : Entity) : Reference :=
  e.metadata.reference

instance : Wire Reference where
  read? depth t := do
    let fs ← Fields.read? ["uuid", "kind"] depth t
    let uuid ← fs.required depth "uuid"
    let kind ← fs.required depth "kind"
    some { uuid, kind }
  write r := .object [("uuid", .string r.uuid), ("kind", .string r.kind)]

instance : Wire Metadata where
  read? depth t := do
    let fs ← Fields.read?
      ["uuid", "kind", "spec_version", "created_at", "deleted_at", "extension"] depth t
    let uuid ← fs.orDefault depth "uuid" ""
    let kind ← fs.orDefault depth "kind" ""
    let specVersion ← fs.orDefault depth "spec_version" 0
    let createdAt ← fs.orDefault depth "created_at" none
    let deletedAt ← fs.orDefault depth "deleted_at" none
    let extension ← fs.orDefault depth "extension" (LaxDocument.mk {})
    some { uuid, kind, specVersion, createdAt, deletedAt, extension := extension.document }
  write m := .object (
    [("uuid", .string m.uuid), ("kind", .string m.kind),
      ("spec_version", .ofUInt64 m.specVersion)] ++
    optionalMember "created_at" m.createdAt ++ optionalMember "deleted_at" m.deletedAt ++
    [("extension", .ofDocument m.extension)])

instance : Wire Entity where
  read? depth t := do
    let fs ← Fields.read? ["metadata", "spec", "status"] depth t
    let metadata ← fs.orDefault depth "metadata" {}
    let spec ← fs.orDefault depth "spec" (LaxDocument.mk {})
    let status ← fs.orDefault depth "status" (LaxDocument.mk {})
    some { metadata, spec := spec.document, status := status.document }
  write e := .object
    [("metadata", Wire.write e.metadata), ("spec", .ofDocument e.spec),
      ("status", .ofDocument e.status)]

/-- What the constructor of an entity answers: its first spec and status, and possibly
metadata. -/
structure Construction where
  spec : Document := {}
  status : Document := {}
  metadata : Option Value := none

instance : Wire Construction where
  read? depth t := do
    let fs ← Fields.read? ["spec", "status", "metadata"] depth t
    let spec ← fs.required depth "spec"
    let status ← fs.required depth "status"
    let metadata ← fs.orDefault depth "metadata" none
    some { spec, status, metadata }
  write c := .object (
    [("spec", .ofDocument c.spec), ("status", .ofDocument c.status)] ++
    optionalMember "metadata" c.metadata)

end IntentProvider
