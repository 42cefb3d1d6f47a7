import IntentProvider.Store.Call

/-!
A store of entities in memory. The version of a new entity is 1, every write of a spec must present
the current version and adds 1 to it, and status documents are merged without regard to versions.
The identity of an entity is its UUID together with its kind.
-/

namespace IntentProvider

open IntentProvider.Json
open IntentProvider.Time

/-- What is drawn for an entity when it is made: its UUID and the time. -/
structure Stamp where
  uuid : String
  createdAt : Instant

/-- Entities under their UUIDs, oldest first. -/
structure MemoryStore where
  entities : OrderedMap Entity := {}

namespace MemoryStore

/-- The number of entities. -/
def size (m : MemoryStore) : Nat :=
  m.entities.size

/-- The entity with an identity. -/
def find? (m : MemoryStore) (r : Reference) : Option Entity :=
  (m.entities.get? r.uuid).filter fun e => e.metadata.kind == r.kind

/-- The entities of a kind, oldest first. -/
def list (m : MemoryStore) (kind : String) : List Entity :=
  m.entities.values.filter fun e => e.metadata.kind == kind

/-- An identity as it is named in failures. -/
def nameOf (r : Reference) : String :=
  r.kind ++ "/" ++ r.uuid

/-- What is said when a write presents another version than the current one. -/
def staleText (presented current : UInt64) : String :=
  "expected spec_version " ++ presented.toNat.repr ++ ", found " ++ current.toNat.repr

/-- The entity with an identity, or the failure that there is none. -/
def lookup (m : MemoryStore) (r : Reference) : Except Failure Entity :=
  match m.find? r with
  | some e => .ok e
  | none => .error (.notFound (nameOf r))

/-- A store in which an entity stands under its UUID. -/
def put (m : MemoryStore) (e : Entity) : MemoryStore :=
  ⟨m.entities.insert e.metadata.uuid e⟩

/-- A new entity. -/
def newEntity (stamp : Stamp) (kind : String) (spec extension : Document) : Entity where
  metadata :=
    { uuid := stamp.uuid, kind, specVersion := 1, createdAt := stamp.createdAt, extension }
  spec := spec

/-- An entity after a write of its spec. -/
def withSpec (e : Entity) (spec : Document) : Entity :=
  { e with spec, metadata := { e.metadata with specVersion := e.metadata.specVersion + 1 } }

/-- An entity after a merge into its status. -/
def withStatus (e : Entity) (status : Document) : Entity :=
  { e with status := e.status.merge status }

/-- Answers a call. The stamp is used only when an entity is made. -/
def answer (stamp : Stamp) (m : MemoryStore) : (call : StoreCall) → call.Answer × MemoryStore
  | .create kind spec extension =>
    let e := newEntity stamp kind spec extension
    (.ok e, m.put e)
  | .get r => (m.lookup r, m)
  | .updateSpec metadata spec =>
    match m.lookup metadata.reference with
    | .error f => (.error f, m)
    | .ok e =>
      if e.metadata.specVersion ≠ metadata.specVersion then
        (.error (.versionConflict metadata.uuid
          (staleText metadata.specVersion e.metadata.specVersion)), m)
      else (.ok (), ⟨m.entities.insert metadata.uuid (withSpec e spec)⟩)
  | .updateStatus metadata status =>
    match m.lookup metadata.reference with
    | .error f => (.error f, m)
    | .ok e => (.ok (), ⟨m.entities.insert metadata.uuid (withStatus e status)⟩)
  | .delete r =>
    match m.lookup r with
    | .error f => (.error f, m)
    | .ok _ => (.ok (), ⟨m.entities.erase r.uuid⟩)

end MemoryStore

end IntentProvider
