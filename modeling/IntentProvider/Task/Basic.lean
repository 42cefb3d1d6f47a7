import IntentProvider.Store.Call
import IntentProvider.Task.Mode
import IntentProvider.Text.Quoted

/-!
Background tasks. A task is an entity of a kind of its own, and the handle of a task keeps nothing
but the identity of that entity. Every transition reads the entity first, so that its writes present
the current version; it ends at the first call to the store that fails.
-/

namespace IntentProvider

open IntentProvider.Json
open IntentProvider.Text

/-- The handle of a background task. -/
structure Task where
  name : String
  /-- The extension of the metadata of the task's entity. -/
  extension : Document := {}
  /-- The identity of the task's entity, once there is one. -/
  reference : Option Reference := none

namespace Task

/-- Whether the task has an entity. -/
def isStarted (t : Task) : Bool :=
  t.reference.isSome

/-- What an operation on a task answers, and the handle after it. -/
abbrev Outcome (α : Type) : Type :=
  Except Failure α × Task

/-- Begins an operation that needs the entity of the task, by reading it. -/
def withEntity {α : Type} (t : Task) (operation : String)
    (next : Entity → StoreScript (Outcome α)) : StoreScript (Outcome α) :=
  match t.reference with
  | none => .done (.error (.noTask operation t.name), t)
  | some r =>
    .ask (.get r) fun
      | .error f => .done (.error f, t)
      | .ok e => next e

/-- Ends an operation by a merge into the status of the entity. -/
def publish (t : Task) (e : Entity) (status : Document) : StoreScript (Outcome Unit) :=
  .ask (.updateStatus e.metadata status) fun answer => .done (answer, t)

/-- Writes a mode into the spec and then into the status of the entity. -/
def enter (t : Task) (e : Entity) (mode : Mode) : StoreScript (Outcome Unit) :=
  .ask (.updateSpec e.metadata (stateDocument mode.specState)) fun
    | .error f => .done (.error f, t)
    | .ok () => t.publish e (stateDocument mode.statusState)

/-- The entity of the task as it is now. -/
def entity (t : Task) : StoreScript (Outcome Entity) :=
  t.withEntity "read" fun e => .done (.ok e, t)

/-- Makes the entity of the task if there is none yet, and lets the task run. -/
def start (t : Task) : StoreScript (Outcome Unit) :=
  match t.reference with
  | some _ => t.withEntity "start" fun e => t.enter e .running
  | none =>
    .ask (.create t.name (stateDocument Mode.running.specState) t.extension) fun
      | .error f => .done (.error f, t)
      | .ok e =>
        publish { t with reference := some e.reference } e
          (stateDocument Mode.running.statusState)

/-- Lets the task rest. The entity stays. -/
def stop (t : Task) : StoreScript (Outcome Unit) :=
  t.withEntity "stop" fun e => t.enter e .idle

/-- Deletes the entity of the task and forgets it. -/
def kill (t : Task) : StoreScript (Outcome Unit) :=
  t.withEntity "kill" fun e =>
    .ask (.delete e.reference) fun
      | .error f => .done (.error f, t)
      | .ok () => .done (.ok (), { t with reference := none })

/-- Publishes a payload in the status of the entity. -/
def update (t : Task) (payload : Value) : StoreScript (Outcome Unit) :=
  t.withEntity "update" fun e => t.publish e (.singleton payloadField payload)

/-- A description of an identity. -/
def describeReference (r : Reference) : String :=
  record "EntityReference" [("uuid", quoted r.uuid), ("kind", quoted r.kind)]

/-- A description of a task over a store with some name. -/
def describe (t : Task) (store : String) : String :=
  record "BackgroundTask"
    [("name", quoted t.name), ("store", quoted store),
      ("task_entity", optional (t.reference.map describeReference))]

end Task

end IntentProvider
