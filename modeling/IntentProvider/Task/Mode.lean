import IntentProvider.Entity.Basic

/-!
The two modes of a background task. The spec of a task's entity says which mode is wanted and its
status which one is observed; the entity is in a mode when the two agree.
-/

namespace IntentProvider

open IntentProvider.Json

namespace Task

/-- The member of spec and status that holds the mode. -/
def stateField : String := "state"

/-- The member of the status that holds what the task publishes. -/
def payloadField : String := "provider_fields"

/-- The mode of a task. -/
inductive Mode where
  | running
  | idle
  deriving DecidableEq, Repr

namespace Mode

/-- How the spec names a mode. -/
def specState : Mode → String
  | running => "Should Run"
  | idle => "Idle"

/-- How the status names a mode. -/
def statusState : Mode → String
  | running => "Running"
  | idle => "Idle"

/-- The mode that the states in a spec and a status agree on. -/
def ofStates? (spec status : String) : Option Mode :=
  [running, idle].find? fun m => spec == m.specState && status == m.statusState

theorem ofStates?_specState (m : Mode) : ofStates? m.specState m.statusState = some m := by
  cases m <;> decide

end Mode

/-- The document that states a mode. -/
def stateDocument (state : String) : Document :=
  .singleton stateField (.string state)

/-- The state that a document names. -/
def state? (d : Document) : Option String :=
  (d.get? stateField).bind Value.string?

end Task

/-- The mode of a task's entity, if its spec and its status agree on one. -/
def Entity.mode? (e : Entity) : Option Task.Mode := do
  let spec ← Task.state? e.spec
  let status ← Task.state? e.status
  Task.Mode.ofStates? spec status

end IntentProvider
