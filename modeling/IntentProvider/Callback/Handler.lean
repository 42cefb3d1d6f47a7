import IntentProvider.Callback.Context
import IntentProvider.Callback.Envelope
import IntentProvider.Task.Mode

/-!
Handlers of procedures. A handler is given the callback and the input, and possibly the entity that
the callback is about; it succeeds with a value, fails, or panics.
-/

namespace IntentProvider

open IntentProvider.Json

/-- How a handler ends. -/
inductive Outcome (α : Type) where
  | value (a : α)
  | failed (f : Failure)
  /-- A panic, with its message if it has one. -/
  | panicked (message : Option String)

namespace Outcome

variable {α β : Type}

/-- The same end with another value. -/
def map (f : α → β) : Outcome α → Outcome β
  | value a => value (f a)
  | failed f => failed f
  | panicked message => panicked message

/-- The end that a result is. -/
def ofExcept : Except Failure α → Outcome α
  | .ok a => value a
  | .error f => failed f

end Outcome

/-- Work on the entity that a callback is about, and on an input. -/
abbrev EntityWork : Type :=
  Callback → Entity → Value → Activity (Outcome Value)

/-- Work on an input alone. -/
abbrev InputWork : Type :=
  Callback → Value → Activity (Outcome Value)

/-- The work behind a procedure. -/
inductive Handler where
  /-- Procedures of entities, and hooks. -/
  | withEntity (run : EntityWork)
  /-- Procedures of kinds and of the provider. -/
  | inputOnly (run : InputWork)

namespace Handler

/-- Runs a handler on the body of a callback. -/
def call (h : Handler) (c : Callback) (e : Envelope) : Activity (Outcome Value) :=
  match h with
  | withEntity run => run c e.entity e.input
  | inputOnly run => run c e.input

/-- A description of a handler. -/
def describe : Handler → String
  | withEntity _ => "ProcedureHandler::WithEntity"
  | inputOnly _ => "ProcedureHandler::InputOnly"

end Handler

/-- The work of making the first spec and status of an entity. -/
def InputWork.constructing (run : Callback → Value → Activity (Outcome Construction)) :
    InputWork :=
  fun c input => (run c input).bind fun outcome => .done (outcome.map Wire.write)

/-- The failure of a destructor whose input is not an entity. -/
def notAnEntity : Failure :=
  .invocation (.badRequest ("Destructor input is not an entity: " ++ Envelope.unreadable))

/-- The work that is done before an entity, which is the input, is deleted. -/
def InputWork.destructing (run : Callback → Entity → Activity (Outcome Value)) : InputWork :=
  fun c input =>
    match Wire.ofValue? Entity input with
    | some e => run c e
    | none => .done (.failed notAnEntity)

namespace Task

/-- The payload that the status of a task's entity holds. -/
def payload (e : Entity) : Value :=
  (e.status.get? payloadField).getD .null

/-- The answer of a hook that asks to be called again. -/
def pollAgain (seconds : Nat) : Value :=
  .object [("delay_secs", .ofUInt64 (UInt64.ofNat seconds))]

end Task

/-- The work of the hook of a task: it is done on the payload of the task, and the engine is asked
to call again after an interval, given in milliseconds. -/
def EntityWork.observing (interval : Nat) (run : Callback → Value → Activity (Outcome Unit)) :
    EntityWork :=
  fun c e _ =>
    (run c (Task.payload e)).bind fun outcome =>
      .done (outcome.map fun _ => Task.pollAgain (interval / 1000))

end IntentProvider
