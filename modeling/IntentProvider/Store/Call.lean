import IntentProvider.Entity.Basic
import IntentProvider.Error.Failure
import IntentProvider.Program.Script

/-!
The calls that every store of entities understands. A write presents metadata that the writer has
read before, so that a store can refuse it when the spec has been written since.
-/

namespace IntentProvider

open IntentProvider.Json

/-- A call to a store. -/
inductive StoreCall where
  /-- Makes an entity of a kind with its first spec and the extension of its metadata. -/
  | create (kind : String) (spec extension : Document)
  | get (reference : Reference)
  /-- Replaces the spec. -/
  | updateSpec (metadata : Metadata) (spec : Document)
  /-- Merges the members of a document into the status. -/
  | updateStatus (metadata : Metadata) (status : Document)
  | delete (reference : Reference)

namespace StoreCall

/-- What a call brings when it succeeds. -/
@[reducible] def Result : StoreCall → Type
  | create .. => Entity
  | get .. => Entity
  | updateSpec .. => Unit
  | updateStatus .. => Unit
  | delete .. => Unit

/-- What a store answers to a call. -/
@[reducible] def Answer (call : StoreCall) : Type :=
  Except Failure call.Result

/-- The answer that a call fails. -/
def refuse (f : Failure) : (call : StoreCall) → call.Answer
  | create .. => .error f
  | get .. => .error f
  | updateSpec .. => .error f
  | updateStatus .. => .error f
  | delete .. => .error f

/-- The identity that a call is about, which an entity yet to be made does not have. -/
def target? : StoreCall → Option Reference
  | create .. => none
  | get reference => some reference
  | updateSpec metadata _ => some metadata.reference
  | updateStatus metadata _ => some metadata.reference
  | delete reference => some reference

end StoreCall

/-- A script of calls to a store. -/
abbrev StoreScript (α : Type) : Type :=
  Script StoreCall StoreCall.Answer α

end IntentProvider
