import IntentProvider.Engine.Client

/-!
Stores of entities: the one that an engine serves, and those that are held in this process.
-/

namespace IntentProvider

/-- A store with its name and the way in which it performs each call. -/
structure EntityStore where
  name : String
  perform : (call : StoreCall) → Activity call.Answer

namespace EntityStore

/-- The store that an engine serves for a provider. -/
def engine (c : Client) (nameSpace version : String) : EntityStore where
  name := "engine"
  perform
    | .create kind spec extension => c.create nameSpace version kind spec extension
    | .get r => c.get nameSpace version r
    | .updateSpec metadata spec => c.updateSpec nameSpace version metadata spec
    | .updateStatus metadata status => c.updateStatus nameSpace version metadata status
    | .delete r => c.delete nameSpace version r

/-- A store that is held in this process. -/
def held (name : String) : EntityStore where
  name := name
  perform call := .question (Effect.store name call)

/-- The store that fails every call in the same way. -/
def failing (name : String) (f : Failure) : EntityStore where
  name := name
  perform call := .done (call.refuse f)

/-- Performs a script of calls on a store. -/
def performScript {α : Type} (s : EntityStore) (script : StoreScript α) : Activity α :=
  script.interpret s.perform

end EntityStore

end IntentProvider
