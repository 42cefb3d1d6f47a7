import IntentProvider.Store.Entity

/-!
The identity of a provider that an engine has accepted: its name space, its version, and the store
of its entities.
-/

namespace IntentProvider

/-- The identity of a registered provider. -/
structure Identity where
  nameSpace : String
  version : String
  /-- The store of the entities, if it is not the one that the engine serves. -/
  store : Option EntityStore := none

namespace Identity

/-- The store of a provider's entities, reached through a client if the engine serves it. -/
def entityStore (i : Identity) (c : Client) : EntityStore :=
  i.store.getD (.engine c i.nameSpace i.version)

/-- The store of a provider that may not be registered yet, in which case every call fails. -/
def registeredStore (i : Option Identity) (c : Client) : EntityStore :=
  match i with
  | some i => { i.entityStore c with name := "registered" }
  | none => .failing "registered" .notRegistered

end Identity

end IntentProvider
