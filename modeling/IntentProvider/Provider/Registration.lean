import IntentProvider.Provider.Basic
import IntentProvider.Task.Basic

/-!
The registration of a provider: its description is posted to the engine, and once the engine has
accepted it the identity is fixed and callbacks are listened for. Later registrations leave the
identity as it is. Background tasks use the store of that identity, and fail as long as there is
none.
-/

namespace IntentProvider

namespace Provider

/-- The identity that a description gives to the provider. -/
def identityOf (p : Provider) (d : Descriptor) : Identity :=
  ⟨d.nameSpace, d.version, p.store⟩

/-- The provider after the engine has accepted a description. -/
def accepted (p : Provider) (d : Descriptor) : Provider :=
  { p with identity := some (p.identity.getD (p.identityOf d)) }

/-- Starts to listen for callbacks. -/
def listen (p : Provider) : Activity (Except Failure (Option String) × Provider) :=
  p.server.start.bind fun (address, server) => .done (address, { p with server })

/-- Registers the provider with the engine and listens for callbacks. -/
def register (p : Provider) : Activity (Except Failure Descriptor × Provider) :=
  match p.descriptor with
  | .error f => .done (.error f, p)
  | .ok d =>
    (p.client.register d).bind fun
      | .error f => .done (.error f, p)
      | .ok () => (p.accepted d).listen.bind fun (address, p) => .done (address.map fun _ => d, p)

/-- Stops listening for callbacks. -/
def close (p : Provider) : Provider :=
  { p with server := p.server.close }

/-- The store that background tasks use. -/
def taskStore (p : Provider) : EntityStore :=
  Identity.registeredStore p.identity p.client

/-- Performs an operation on a background task. -/
def performTask {α : Type} (p : Provider) (operation : StoreScript (Task.Outcome α)) :
    Activity (Task.Outcome α) :=
  p.taskStore.performScript operation

end Provider

end IntentProvider
