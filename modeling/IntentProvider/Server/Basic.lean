import IntentProvider.Config.Basic
import IntentProvider.Program.Effect
import IntentProvider.Server.Table

/-!
The server of callbacks. Routes are registered at any time, but a listener serves the table that
stood when it started. Starting twice keeps the first listener, and closing keeps the table.
-/

namespace IntentProvider

open IntentProvider.Http

/-- A listener with the table that it serves. -/
structure Listener (H : Type) where
  address : String
  table : RouteTable H

/-- A server of callbacks. -/
structure Server (H : Type) where
  bindAddress : String
  /-- The longest body that is passed on, in bytes. -/
  bodyLimit : UInt64
  table : RouteTable H := {}
  /-- Whether anything has been registered that asks for a listener. -/
  shouldRun : Bool := false
  running : Option (Listener H) := none

namespace Server

variable {H : Type}

/-- The server with the settings of a provider. -/
def ofConfig (c : Config) : Server H where
  bindAddress := c.bindAddress
  bodyLimit := c.bodyLimit

/-- Registers a handler for a path, in place of the one that the path had. -/
def register (s : Server H) (path : String) (h : H) : Server H :=
  { s with table := { s.table with routes := s.table.routes.insert path h }, shouldRun := true }

/-- Registers the health check. -/
def registerHealthCheck (s : Server H) : Server H :=
  { s with table := { s.table with healthCheck := true }, shouldRun := true }

/-- Whether there is a listener. -/
def isRunning (s : Server H) : Bool :=
  s.running.isSome

/-- Whether a path has a handler. -/
def hasRoute (s : Server H) (path : String) : Bool :=
  s.table.routes.contains path

/-- Starts a listener and gives its address, or the address of the one that runs already. Nothing is
started as long as nothing has been registered. -/
def start (s : Server H) : Activity (Except Failure (Option String) × Server H) :=
  match s.running with
  | some l => .done (.ok (some l.address), s)
  | none =>
    if s.shouldRun then
      .ask (.listen s.bindAddress) fun
        | .error reason => .done (.error (.bind s.bindAddress reason), s)
        | .ok address =>
          .done (.ok (some address), { s with running := some ⟨address, s.table⟩ })
    else .done (.ok none, s)

/-- Stops the listener, if there is one. Handlers that still run are given some time to end, of which
nothing is said here. -/
def close (s : Server H) : Server H :=
  { s with running := none }

/-- What a request leads to by the table as it stands. -/
def resolve (s : Server H) (method target : String) (size : Nat) : Resolution H :=
  s.table.resolve s.bodyLimit.toNat method target size

/-- What a request to the listener leads to, if there is one. -/
def resolveRunning? (s : Server H) (method target : String) (size : Nat) :
    Option (Resolution H) :=
  s.running.map fun l => l.table.resolve s.bodyLimit.toNat method target size

end Server

end IntentProvider
