import IntentProvider.Engine.Client
import IntentProvider.Error.Failure
import IntentProvider.Json.Wire

/-!
The settings of a provider: where the engine is, and how the provider is reached by it.
-/

namespace IntentProvider

open IntentProvider.Json

/-- The settings of a provider. -/
structure Config where
  engineUrl : String := "http://127.0.0.1:3000"
  /-- The credential that is shown to the engine. -/
  key : String := ""
  publicHost : String := "127.0.0.1"
  publicPort : UInt16 := 9000
  /-- The host at which to listen, if it is not the public one. -/
  bindHost : Option String := none
  requestTimeout : UInt64 := 10
  shutdownTimeout : UInt64 := 5
  bodyLimit : UInt64 := 16777216
  allowExtraProps : Bool := false
  deriving DecidableEq, Repr

namespace Config

/-- Whether a URL has the form of one of HTTP. -/
def isHttpUrl (url : String) : Bool :=
  "http://".toList.isPrefixOf url.toList || "https://".toList.isPrefixOf url.toList

/-- What is wrong with some settings. -/
def fault? (c : Config) : Option ConfigFault :=
  if !isHttpUrl c.engineUrl then some (.engineUrl c.engineUrl)
  else if c.publicHost.isEmpty then some .emptyPublicHost
  else none

/-- Refuses settings with a fault. -/
def validate (c : Config) : Except Failure Unit :=
  match c.fault? with
  | some f => .error (.config f)
  | none => .ok ()

/-- A host with the port of the settings. -/
def withPort (c : Config) (host : String) : String :=
  host ++ ":" ++ c.publicPort.toNat.repr

/-- The address at which to listen. -/
def bindAddress (c : Config) : String :=
  c.withPort (c.bindHost.getD c.publicHost)

/-- The URL at which the engine reaches the provider. -/
def callbackBaseUrl (c : Config) : String :=
  "http://" ++ c.withPort c.publicHost

/-- The URL of the engine without the slashes at its end. -/
def engineBaseUrl (c : Config) : String :=
  Client.trimSlashes c.engineUrl

/-- The client of the engine with the credential of the settings. -/
def client (c : Config) : Client :=
  .ofUrl c.engineBaseUrl c.key

/-- The document of some settings. -/
def document (c : Config) : Value :=
  .object
    [("engine_url", .string c.engineUrl), ("s2s_key", .string c.key),
      ("public_host", .string c.publicHost), ("public_port", .ofUInt64 c.publicPort.toUInt64),
      ("bind_host", Wire.write c.bindHost), ("request_timeout_secs", .ofUInt64 c.requestTimeout),
      ("shutdown_timeout_secs", .ofUInt64 c.shutdownTimeout),
      ("body_limit_bytes", .ofUInt64 c.bodyLimit), ("allow_extra_props", .bool c.allowExtraProps)]

end Config

end IntentProvider
