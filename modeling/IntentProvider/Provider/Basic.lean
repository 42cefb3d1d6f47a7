import IntentProvider.Callback.Dispatch
import IntentProvider.Catalogue.Basic
import IntentProvider.Server.Basic
import IntentProvider.Text.Quoted

/-!
Providers: the settings, what has been said about the provider so far, the catalogue, the server of
callbacks, and the identity once an engine has accepted one. `Provider.descriptor` is what the
engine is told; it fails as long as something is missing.
-/

namespace IntentProvider

open IntentProvider.Http
open IntentProvider.Json
open IntentProvider.Text

/-- How the access to a provider is secured. -/
structure AccessPolicy where
  oauth2 : Value
  model : String
  rules : String

/-- A provider. -/
structure Provider where
  config : Config
  nameSpace : Option String := none
  version : Option String := none
  /-- The schema of the metadata extension of every entity. -/
  extensionSchema : Option Value := none
  policy : Option AccessPolicy := none
  /-- The store that a registration puts in place of the one that the engine serves. -/
  store : Option EntityStore := none
  catalogue : Catalogue
  server : Server Procedure
  /-- The identity of the first registration that the engine has accepted. -/
  identity : Option Identity := none

namespace Provider

/-- The address under which the settings make a provider known. -/
def addressOf (c : Config) : CallbackAddress :=
  ⟨c.publicHost, c.publicPort⟩

/-- The provider with some settings. It answers the health check and has an empty catalogue. -/
def fresh (c : Config) : Provider where
  config := c
  catalogue := { address := addressOf c }
  server := (Server.ofConfig c).registerHealthCheck

/-- The provider with some settings, if they have no fault. -/
def ofConfig (c : Config) : Except Failure Provider :=
  c.validate.map fun _ => fresh c

/-- The client with which the provider reaches the engine. -/
def client (p : Provider) : Client :=
  p.config.client

/-- Sets the name space. -/
def withNameSpace (p : Provider) (nameSpace : String) : Provider :=
  { p with nameSpace := some nameSpace }

/-- Sets the version. -/
def withVersion (p : Provider) (version : String) : Provider :=
  { p with version := some version }

/-- Sets the schema of the metadata extension of every entity. -/
def withExtensionSchema (p : Provider) (schema : Value) : Provider :=
  { p with extensionSchema := some schema }

/-- Secures the access. -/
def withPolicy (p : Provider) (policy : AccessPolicy) : Provider :=
  { p with policy := some policy }

/-- Sets the store for the registrations to come. -/
def withStore (p : Provider) (store : EntityStore) : Provider :=
  { p with store := some store }

/-- Whether entities must have a metadata extension. The empty schema and `null` ask for none. -/
def wantsExtension (p : Provider) : Bool :=
  match p.extensionSchema with
  | none => false
  | some .null => false
  | some (.object members) => !members.isEmpty
  | some _ => true

/-- A part of the description that must be there. -/
def require {α : Type} (field : String) (part : Option α) : Except Failure α :=
  match part with
  | some a => .ok a
  | none => .error (.malformedDescriptor field)

/-- The description of the provider for the engine. The name space is asked for first, then the
version, then a kind. -/
def descriptor (p : Provider) : Except Failure Descriptor := do
  let nameSpace ← require "prefix" p.nameSpace
  let version ← require "version" p.version
  let _ ← require "kind" p.catalogue.kinds.head?
  return {
    nameSpace, version
    kinds := p.catalogue.kinds
    procedures := p.catalogue.procedures
    extensionSchema := p.extensionSchema.getD (.object [])
    allowExtraProps := p.config.allowExtraProps
    policy := p.policy.map (·.rules)
    oauth2 := p.policy.map (·.oauth2)
    authModel := p.policy.map (·.model) }

/-- Carries out what a request has led to. -/
def carryOut (p : Provider) (draw : Trace.Draw) (headers : Headers) (body : ByteArray) :
    Resolution Procedure → Activity Response
  | .answer r => .done r
  | .handler procedure => procedure.answer p.identity p.client draw headers body

/-- Answers a request by the routes as they stand. -/
def handle (p : Provider) (draw : Trace.Draw) (method target : String) (headers : Headers)
    (body : ByteArray) : Activity Response :=
  p.carryOut draw headers body (p.server.resolve method target body.size)

/-- A description of a provider. -/
def describe (p : Provider) : String :=
  record "ProviderBuilder"
    [("prefix", optional (p.nameSpace.map quoted)), ("version", optional (p.version.map quoted)),
      ("kinds", p.catalogue.kinds.length.repr),
      ("procedures", p.catalogue.procedures.size.repr)]

/-- A description of a kind to which procedures are being attached. -/
def describeKind (name : String) : String :=
  record "KindBuilder" [("kind", quoted name)]

end Provider

end IntentProvider
