import IntentProvider.Provider.Identity
import IntentProvider.Security.Gateway
import IntentProvider.Text.Quoted

/-!
What a procedure knows about the callback that it answers, and what it can do on the way: reach the
store of the entities, ask for permissions, and manage credentials. Whatever it sends carries the
trace of the callback.
-/

namespace IntentProvider

open IntentProvider.Http
open IntentProvider.Json
open IntentProvider.Text

/-- The surroundings of a callback. -/
structure Callback where
  identity : Identity
  client : Client
  headers : Headers
  trace : Trace.Context
  operation : String

namespace Callback

/-- The part of a header that follows one of the words that announce a bearer token. -/
def afterBearer? (value : String) : Option (List Char) :=
  let cs := value.toList
  if "Bearer ".toList.isPrefixOf cs || "bearer ".toList.isPrefixOf cs then some (cs.drop 7)
  else none

/-- The token of the user on whose behalf the engine calls. -/
def invokingToken (c : Callback) : Except Failure String :=
  match c.headers.text? "authorization" with
  | none => .error (.invocation (.unauthorized "No invoking user token in procedure context"))
  | some value =>
    match ((afterBearer? value).map trim).filter fun t => !t.isEmpty with
    | some token => .ok (String.ofList token)
    | none => .error (.invocation (.unauthorized "Authorization header is not a bearer token"))

/-- The URL of an entity at the engine. -/
def urlOf (c : Callback) (e : Entity) : String :=
  c.client.baseUrl ++ Client.entityPath c.identity.nameSpace c.identity.version e.reference

/-- The store of the entities. -/
def entityStore (c : Callback) : EntityStore :=
  c.identity.entityStore c.client

/-- Merges a document into the status of an entity. -/
def updateStatus (c : Callback) (metadata : Metadata) (status : Document) :
    Activity (Except Failure Unit) :=
  c.entityStore.perform (.updateStatus metadata status)

/-- The document that lists what a permission check asks for. -/
def checkDocument (checks : List (Action × Entity)) : Value :=
  .array (checks.map fun check => .array [Wire.write check.1, Wire.write check.2])

/-- Whether a user may do all that is listed. The user is the one whose token is given, or else the
invoking one. Whatever goes wrong counts as a refusal. -/
def checkPermission (c : Callback) (checks : List (Action × Entity)) (token : Option String) :
    Activity Bool :=
  match token.map Except.ok |>.getD c.invokingToken with
  | .error _ => .done false
  | .ok token =>
    ((c.client.withKey token).checkPermission c.identity.nameSpace c.identity.version
      (checkDocument checks)).bind fun
        | .ok allowed => .done allowed
        | .error _ => .done false

/-- The credentials of the provider, managed with its own one. -/
def providerSecurity (c : Callback) : SecurityGateway where
  client := c.client
  nameSpace := c.identity.nameSpace
  version := c.identity.version

/-- The credentials of the provider, managed with another one. -/
def userSecurity (c : Callback) (key : String) : SecurityGateway where
  client := c.client.withKey key
  nameSpace := c.identity.nameSpace
  version := c.identity.version

/-- A description of a context of tracing. -/
def describeTrace (t : Trace.Context) : String :=
  record "TraceContext"
    [("trace_id", t.traceId.toNat.repr), ("span_id", t.spanId.toNat.repr),
      ("parent_span_id", optional (t.parentSpanId.map fun n => n.toNat.repr)),
      ("sampled", if t.sampled then "true" else "false")]

/-- A description of the surroundings of a callback. -/
def describe (c : Callback) : String :=
  record "ProceduralCtx"
    [("prefix", quoted c.identity.nameSpace), ("version", quoted c.identity.version),
      ("operation", quoted c.operation), ("trace", describeTrace c.trace)]

end Callback

end IntentProvider
