import IntentProvider.Program.Effect
import IntentProvider.Provider.Descriptor
import IntentProvider.Trace.Context

/-!
The client of an engine. Every operation sends one request, or none if the URL or the credential
cannot form one, and says how the reply is to be understood.
-/

namespace IntentProvider

open IntentProvider.Http
open IntentProvider.Json

/-- A client of an engine, with the credential that it shows and the trace that it is part of. -/
structure Client where
  baseUrl : String
  key : String
  trace : Option Trace.Context := none

namespace Client

/-- A text without the slashes at its end. -/
def trimSlashes (s : String) : String :=
  String.ofList ((s.toList.reverse.dropWhile (· == '/')).reverse)

/-- The client of the engine at a URL. -/
def ofUrl (url key : String) : Client where
  baseUrl := trimSlashes url
  key := key

/-- The same client as part of a trace. -/
def withTrace (c : Client) (trace : Trace.Context) : Client :=
  { c with trace := some trace }

/-- The same client with another credential. -/
def withKey (c : Client) (key : String) : Client :=
  { c with key }

/-- The request for a path of the engine. -/
def request (c : Client) (method : Method) (path : String) (body : Option Value) :
    Except Http.Failure Request :=
  Request.make method (c.baseUrl ++ path) c.key (c.trace.map (·.traceparent)) body

/-- Sends a request for a path of the engine. -/
def send (c : Client) (method : Method) (path : String) (body : Option Value) :
    Activity (Except Http.Failure Reply) :=
  match c.request method path body with
  | .error f => .done (.error f)
  | .ok r => .question (Effect.send r)

/-- A reply if it reports success, or else the failure that its status stands for. -/
def check (subject : String) (r : Reply) : Except Failure Reply :=
  if r.isSuccess then .ok r
  else if r.status = 404 then .error (.notFound subject)
  else if r.status = 409 then .error (.versionConflict subject r.text)
  else .error (.engine r.status r.text)

/-- The document in a reply. -/
def decode (α : Type) [Wire α] (r : Reply) : Except Failure α :=
  match r.decode? α with
  | some a => .ok a
  | none => .error (.http .undecodable)

/-- Sends a request and understands a successful reply. -/
def call {α : Type} (c : Client) (method : Method) (path : String) (body : Option Value)
    (subject : String) (understand : Reply → Except Failure α) : Activity (Except Failure α) :=
  (c.send method path body).bind fun
    | .error f => .done (.error (.http f))
    | .ok r => .done (check subject r >>= understand)

/-- The path under which the entities of a provider are served. -/
def entitiesPath (nameSpace version : String) : String :=
  "/services/" ++ nameSpace ++ "/" ++ version

/-- The path of the entities of a kind. -/
def kindPath (nameSpace version kind : String) : String :=
  entitiesPath nameSpace version ++ "/" ++ kind

/-- The path of an entity. -/
def entityPath (nameSpace version : String) (r : Reference) : String :=
  kindPath nameSpace version r.kind ++ "/" ++ r.uuid

/-- The path of what concerns a provider as a whole. -/
def providerPath (nameSpace version : String) : String :=
  "/provider/" ++ nameSpace ++ "/" ++ version

/-- Posts the description of a provider. -/
def register (c : Client) (d : Descriptor) : Activity (Except Failure Unit) :=
  c.call .post "/provider" (some (Wire.write d)) d.nameSpace fun _ => .ok ()

/-- Merges a document into the status of an entity. -/
def updateStatus (c : Client) (nameSpace version : String) (metadata : Metadata)
    (status : Document) : Activity (Except Failure Unit) :=
  let body := .object [("metadata", Wire.write metadata), ("status", .ofDocument status)]
  c.call .patch (providerPath nameSpace version ++ "/update_status") (some body) metadata.uuid
    fun _ => .ok ()

/-- An entity that is known to be of a kind, which is filled in where the entity does not say. -/
def withKind (kind : String) (e : Entity) : Entity :=
  if e.metadata.kind.isEmpty then { e with metadata := { e.metadata with kind } } else e

/-- Makes an entity. -/
def create (c : Client) (nameSpace version kind : String) (spec extension : Document) :
    Activity (Except Failure Entity) :=
  let metadata :=
    if extension.isEmpty then []
    else [("metadata", .object [("extension", .ofDocument extension)])]
  c.call .post (kindPath nameSpace version kind)
    (some (.object (("spec", .ofDocument spec) :: metadata))) kind
    fun r => (withKind kind) <$> decode Entity r

/-- Fetches an entity. -/
def get (c : Client) (nameSpace version : String) (r : Reference) :
    Activity (Except Failure Entity) :=
  c.call .get (entityPath nameSpace version r) none r.uuid (decode Entity)

/-- Replaces the spec of an entity, presenting the version that was read before. -/
def updateSpec (c : Client) (nameSpace version : String) (metadata : Metadata) (spec : Document) :
    Activity (Except Failure Unit) :=
  let body := .object
    [("metadata", .object
        [("spec_version", .ofUInt64 metadata.specVersion),
          ("extension", .ofDocument metadata.extension)]),
      ("spec", .ofDocument spec)]
  c.call .put (entityPath nameSpace version metadata.reference) (some body) metadata.uuid
    fun _ => .ok ()

/-- Deletes an entity. -/
def delete (c : Client) (nameSpace version : String) (r : Reference) :
    Activity (Except Failure Unit) :=
  c.call .delete (entityPath nameSpace version r) none r.uuid fun _ => .ok ()

/-- Whether the answer to a permission check allows what was asked. -/
def allows (answer : Value) : Bool :=
  (answer.get? "success").bind Value.string? == some "Ok"

/-- Asks whether the policy allows what a document lists. -/
def checkPermission (c : Client) (nameSpace version : String) (body : Value) :
    Activity (Except Failure Bool) :=
  c.call .post (entitiesPath nameSpace version ++ "/check_permission") (some body) nameSpace
    fun r => allows <$> decode Value r

end Client

end IntentProvider
