import IntentProvider.Engine.Client
import IntentProvider.Security.Credential

/-!
The credentials of a provider at the engine. Whatever goes wrong is reported in one form, which
names the operation and the provider and tells the cause.
-/

namespace IntentProvider

open IntentProvider.Http
open IntentProvider.Json

/-- Access to the credentials of a provider. -/
structure SecurityGateway where
  client : Client
  nameSpace : String
  version : String

namespace SecurityGateway

/-- The credential that is shown. -/
def key (g : SecurityGateway) : String :=
  g.client.key

/-- The failure of an operation. The status is known if a reply came. -/
def failure (g : SecurityGateway) (operation cause : String) (status : Option UInt16) : Failure :=
  .securityGateway
    ("Cannot " ++ operation ++ " for provider " ++ g.nameSpace ++ "/" ++ g.version ++ ": " ++ cause)
    status

/-- Sends the request of an operation and understands a successful reply. -/
def call {α : Type} (g : SecurityGateway) (operation : String) (method : Method) (path : String)
    (body : Option Value) (understand : Reply → Option α) : Activity (Except Failure α) :=
  (g.client.send method (Client.providerPath g.nameSpace g.version ++ "/" ++ path) body).bind fun
    | .error f => .done (.error (g.failure operation f.message none))
    | .ok r =>
      if r.isSuccess then
        match understand r with
        | some a => .done (.ok a)
        | none => .done (.error (g.failure operation Http.Failure.undecodable.message none))
      else .done (.error (g.failure operation r.text (some r.status)))

/-- Who the credential belongs to. -/
def userInfo (g : SecurityGateway) : Activity (Except Failure Document) :=
  g.call "get user info" .get "auth/user_info" none (Reply.decode? Document)

/-- The credentials of the provider. -/
def listKeys (g : SecurityGateway) : Activity (Except Failure (List Credential)) :=
  g.call "list keys" .get "s2skey" none (Reply.decode? (List Credential))

/-- Makes a credential. -/
def createKey (g : SecurityGateway) (r : CredentialRequest) :
    Activity (Except Failure Credential) :=
  g.call "create key" .post "s2skey" (some (Wire.write r)) (Reply.decode? Credential)

/-- Puts a credential out of use. -/
def deactivateKey (g : SecurityGateway) (key : String) : Activity (Except Failure Unit) :=
  g.call "deactivate key" .put "s2skey"
    (some (.object [("key", .string key), ("active", .bool false)])) fun _ => some ()

end SecurityGateway

end IntentProvider
