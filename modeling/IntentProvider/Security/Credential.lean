import IntentProvider.Json.Wire

/-!
Credentials that the engine issues to services, requests for them, and the actions that its policy
allows or forbids.
-/

namespace IntentProvider

open IntentProvider.Json
open IntentProvider.Time

/-- The record of a credential. -/
structure Credential where
  name : Option String := none
  owner : String
  /-- The name space of the provider that the credential belongs to. -/
  nameSpace : String
  key : String
  uuid : String
  createdAt : Option Instant := none
  deletedAt : Option Instant := none
  userInfo : Document := {}

instance : Wire Credential where
  read? depth t := do
    let fs ← Fields.read?
      ["name", "owner", "provider_prefix", "key", "uuid", "created_at", "deleted_at", "user_info"]
      depth t
    let name ← fs.orDefault depth "name" none
    let owner ← fs.required depth "owner"
    let nameSpace ← fs.required depth "provider_prefix"
    let key ← fs.required depth "key"
    let uuid ← fs.required depth "uuid"
    let createdAt ← fs.orDefault depth "created_at" none
    let deletedAt ← fs.orDefault depth "deleted_at" none
    let userInfo ← fs.orDefault depth "user_info" (LaxDocument.mk {})
    some { name, owner, nameSpace, key, uuid, createdAt, deletedAt, userInfo := userInfo.document }
  write c := .object (
    optionalMember "name" c.name ++
    [("owner", .string c.owner), ("provider_prefix", .string c.nameSpace), ("key", .string c.key),
      ("uuid", .string c.uuid)] ++
    optionalMember "created_at" c.createdAt ++ optionalMember "deleted_at" c.deletedAt ++
    [("user_info", .ofDocument c.userInfo)])

/-- A request for a new credential. -/
structure CredentialRequest where
  name : Option String := none
  owner : Option String := none
  key : Option String := none
  userInfo : Option Document := none

instance : Wire CredentialRequest where
  read? depth t := do
    let fs ← Fields.read? ["name", "owner", "key", "user_info"] depth t
    let name ← fs.orDefault depth "name" none
    let owner ← fs.orDefault depth "owner" none
    let key ← fs.orDefault depth "key" none
    let userInfo ← fs.orDefault depth "user_info" none
    some { name, owner, key, userInfo }
  write c := .object (
    optionalMember "name" c.name ++ optionalMember "owner" c.owner ++
    optionalMember "key" c.key ++ optionalMember "user_info" c.userInfo)

/-- An action that the policy decides on. -/
inductive Action where
  | read
  | update
  | create
  | delete
  | registerProvider
  | unregisterProvider
  | readProvider
  | updateAuth
  | createKey
  | readKey
  | inactivateKey
  | updateStatus
  deriving DecidableEq, Repr

namespace Action

/-- The name of an action on the wire. -/
def name : Action → String
  | read => "read"
  | update => "write"
  | create => "create"
  | delete => "delete"
  | registerProvider => "register_provider"
  | unregisterProvider => "unregister_provider"
  | readProvider => "read_provider"
  | updateAuth => "update_auth"
  | createKey => "create_key"
  | readKey => "read_key"
  | inactivateKey => "inactive_key"
  | updateStatus => "update_status"

/-- The actions, in the order of their declaration. -/
def all : List Action :=
  [read, update, create, delete, registerProvider, unregisterProvider, readProvider, updateAuth,
    createKey, readKey, inactivateKey, updateStatus]

/-- The action with a name. -/
def ofName? (name : String) : Option Action :=
  all.find? fun a => a.name == name

theorem ofName?_name (a : Action) : ofName? a.name = some a := by
  cases a <;> rfl

end Action

instance : Wire Action where
  read? depth t := (tag? depth t).bind Action.ofName?
  write a := .string a.name

end IntentProvider
