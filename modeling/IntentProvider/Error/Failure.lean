import IntentProvider.Error.Invocation
import IntentProvider.Http.Failure

/-!
What can go wrong while a provider is assembled, registered or served. Every failure has a cause,
and `Failure.message` puts it into words.
-/

namespace IntentProvider

/-- What is wrong with the description of a kind. -/
inductive SchemaFault where
  | notAnObject
  | emptyName
  | missingMarker (marker kind : String)
  | unknownMarker (marker value kind : String)
  | unknownKind (kind : String)
  | alreadyDeclared (kind : String)
  /-- A fault that a handler reports in its own words. -/
  | other (text : String)
  deriving DecidableEq, Repr

/-- What is said about a fault in the description of a kind. -/
def SchemaFault.message : SchemaFault → String
  | notAnObject => "kind description must be a JSON object"
  | emptyName => "kind name cannot be empty"
  | missingMarker marker kind =>
    "missing " ++ marker ++ " marker in entity description for: " ++ kind
  | unknownMarker marker value kind =>
    "unrecognized " ++ marker ++ " marker '" ++ value ++ "' for: " ++ kind
  | unknownKind kind => "unknown kind: " ++ kind
  | alreadyDeclared kind => "kind already declared: " ++ kind
  | other text => text

/-- What is wrong with the name of a procedure. -/
inductive NameFault where
  | empty
  | unroutable
  | reserved
  /-- A fault that a handler reports in its own words. -/
  | other (text : String)
  deriving DecidableEq, Repr

/-- What is said about a fault in the name of a procedure. -/
def NameFault.message : NameFault → String
  | empty => "name cannot be empty"
  | unroutable => "name contains characters that cannot be routed"
  | reserved => "name is reserved for the health check"
  | other text => text

/-- What is wrong with the settings of a provider. -/
inductive ConfigFault where
  | engineUrl (url : String)
  | emptyPublicHost
  | unreadable (path reason : String)
  /-- A fault that a handler reports in its own words. -/
  | other (text : String)
  deriving DecidableEq, Repr

/-- What is said about a fault in the settings of a provider. -/
def ConfigFault.message : ConfigFault → String
  | engineUrl url => "engine_url must be an http(s) URL, got '" ++ url ++ "'"
  | emptyPublicHost => "public_host cannot be empty"
  | unreadable path reason => "Failed to read config file " ++ path ++ ": " ++ reason
  | other text => text

/-- A failure with its cause. -/
inductive Failure where
  | schema (fault : SchemaFault)
  | emptyKind
  | invalidErrorCode (procedure code : String)
  | invalidName (name : String) (fault : NameFault)
  | malformedDescriptor (field : String)
  | bind (address reason : String)
  | noTask (operation task : String)
  | missingMetadataExtension (task : String)
  | invocation (i : Invocation)
  | securityGateway (text : String) (status : Option UInt16)
  | engine (status : UInt16) (text : String)
  | notFound (subject : String)
  | versionConflict (subject text : String)
  | notRegistered
  | config (fault : ConfigFault)
  | http (cause : Http.Failure)
  | serialization (text : String)
  | toml (text : String)
  | io (text : String)
  | unknown (text : String)

namespace Failure

/-- What is said about a failure. -/
def message : Failure → String
  | schema fault => "Schema error: " ++ fault.message
  | emptyKind => "Kind registration is missing entity description"
  | invalidErrorCode procedure code =>
    "Invalid error code '" ++ code ++ "' declared by procedure '" ++ procedure ++ "'"
  | invalidName name fault => "Invalid procedure name '" ++ name ++ "': " ++ fault.message
  | malformedDescriptor field => "Malformed provider description. Missing: " ++ field
  | bind address reason => "Failed to bind callback server to " ++ address ++ ": " ++ reason
  | noTask operation task =>
    "Attempting to " ++ operation ++ " missing background task (" ++ task ++ ")"
  | missingMetadataExtension task =>
    "Attempting to create background task (" ++ task ++ ") without the required metadata extension"
  | invocation i => i.message
  | securityGateway text _ => "Security API error: " ++ text
  | engine status text =>
    "Engine request failed with status " ++ status.toNat.repr ++ ": " ++ text
  | notFound subject => "Entity not found: " ++ subject
  | versionConflict subject text =>
    "Spec version conflict for entity " ++ subject ++ ": " ++ text
  | notRegistered => "Provider is not registered"
  | config fault => "Configuration error: " ++ fault.message
  | http cause => "HTTP error: " ++ cause.message
  | serialization text => "Serialization error: " ++ text
  | toml text => "TOML deserialization error: " ++ text ++ "\n"
  | io text => "IO error: " ++ text
  | unknown text => text

/-- The form in which the engine is told about a failure: an invocation failure as it is, every
other one as an internal failure with its message. -/
def toInvocation : Failure → Invocation
  | invocation i => i
  | f => .wrapping 500 f.message

end Failure

end IntentProvider
