/-!
Where procedures are served: the path of a procedure, and its URL at the address under which a
provider is known to the engine.
-/

namespace IntentProvider

/-- The path on which a procedure is served: under its kind, if it belongs to one. -/
def routePath (procedure : String) (kind : Option String) : String :=
  match kind with
  | some k => "/" ++ k ++ "/" ++ procedure
  | none => "/" ++ procedure

/-- The name of the operation that a procedure performs. -/
def operationName (procedure : String) (kind : Option String) : String :=
  procedure ++ "_" ++ kind.getD "provider" ++ "_procedure"

/-- The address under which a provider is known to the engine. -/
structure CallbackAddress where
  host : String
  port : UInt16
  deriving DecidableEq, Repr

namespace CallbackAddress

/-- The URL of the provider. -/
def base (a : CallbackAddress) : String :=
  "http://" ++ a.host ++ ":" ++ a.port.toNat.repr

/-- The URL of a procedure. -/
def url (a : CallbackAddress) (procedure : String) (kind : Option String) : String :=
  a.base ++ routePath procedure kind

end CallbackAddress

end IntentProvider
