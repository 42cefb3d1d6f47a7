import IntentProvider.Catalogue.Signature
import IntentProvider.Error.Failure
import IntentProvider.Text.Blank
import IntentProvider.Text.Radix

/-!
Names and error codes of procedures. A name is the last segment of the path on which its procedure
is served, so it holds no character with a meaning in paths. An error code is a status of HTTP that
reports an error.
-/

namespace IntentProvider

open IntentProvider.Text

namespace ProcedureName

/-- Whether a character may not stand in the name of a procedure. -/
def isUnroutable (c : Char) : Bool :=
  c == '/' || c == ':' || c == '*' || c == '\x7b' || c == '\x7d' || isBlank c

/-- The name under which a provider tells that it is alive. -/
def healthCheck : String := "healthcheck"

/-- What is wrong with the name of a procedure of a kind, or of the provider itself. -/
def fault? (name : String) (kind : Option String) : Option NameFault :=
  if name.isEmpty then some .empty
  else if name.toList.any isUnroutable then some .unroutable
  else if kind.isNone && name == healthCheck then some .reserved
  else none

/-- Refuses a name with a fault. -/
def validate (name : String) (kind : Option String) : Except Failure Unit :=
  match fault? name kind with
  | some f => .error (.invalidName name f)
  | none => .ok ()

end ProcedureName

namespace ErrorCode

/-- Whether a text is a declared error code: a number from 400 to 599. -/
def isValid (code : String) : Bool :=
  match Radix.read? 10 65536 code.toList with
  | some n => 400 ≤ n && n ≤ 599
  | none => false

/-- Refuses the least code of a procedure that is none. -/
def validate (procedure : String) (errors : ErrorSchemas) : Except Failure Unit :=
  match errors.keys.find? fun code => !isValid code with
  | some code => .error (.invalidErrorCode procedure code)
  | none => .ok ()

end ErrorCode

end IntentProvider
