/-!
Ways in which an outbound request brings no usable answer.
-/

namespace IntentProvider.Http

/-- Why a request has no usable answer. -/
inductive Failure where
  /-- The URL cannot be read, or the credential cannot stand in a header. -/
  | malformed
  /-- No request can be sent to the URL. -/
  | unsupported (url : String)
  /-- No connection, or no answer on it. -/
  | unreachable (url : String)
  /-- The body of the answer is not what was asked for. -/
  | undecodable
  deriving DecidableEq, Repr

/-- What is said about a failure. -/
def Failure.message : Failure → String
  | malformed => "builder error"
  | unsupported url => "builder error for url (" ++ url ++ ")"
  | unreachable url => "error sending request for url (" ++ url ++ ")"
  | undecodable => "error decoding response body"

end IntentProvider.Http
