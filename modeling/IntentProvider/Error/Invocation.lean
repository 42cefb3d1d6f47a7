import IntentProvider.Http.Message

/-!
Failures of an invocation, in the form in which the engine is told about them: a status, a kind, a
message and structured details.
-/

namespace IntentProvider

open IntentProvider.Http
open IntentProvider.Json

/-- The failure of an invocation. -/
structure Invocation where
  status : UInt16
  kind : String := "invocation_error"
  message : String
  /-- Structured details. -/
  errors : List Value := []

namespace Invocation

/-- The kind of a failure that the handler did not put into words for the engine. -/
def handlerErrorKind : String := "procedure_handler_error"

/-- The caller sent a body that cannot be read. -/
def badRequest (message : String) : Invocation where
  status := 400
  kind := "bad_request"
  message := message

/-- The caller sent no usable authorization. -/
def unauthorized (message : String) : Invocation where
  status := 401
  kind := "unauthorized"
  message := message

/-- Any other failure, of which only the message is known. -/
def wrapping (status : UInt16) (message : String) : Invocation where
  status := status
  kind := handlerErrorKind
  message := message
  errors := [.object [("message", .string message)]]

/-- The document that tells the engine about a failure. -/
def document (i : Invocation) : Value :=
  .object [("error", .object
    [("kind", .string i.kind), ("code", .ofUInt64 i.status.toUInt64),
      ("message", .string i.message), ("errors", .array i.errors)])]

/-- The status of the answer: the own one, or 500 if it is no status of HTTP. -/
def httpStatus (i : Invocation) : UInt16 :=
  if isStatus i.status then i.status else 500

/-- The answer that tells the engine about a failure. -/
def response (i : Invocation) : Response :=
  .json i.httpStatus i.document

end Invocation

end IntentProvider
