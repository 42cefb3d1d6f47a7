import IntentProvider.Callback.Handler
import IntentProvider.Text.Blank

/-!
From callbacks to answers. The body is read first, then the identity of the provider is asked for,
and only then the handler runs. Whatever happens becomes an answer.
-/

namespace IntentProvider

open IntentProvider.Http
open IntentProvider.Json
open IntentProvider.Text

/-- A procedure as it is served: the name of its operation, and its handler. -/
structure Procedure where
  operation : String
  handler : Handler

namespace Envelope

/-- The failure of a callback whose body cannot be read. -/
def malformed : Failure :=
  .invocation (.badRequest ("Malformed callback body: " ++ unreadable))

/-- The envelope in the body of a callback. A blank body is an empty one. -/
def ofBody (body : ByteArray) : Except Failure Envelope :=
  if body.toList.all isAsciiBlank then .ok {}
  else
    match Wire.ofBytes? Envelope body with
    | some e => .ok e
    | none => .error malformed

end Envelope

namespace Outcome

/-- What is said about a panic. -/
def panicText : Option String → String
  | some message => "Procedure handler panicked: " ++ message
  | none => "Procedure handler panicked"

/-- The answer to a callback whose handler has ended. -/
def response : Outcome Value → Response
  | value v => .json 200 v
  | failed f => f.toInvocation.response
  | panicked message =>
    Invocation.response
      { status := 500, kind := Invocation.handlerErrorKind, message := panicText message }

end Outcome

namespace Procedure

/-- Answers a callback up to the form of the answer. -/
def invoke (p : Procedure) (identity : Option Identity) (client : Client) (draw : Trace.Draw)
    (headers : Headers) (body : ByteArray) : Activity (Outcome Value) :=
  match Envelope.ofBody body with
  | .error f => .done (.failed f)
  | .ok envelope =>
    match identity with
    | none => .done (.failed .notRegistered)
    | some identity =>
      let trace := Trace.Context.following headers draw
      p.handler.call
        { identity, client := client.withTrace trace, headers, trace, operation := p.operation }
        envelope

/-- Answers a callback. -/
def answer (p : Procedure) (identity : Option Identity) (client : Client) (draw : Trace.Draw)
    (headers : Headers) (body : ByteArray) : Activity Response :=
  (p.invoke identity client draw headers body).bind fun outcome => .done outcome.response

end Procedure

end IntentProvider
