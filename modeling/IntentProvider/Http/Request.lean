import IntentProvider.Http.Failure
import IntentProvider.Http.Headers
import IntentProvider.Http.Url
import IntentProvider.Json.Wire
import IntentProvider.Text.Base64

/-!
Outbound requests and what is received for them. A request carries a bearer credential, possibly a
`traceparent`, and possibly a JSON document. Credentials in its URL come before its own.
-/

namespace IntentProvider.Http

open IntentProvider.Json
open IntentProvider.Text

/-- The methods of outbound requests. -/
inductive Method where
  | get
  | post
  | put
  | patch
  | delete
  deriving DecidableEq, Repr

/-- The name of a method. -/
def Method.name : Method → String
  | get => "GET"
  | post => "POST"
  | put => "PUT"
  | patch => "PATCH"
  | delete => "DELETE"

/-- An outbound request. -/
structure Request where
  method : Method
  url : Url
  /-- The values of the `authorization` header. -/
  authorization : List String
  traceparent : Option String
  /-- The document in the body. -/
  body : Option Value

namespace Request

/-- The value of the `authorization` header for the credentials in a URL. -/
def basic (credentials : List UInt8 × List UInt8) : String :=
  "Basic " ++ String.ofList (Base64.encode (credentials.1 ++ 0x3A :: credentials.2))

/-- The value of the `authorization` header for a credential. -/
def bearer (key : String) : String :=
  "Bearer " ++ key

/-- The request with a credential, or the reason why there is none. -/
def make (method : Method) (url key : String) (traceparent : Option String) (body : Option Value) :
    Except Failure Request :=
  match Url.read? url with
  | none => .error .malformed
  | some u =>
    let sent := u.withoutCredentials
    if !u.hasHost then .error (.unsupported u.text)
    else if !key.toList.all Headers.isSendable then .error .malformed
    else if !sent.isSendable then .error (.unsupported sent.text)
    else .ok
      { method, url := sent, traceparent, body,
        authorization := (u.credentials?.toList.map basic) ++ [bearer key] }

end Request

/-- What is received for a request in the end, after any redirects. -/
structure Reply where
  status : UInt16
  /-- The body as far as it is used: it is empty if it breaks off under a status that reports a
  failure. -/
  body : ByteArray

namespace Reply

/-- Whether the status of a reply reports success. -/
def isSuccess (r : Reply) : Bool :=
  200 ≤ r.status && r.status ≤ 299

/-- The body of a reply as text, with a replacement character for each stray. -/
def text (r : Reply) : String :=
  String.ofList ((Glyph.ofBytes r.body.toList).map Glyph.shown)

example : (Reply.mk 500 ⟨#[0xE2, 0x82]⟩).text = "\uFFFD" := by decide +kernel

example : (Reply.mk 500 ⟨#[0xF0, 0x9F, 0x98]⟩).text = "\uFFFD" := by decide +kernel

/-- The document in the body of a reply. -/
def decode? (α : Type) [Wire α] (r : Reply) : Option α :=
  Wire.ofBytes? α r.body

end Reply

end IntentProvider.Http
