import IntentProvider.Http.Headers
import IntentProvider.Json.Value

/-!
The answers that a provider gives over HTTP.
-/

namespace IntentProvider.Http

open IntentProvider.Json

/-- The status codes that an answer may carry. -/
def isStatus (code : UInt16) : Bool :=
  100 ≤ code && code ≤ 999

theorem between_iff {low high code : UInt16} :
    (low ≤ code && code ≤ high) = true ↔ low.toNat ≤ code.toNat ∧ code.toNat ≤ high.toNat := by
  rw [Bool.and_eq_true, decide_eq_true_iff, decide_eq_true_iff, UInt16.le_iff_toNat_le,
    UInt16.le_iff_toNat_le]

/-- An answer to a request. -/
structure Response where
  status : UInt16
  contentType : Option String := none
  /-- The methods that the resource has, where another one was asked for. -/
  allow : Option String := none
  body : String := ""
  deriving DecidableEq, Repr

namespace Response

/-- An answer that is a JSON document. -/
def json (status : UInt16) (value : Value) : Response where
  status := status
  contentType := some "application/json"
  body := value.text

/-- An answer that is plain text. -/
def text (status : UInt16) (body : String) : Response where
  status := status
  contentType := some "text/plain; charset=utf-8"
  body := body

/-- Whether the status of an answer reports success. -/
def isSuccess (r : Response) : Bool :=
  200 ≤ r.status && r.status ≤ 299

end Response

end IntentProvider.Http
