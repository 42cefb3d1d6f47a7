import IntentProvider.Http.Request
import IntentProvider.Store.Call

/-!
What a provider asks of its surroundings: to send a request, to listen at an address, and to perform
a call on a store that is held in this process.
-/

namespace IntentProvider

open IntentProvider.Http

/-- A question to the surroundings of a provider. -/
inductive Effect where
  /-- One call of the HTTP client, which may follow redirects by itself. It can therefore be several
  requests on the wire, of which only the last reply is seen. -/
  | send (request : Request)
  | listen (address : String)
  | store (name : String) (call : StoreCall)

namespace Effect

/-- What the surroundings answer: a reply or the reason why there is none, the address that is
listened at or the reason why there is none, and what the store answers. A redirect that cannot be
followed is such a reason, and so is a body that breaks off where its document is asked for. -/
@[reducible] def Answer : Effect → Type
  | send _ => Except Http.Failure Reply
  | listen _ => Except String String
  | store _ call => call.Answer

end Effect

/-- A script of questions to the surroundings. -/
abbrev Activity (α : Type) : Type :=
  Script Effect Effect.Answer α

end IntentProvider
