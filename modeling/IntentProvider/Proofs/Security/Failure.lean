import IntentProvider.Proofs.Engine.Operation
import IntentProvider.Security.Gateway

/-!
How the operations on the credentials of a provider fail. All of them are calls of one form. Main
statement: an operation is at most one request, and it either brings what a successful reply says,
or fails in a way that names the operation and the provider, with a status exactly if a reply has
refused it.
-/

namespace IntentProvider.SecurityGateway

open IntentProvider.Http
open IntentProvider.Json

/-- The request of a call, or the reason why there is none. -/
def request (g : SecurityGateway) (method : Method) (path : String) (body : Option Value) :
    Except Http.Failure Request :=
  g.client.request method (Client.providerPath g.nameSpace g.version ++ "/" ++ path) body

/-- The text of a failure, which names the operation and the provider. -/
def report (g : SecurityGateway) (operation cause : String) : String :=
  "Cannot " ++ operation ++ " for provider " ++ g.nameSpace ++ "/" ++ g.version ++ ": " ++ cause

def IsSuccess (r : Reply) : Prop :=
  200 ≤ r.status.toNat ∧ r.status.toNat ≤ 299

instance (r : Reply) : Decidable (IsSuccess r) :=
  inferInstanceAs (Decidable (_ ∧ _))

/-- The ways in which a call ends, by what comes back for its request. -/
inductive Outcome {α : Type} (g : SecurityGateway) (operation : String)
    (understood? : Reply → Option α) : Except Http.Failure Reply → Except Failure α → Prop where
  | done (r : Reply) (a : α) (hstatus : IsSuccess r) (h : understood? r = some a) :
      Outcome g operation understood? (.ok r) (.ok a)
  | undecodable (r : Reply) (hstatus : IsSuccess r) (h : understood? r = none) :
      Outcome g operation understood? (.ok r)
        (.error (.securityGateway (g.report operation "error decoding response body") none))
  | refused (r : Reply) (text : String) (hstatus : ¬ IsSuccess r) (htext : r.Says text) :
      Outcome g operation understood? (.ok r)
        (.error (.securityGateway (g.report operation text) (some r.status)))
  | unanswered (f : Http.Failure) :
      Outcome g operation understood? (.error f)
        (.error (.securityGateway (g.report operation f.message) none))

/-- How a call ends, by the reply that it has got, if any. -/
structure Decided {α : Type} (g : SecurityGateway) (operation : String)
    (understood? : Reply → Option α) (reply : Option Reply) (result : Except Failure α) : Prop where
  succeeds_iff : ∀ a, result = .ok a ↔
    ∃ r, reply = some r ∧ IsSuccess r ∧ understood? r = some a
  fails : ∀ f, result = .error f → ∃ cause status,
    f = .securityGateway (g.report operation cause) status ∧
      (∀ code, status = some code ↔ ∃ r, reply = some r ∧ ¬ IsSuccess r ∧ r.status = code) ∧
      ∀ r, reply = some r → ¬ IsSuccess r → r.Says cause

/-- The reply among the exchanges of a call. -/
def reply? : List (Exchange Effect.Answer) → Option Reply
  | [⟨.send _, .ok r⟩] => some r
  | _ => none

/-- What a call exchanges with the engine and how it ends. -/
structure Uniform {α : Type} (g : SecurityGateway) (operation : String)
    (request : Except Http.Failure Request) (understood? : Reply → Option α)
    (log : List (Exchange Effect.Answer)) (result : Except Failure α) : Prop where
  unsent : ∀ f, request = .error f →
    log = [] ∧ result = .error (.securityGateway (g.report operation f.message) none)
  sent : ∀ q, request = .ok q →
    ∃ answer, log = [⟨.send q, answer⟩] ∧ g.Outcome operation understood? answer result
  decided : g.Decided operation understood? (reply? log) result

section Call

variable {α σ : Type} {world : (q : Effect) → σ → q.Answer × σ} {g : SecurityGateway}
  {operation : String} {method : Method} {path : String} {body : Option Value}
  {understood? : Reply → Option α}

theorem call_of_error {f : Http.Failure} (h : g.request method path body = .error f) :
    g.call operation method path body understood? =
      .done (.error (.securityGateway (g.report operation f.message) none)) := by
  rw [request] at h
  rw [call, Client.send, h]
  rfl

/-- What a call makes of the answer to its request. -/
def received (g : SecurityGateway) (operation : String) (understood? : Reply → Option α) :
    Except Http.Failure Reply → Except Failure α
  | .error f => .error (.securityGateway (g.report operation f.message) none)
  | .ok r =>
      if r.isSuccess then
        match understood? r with
        | some a => .ok a
        | none =>
            .error (.securityGateway (g.report operation "error decoding response body") none)
      else .error (.securityGateway (g.report operation r.text) (some r.status))

theorem call_of_ok {q : Request} (h : g.request method path body = .ok q) :
    g.call operation method path body understood? =
      .ask (.send q) fun answer => .done (g.received operation understood? answer) := by
  rw [request] at h
  rw [call, Client.send, h]
  refine congrArg (Script.ask (Effect.send q)) (funext fun answer => ?_)
  cases answer with
  | error f => rfl
  | ok r =>
      dsimp only [Script.bind, received]
      split
      · cases understood? r <;> rfl
      · rfl

theorem outcome_received (g : SecurityGateway) (operation : String)
    (understood? : Reply → Option α) (answer : Except Http.Failure Reply) :
    g.Outcome operation understood? answer (g.received operation understood? answer) := by
  cases answer with
  | error f => exact .unanswered f
  | ok r =>
      rw [received]
      by_cases hstatus : IsSuccess r
      · rw [if_pos ((Client.Operation.isSuccess_iff r).mpr hstatus)]
        split
        · rename_i a ha
          exact .done r a hstatus ha
        · rename_i ha
          exact .undecodable r hstatus ha
      · rw [if_neg fun h => hstatus ((Client.Operation.isSuccess_iff r).mp h)]
        exact .refused r r.text hstatus (Reply.says_iff.mpr rfl)

/-- A failure has no status where no reply has refused the call. -/
theorem decided_of_unrefused (g : SecurityGateway) (operation cause : String)
    {reply : Option Reply} (h : ∀ r, reply = some r → IsSuccess r ∧ understood? r = none) :
    g.Decided operation understood? reply
      (.error (.securityGateway (g.report operation cause) none)) where
  succeeds_iff a := by
    constructor
    · rintro ⟨⟩
    · rintro ⟨r, hr, -, ha⟩
      rw [(h r hr).2] at ha
      cases ha
  fails := by
    rintro _ ⟨⟩
    refine ⟨cause, none, rfl, ?_, fun r hr hstatus => absurd (h r hr).1 hstatus⟩
    intro code
    constructor
    · rintro ⟨⟩
    · rintro ⟨r, hr, hstatus, -⟩
      exact absurd (h r hr).1 hstatus

theorem decided_of_outcome {answer : Except Http.Failure Reply} {result : Except Failure α}
    (h : g.Outcome operation understood? answer result) :
    g.Decided operation understood? answer.toOption result := by
  cases h with
  | done r a hstatus h =>
      refine ⟨?_, nofun⟩
      intro a'
      constructor
      · rintro ⟨⟩
        exact ⟨r, rfl, hstatus, h⟩
      · rintro ⟨_, ⟨⟩, -, h'⟩
        rw [h, Option.some.injEq] at h'
        rw [h']
  | undecodable r hstatus h =>
      apply decided_of_unrefused
      rintro _ ⟨⟩
      exact ⟨hstatus, h⟩
  | refused r text hstatus htext =>
      constructor
      · intro a
        constructor
        · rintro ⟨⟩
        · rintro ⟨_, ⟨⟩, hsuccess, -⟩
          exact absurd hsuccess hstatus
      · rintro _ ⟨⟩
        refine ⟨text, some r.status, rfl, ?_, ?_⟩
        · intro code
          constructor
          · rintro ⟨⟩
            exact ⟨r, rfl, hstatus, rfl⟩
          · rintro ⟨_, ⟨⟩, -, rfl⟩
            rfl
        · rintro _ ⟨⟩ -
          exact htext
  | unanswered f =>
      apply decided_of_unrefused
      rintro _ ⟨⟩

theorem uniform_call (world : (q : Effect) → σ → q.Answer × σ) (g : SecurityGateway)
    (operation : String) (method : Method) (path : String) (body : Option Value)
    (understood? : Reply → Option α) (x : σ) :
    g.Uniform operation (g.request method path body) understood?
      ((g.call operation method path body understood?).exchanges world x)
      ((g.call operation method path body understood?).run world x).1 := by
  cases hq : g.request method path body with
  | error f =>
      rw [call_of_error hq]
      refine ⟨?_, nofun, decided_of_unrefused g operation f.message nofun⟩
      rintro _ ⟨⟩
      exact ⟨rfl, rfl⟩
  | ok q =>
      have houtcome := outcome_received g operation understood? (world (.send q) x).1
      have hdecided := decided_of_outcome houtcome
      have hreply : reply? [⟨.send q, (world (.send q) x).1⟩] =
          (world (.send q) x).1.toOption := by
        cases (world (.send q) x).1 <;> rfl
      rw [call_of_ok hq]
      refine ⟨nofun, ?_, hreply ▸ hdecided⟩
      rintro _ ⟨⟩
      exact ⟨_, rfl, houtcome⟩

end Call

/-- Whatever comes back, an operation on credentials brings what was asked for or fails in the one
form. -/
theorem fails_uniformly {σ : Type} (world : (q : Effect) → σ → q.Answer × σ)
    (g : SecurityGateway) (r : CredentialRequest) (key : String) (x : σ) :
    g.Uniform "get user info" (g.request .get "auth/user_info" none) (Reply.decode? Document)
      (g.userInfo.exchanges world x) (g.userInfo.run world x).1 ∧
    g.Uniform "list keys" (g.request .get "s2skey" none) (Reply.decode? (List Credential))
      (g.listKeys.exchanges world x) (g.listKeys.run world x).1 ∧
    g.Uniform "create key" (g.request .post "s2skey" (some (Wire.write r)))
      (Reply.decode? Credential) ((g.createKey r).exchanges world x)
      ((g.createKey r).run world x).1 ∧
    g.Uniform "deactivate key"
      (g.request .put "s2skey" (some (.object [("key", .string key), ("active", .bool false)])))
      (fun _ => some ()) ((g.deactivateKey key).exchanges world x)
      ((g.deactivateKey key).run world x).1 :=
  ⟨uniform_call world g _ _ _ _ _ x, uniform_call world g _ _ _ _ _ x,
    uniform_call world g _ _ _ _ _ x, uniform_call world g _ _ _ _ _ x⟩

/-- A conflict is reported like any other refusal. -/
theorem fails_uniformly_conflict :
    let g : SecurityGateway := ⟨Client.onLoopback, "files", "v1"⟩
    let world := World.answering (.ok ⟨409, "taken".toUTF8⟩)
    (g.listKeys.run world ()).1 =
      .error (.securityGateway "Cannot list keys for provider files/v1: taken" (some 409)) := by
  intro g world
  have hrequest : (g.request .get "s2skey" none).isOk = true := by decide +kernel
  have hsays : (Reply.mk 409 "taken".toUTF8).Says "taken" :=
    Reply.says_iff.mpr (by decide +kernel)
  obtain ⟨-, huniform, -, -⟩ := fails_uniformly world g {} "" ()
  cases hq : g.request .get "s2skey" none with
  | error f =>
      rw [hq] at hrequest
      cases hrequest
  | ok q =>
      have hlog : g.listKeys.exchanges world () = [⟨.send q, .ok ⟨409, "taken".toUTF8⟩⟩] := by
        rw [listKeys, call_of_ok hq]
        rfl
      obtain ⟨answer, hanswer, houtcome⟩ := huniform.sent q hq
      cases hlog.symm.trans hanswer
      generalize (g.listKeys.run world ()).1 = result at houtcome ⊢
      cases houtcome with
      | done r a hstatus h => exact absurd hstatus (by decide)
      | undecodable r hstatus h => exact absurd hstatus (by decide)
      | refused r text hstatus htext =>
          have htaken : text = "taken" :=
            (Reply.says_iff.mp htext).symm.trans (Reply.says_iff.mp hsays)
          rw [htaken]
          rfl

end IntentProvider.SecurityGateway
