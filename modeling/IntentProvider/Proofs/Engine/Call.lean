import IntentProvider.Proofs.Http.Request
import IntentProvider.Proofs.Program.Exchange
import IntentProvider.Store.Entity

/-!
What the calls of a client exchange with the engine. A call sends one request, or none if there can
be none, and its result is what it makes of the reply. A request of the store that an engine serves
concerns one entity, by its path or, if it is a patch, by the metadata in its body.
-/

namespace IntentProvider

open IntentProvider.Http
open IntentProvider.Json

namespace Client

theorem method_of_request {c : Client} {method : Method} {path : String} {body : Option Value}
    {q : Request} (h : c.request method path body = .ok q) : q.method = method := by
  obtain ⟨u, -, rfl⟩ := Request.formable_of_make h
  rfl

/-- Where a request goes does not depend on its body. -/
theorem parts_of_request {c : Client} {method : Method} {path : String} {body : Option Value}
    {q : Request} (h : c.request method path body = .ok q) :
    q.body = body ∧ (c.request method path none).toOption.map (·.url) = some q.url := by
  obtain ⟨u, hu, rfl⟩ := Request.formable_of_make h
  rw [request, Request.make_of_formable hu]
  exact ⟨rfl, rfl⟩

/-- A request of a client for a path. -/
def Requests (c : Client) (path : String) (q : Request) : Prop :=
  c.request q.method path q.body = .ok q

theorem requests_of_request {c : Client} {method : Method} {path : String} {body : Option Value}
    {q : Request} (h : c.request method path body = .ok q) : c.Requests path q := by
  rw [Requests, method_of_request h, (parts_of_request h).1]
  exact h

section Call

variable {α σ : Type} {world : (q : Effect) → σ → q.Answer × σ} {c : Client} {method : Method}
  {path : String} {body : Option Value} {subject : String}
  {understand : Reply → Except Failure α}

/-- What a call makes of the answer to its request. -/
def received (subject : String) (understand : Reply → Except Failure α) :
    Except Http.Failure Reply → Except Failure α
  | .error f => .error (.http f)
  | .ok r => check subject r >>= understand

theorem call_of_error {f : Http.Failure} (h : c.request method path body = .error f) :
    c.call method path body subject understand = .done (.error (.http f)) := by
  rw [call, send, h]
  rfl

theorem call_of_ok {q : Request} (h : c.request method path body = .ok q) :
    c.call method path body subject understand =
      .ask (.send q) fun answer => .done (received subject understand answer) := by
  rw [call, send, h]
  refine congrArg (Script.ask (Effect.send q)) (funext fun answer => ?_)
  cases answer <;> rfl

theorem exists_of_mem_exchanges_call {x : σ} {e : Exchange Effect.Answer}
    (h : e ∈ (c.call method path body subject understand).exchanges world x) :
    ∃ q, c.request method path body = .ok q ∧ e = ⟨.send q, (world (.send q) x).1⟩ := by
  cases hq : c.request method path body with
  | error f =>
      rw [call_of_error hq] at h
      cases h
  | ok q =>
      rw [call_of_ok hq] at h
      exact ⟨q, rfl, List.mem_singleton.mp h⟩

/-- What a call makes of a reply that reports success. -/
theorem run_call_of_reply {x : σ} {q : Request} {reply : Reply}
    (h : ⟨.send q, .ok reply⟩ ∈ (c.call method path body subject understand).exchanges world x)
    (hsuccess : reply.isSuccess) :
    ((c.call method path body subject understand).run world x).1 = understand reply := by
  obtain ⟨q', hq, he⟩ := exists_of_mem_exchanges_call h
  injection he with hquestion hanswer
  cases hquestion
  rw [call_of_ok hq, Script.run_ask, Script.run_done, ← hanswer, received, check,
    if_pos hsuccess]
  rfl

theorem isSuccess_of_check {r : Reply} {a : α} (h : (check subject r >>= understand) = .ok a) :
    r.isSuccess ∧ understand r = .ok a := by
  unfold check at h
  split at h
  · rename_i hsuccess
    exact ⟨hsuccess, h⟩
  · split at h
    · cases h
    · split at h <;> cases h

/-- A call that succeeds has got a reply that reports success. -/
theorem exists_reply_of_call {x : σ} {a : α}
    (h : ((c.call method path body subject understand).run world x).1 = .ok a) :
    ∃ q reply, c.request method path body = .ok q ∧
      ⟨.send q, .ok reply⟩ ∈ (c.call method path body subject understand).exchanges world x ∧
      reply.isSuccess ∧ understand reply = .ok a := by
  cases hq : c.request method path body with
  | error f =>
      rw [call_of_error hq] at h
      cases h
  | ok q =>
      rw [call_of_ok hq, Script.run_ask, Script.run_done] at h
      rcases hanswer : (world (.send q) x).1 with f | reply
      · rw [hanswer] at h
        cases h
      · rw [hanswer] at h
        refine ⟨q, reply, rfl, ?_, isSuccess_of_check h⟩
        rw [call_of_ok hq, Script.exchanges_ask, hanswer]
        exact List.mem_cons_self

end Call

theorem decode_eq_ok {α : Type} [Wire α] {r : Reply} {a : α} :
    decode α r = .ok a ↔ r.decode? α = some a := by
  unfold decode
  cases r.decode? α <;> simp

theorem kind_withKind {kind : String} {e : Entity}
    (h : e.metadata.kind = kind ∨ e.metadata.kind = "") :
    (withKind kind e).metadata.kind = kind := by
  unfold withKind
  split
  · rfl
  · rename_i hkind
    rcases h with h | h
    · exact h
    · rw [h] at hkind
      exact absurd rfl hkind

/-- The identity in the metadata that a patch presents. -/
def patched? (q : Request) : Option Reference := do
  let metadata ← (← q.body).get? "metadata"
  some ⟨← (← metadata.get? "uuid").string?, ← (← metadata.get? "kind").string?⟩

/-- A request of the store that an engine serves is about an entity: it is for the path of the
entity or, if it is a patch, presents metadata of the entity. -/
def Concerns (c : Client) (nameSpace version : String) (r : Reference) (q : Request) : Prop :=
  match q.method with
  | .patch =>
      c.Requests (providerPath nameSpace version ++ "/update_status") q ∧ patched? q = some r
  | _ => c.Requests (entityPath nameSpace version r) q

end Client

namespace EntityStore

open IntentProvider.Client

variable {σ : Type} {world : (q : Effect) → σ → q.Answer × σ} {c : Client}
  {nameSpace version : String} {x : σ}

/-- How a store answers a call in some surroundings. -/
def answer (s : EntityStore) (world : (q : Effect) → σ → q.Answer × σ) (call : StoreCall) (x : σ) :
    call.Answer × σ :=
  (s.perform call).run world x

/-- The method of the request for a call. -/
def method : StoreCall → Method
  | .create .. => .post
  | .get _ => .get
  | .updateSpec .. => .put
  | .updateStatus .. => .patch
  | .delete _ => .delete

theorem method_of_perform {call : StoreCall} {e : Exchange Effect.Answer} {q : Request}
    (he : e ∈ ((engine c nameSpace version).perform call).exchanges world x)
    (hq : e.question = .send q) : q.method = method call := by
  cases call
  all_goals
    obtain ⟨_, hrequest, rfl⟩ := exists_of_mem_exchanges_call he
    cases hq
    exact method_of_request hrequest

/-- The request for a call about an entity is about that entity. -/
theorem concerns_of_perform {call : StoreCall} {r : Reference} (hr : call.target? = some r)
    {e : Exchange Effect.Answer} {q : Request}
    (he : e ∈ ((engine c nameSpace version).perform call).exchanges world x)
    (hq : e.question = .send q) : c.Concerns nameSpace version r q := by
  have hmethod : q.method = method call := method_of_perform he hq
  unfold Client.Concerns
  rw [hmethod]
  cases call with
  | create kind spec extension => cases hr
  | updateStatus metadata status =>
      cases hr
      obtain ⟨_, hrequest, rfl⟩ := exists_of_mem_exchanges_call he
      cases hq
      refine ⟨requests_of_request hrequest, ?_⟩
      rw [patched?, (parts_of_request hrequest).1]
      rfl
  | _ =>
      cases hr
      obtain ⟨_, hrequest, rfl⟩ := exists_of_mem_exchanges_call he
      cases hq
      exact requests_of_request hrequest

/-- An entity that is fetched is what a reply says. -/
theorem exists_reply_of_get {r : Reference} {a : Entity}
    (h : ((engine c nameSpace version).answer world (.get r) x).1 = .ok a) :
    ∃ q reply, q.method = .get ∧
      ⟨.send q, .ok reply⟩ ∈ ((engine c nameSpace version).perform (.get r)).exchanges world x ∧
      reply.isSuccess ∧ reply.decode? Entity = some a := by
  obtain ⟨q, reply, hq, hmem, hsuccess, hdecode⟩ := exists_reply_of_call h
  exact ⟨q, reply, method_of_request hq, hmem, hsuccess, decode_eq_ok.mp hdecode⟩

/-- An entity that is made is what a reply says, with the kind that was asked for if the reply does
not name one. -/
theorem exists_reply_of_create {kind : String} {spec extension : Document} {a : Entity}
    (h : ((engine c nameSpace version).answer world (.create kind spec extension) x).1 = .ok a) :
    ∃ q reply e, q.method = .post ∧
      ⟨.send q, .ok reply⟩ ∈
        ((engine c nameSpace version).perform (.create kind spec extension)).exchanges world x ∧
      reply.isSuccess ∧ reply.decode? Entity = some e ∧ a = withKind kind e := by
  obtain ⟨q, reply, hq, hmem, hsuccess, hdecode⟩ := exists_reply_of_call h
  rcases he : decode Entity reply with f | e
  · rw [he] at hdecode
    cases hdecode
  · rw [he] at hdecode
    cases hdecode
    exact ⟨q, reply, e, method_of_request hq, hmem, hsuccess, decode_eq_ok.mp he, rfl⟩

end EntityStore

end IntentProvider
