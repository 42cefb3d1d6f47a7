import IntentProvider.Proofs.Callback.Boundary
import IntentProvider.Proofs.Engine.Operation
import IntentProvider.Proofs.Program.Concurrent
import IntentProvider.Proofs.Task.Operation
import IntentProvider.Proofs.Trace.Propagation
import IntentProvider.Provider.Registration

/-!
What handlers send on the way. Every call that a handler makes through its callback shows one
credential and continues the trace of the callback, and every call of a background task shows the
credential of the provider outside any trace, whatever else is going on at the same time.
-/

namespace IntentProvider

open IntentProvider.Http
open IntentProvider.Json

/-- A call that concerns the credentials of a provider. -/
inductive SecurityCall where
  | userInfo
  | listKeys
  | createKey (r : CredentialRequest)
  | deactivateKey (key : String)

@[reducible] def SecurityCall.Answer : SecurityCall → Type
  | userInfo => Except Failure Document
  | listKeys => Except Failure (List Credential)
  | createKey _ => Except Failure Credential
  | deactivateKey _ => Except Failure Unit

def SecurityGateway.perform (g : SecurityGateway) : (call : SecurityCall) → Activity call.Answer
  | .userInfo => g.userInfo
  | .listKeys => g.listKeys
  | .createKey r => g.createKey r
  | .deactivateKey key => g.deactivateKey key

/-- A call that a handler makes through its callback. -/
inductive Outbound where
  | store (call : StoreCall)
  | updateStatus (metadata : Metadata) (status : Document)
  | checkPermission (checks : List (Action × Entity)) (token : Option String)
  | providerSecurity (call : SecurityCall)
  | userSecurity (key : String) (call : SecurityCall)

namespace Outbound

@[reducible] def Answer : Outbound → Type
  | store call => call.Answer
  | updateStatus .. => Except Failure Unit
  | checkPermission .. => Bool
  | providerSecurity call => call.Answer
  | userSecurity _ call => call.Answer

def UsesStore : Outbound → Prop
  | store _ => True
  | updateStatus .. => True
  | _ => False

/-- The credential that a call shows, where the provider has a key and the callback may say who
invokes it. -/
def credential? (key : String) (invoking : Except Failure String) : Outbound → Option String
  | checkPermission _ token => token.or invoking.toOption
  | userSecurity key _ => some key
  | _ => some key

end Outbound

def Callback.perform (c : Callback) : (o : Outbound) → Activity o.Answer
  | .store call => c.entityStore.perform call
  | .updateStatus metadata status => c.updateStatus metadata status
  | .checkPermission checks token => c.checkPermission checks token
  | .providerSecurity call => c.providerSecurity.perform call
  | .userSecurity key call => (c.userSecurity key).perform call

/-- What a handler does that goes out through its callback only. The handlers of constructors,
destructors and tasks are made of the work that they do. -/
inductive Errand where
  | withEntity (run : Callback → Entity → Value → Script Outbound Outbound.Answer (Outcome Value))
  | inputOnly (run : Callback → Value → Script Outbound Outbound.Answer (Outcome Value))
  | constructing (run : Callback → Value → Script Outbound Outbound.Answer (Outcome Construction))
  | destructing (run : Callback → Entity → Script Outbound Outbound.Answer (Outcome Value))
  | observing (interval : Nat)
      (run : Callback → Value → Script Outbound Outbound.Answer (Outcome Unit))

namespace Errand

def handler : Errand → Handler
  | withEntity run => .withEntity fun c e input => (run c e input).interpret c.perform
  | inputOnly run => .inputOnly fun c input => (run c input).interpret c.perform
  | constructing run => .inputOnly (.constructing fun c input => (run c input).interpret c.perform)
  | destructing run => .inputOnly (.destructing fun c e => (run c e).interpret c.perform)
  | observing interval run =>
      .withEntity (.observing interval fun c payload => (run c payload).interpret c.perform)

def script (errand : Errand) (c : Callback) (e : Envelope) :
    Script Outbound Outbound.Answer (Outcome Value) :=
  match errand with
  | withEntity run => run c e.entity e.input
  | inputOnly run => run c e.input
  | constructing run => (run c e.input).bind fun o => .done (o.map Wire.write)
  | destructing run =>
      match Wire.ofValue? Entity e.input with
      | some entity => run c entity
      | none => .done (.failed notAnEntity)
  | observing interval run =>
      (run c (Task.payload e.entity)).bind fun o =>
        .done (o.map fun _ => Task.pollAgain (interval / 1000))

theorem call_handler (errand : Errand) (c : Callback) (e : Envelope) :
    errand.handler.call c e = (errand.script c e).interpret c.perform := by
  cases errand with
  | withEntity run => rfl
  | inputOnly run => rfl
  | constructing run =>
      rw [script, Script.interpret_bind]
      rfl
  | destructing run =>
      simp only [handler, script, Handler.call, InputWork.destructing]
      cases Wire.ofValue? Entity e.input <;> rfl
  | observing interval run =>
      rw [script, Script.interpret_bind]
      rfl

end Errand

namespace Client

/-- A request that shows a credential, and is part of a trace if there is one. Before the credential
there are only those in the URL that the request is made of, which are those of the engine. -/
structure Signed (c : Client) (key : String) (trace : Option Trace.Context) (q : Request) :
    Prop where
  traceparent_eq : q.traceparent = trace.map (·.traceparent)
  authorization_eq : ∃ after v, Url.read? (c.baseUrl ++ String.ofList ('/' :: after)) = some v ∧
    q.authorization = v.credentials?.toList.map Request.basic ++ [Request.bearer key]
  alone_iff : ∀ u, c.Reaches u →
    (q.authorization = [Request.bearer key] ↔ u.credentials? = none)

def Signs (c : Client) (key : String) (trace : Option Trace.Context) : Effect → Prop
  | .send q => c.Signed key trace q
  | _ => True

/-- Clients of one engine differ in what they show, not in where this comes. -/
theorem Signs.of_baseUrl {c c' : Client} {key : String} {trace : Option Trace.Context} {e : Effect}
    (hbase : c.baseUrl = c'.baseUrl) (h : c.Signs key trace e) : c'.Signs key trace e := by
  cases e with
  | send q =>
      obtain ⟨htraceparent, hauthorization, halone⟩ := h
      refine ⟨htraceparent, hbase ▸ hauthorization, ?_⟩
      intro u hu
      exact halone u ⟨hbase ▸ hu.read, hu.isHttp⟩
  | _ => trivial

section Signs

variable {c : Client} {method : Method} {after : List Char} {body : Option Value}

theorem signed_of_request {q : Request}
    (h : c.request method (String.ofList ('/' :: after)) body = .ok q) :
    c.Signed c.key c.trace q := by
  obtain ⟨v, hv, rfl⟩ := Request.formable_of_make h
  refine ⟨rfl, ⟨after, v, hv.read, rfl⟩, ?_⟩
  intro u hu
  rw [Request.authorization_eq_iff, credentials?_of_reaches hu hv.read]

theorem always_send : (c.send method (String.ofList ('/' :: after)) body).Always
    (c.Signs c.key c.trace) := by
  unfold send
  split
  · exact .done _
  · rename_i q hq
    exact .question (signed_of_request hq)

theorem always_call {α : Type} {subject : String} {understand : Reply → Except Failure α} :
    (c.call method (String.ofList ('/' :: after)) body subject understand).Always
      (c.Signs c.key c.trace) := by
  refine always_send.bind fun answer => ?_
  cases answer <;> exact .done _

theorem always_perform (c : Client) (op : Operation) :
    (op.perform c).Always (c.Signs c.key c.trace) := by
  obtain ⟨after, hpath, -⟩ := op.exists_path_eq
  rw [Operation.perform_eq_call, hpath]
  exact always_call

end Signs

end Client

theorem EntityStore.always_perform (c : Client) (nameSpace version : String) (call : StoreCall) :
    ((engine c nameSpace version).perform call).Always (c.Signs c.key c.trace) := by
  cases call with
  | create kind spec extension =>
      exact c.always_perform (.create nameSpace version kind spec extension)
  | get r => exact c.always_perform (.get nameSpace version r)
  | updateSpec metadata spec => exact c.always_perform (.updateSpec nameSpace version metadata spec)
  | updateStatus metadata status =>
      exact c.always_perform (.updateStatus nameSpace version metadata status)
  | delete r => exact c.always_perform (.delete nameSpace version r)

namespace SecurityGateway

theorem always_call {α : Type} (g : SecurityGateway) (operation : String) (method : Method)
    (path : String) (body : Option Value) (understand : Reply → Option α) :
    (g.call operation method path body understand).Always
      (g.client.Signs g.client.key g.client.trace) := by
  let after := "provider/" ++ g.nameSpace ++ "/" ++ g.version ++ "/" ++ path
  have hpath : Client.providerPath g.nameSpace g.version ++ "/" ++ path =
      String.ofList ('/' :: after.toList) := by
    simp [← String.toList_inj, Client.providerPath, after]
  rw [call, hpath]
  refine Client.always_send.bind fun answer => ?_
  cases answer with
  | error f => exact .done _
  | ok r =>
      dsimp only
      split
      · split <;> exact .done _
      · exact .done _

theorem always_perform (g : SecurityGateway) (call : SecurityCall) :
    (g.perform call).Always (g.client.Signs g.client.key g.client.trace) := by
  cases call with
  | userInfo => exact always_call g _ _ _ _ _
  | listKeys => exact always_call g _ _ _ _ _
  | createKey r => exact always_call g _ _ _ _ _
  | deactivateKey key => exact always_call g "deactivate key" .put "s2skey" _ fun _ => some ()

end SecurityGateway

namespace Callback

/-- Whatever is sent for a call shows the credential of this call in the trace of the client. -/
def Allows (c : Callback) (o : Outbound) (e : Effect) : Prop :=
  ∃ key, o.credential? c.client.key c.invokingToken = some key ∧ c.client.Signs key c.client.trace e

theorem always_allows {c : Callback} {o : Outbound} {c' : Client} {α : Type} {s : Activity α}
    (h : s.Always (c'.Signs c'.key c'.trace)) (hbase : c'.baseUrl = c.client.baseUrl)
    (htrace : c'.trace = c.client.trace)
    (hkey : o.credential? c.client.key c.invokingToken = some c'.key) : s.Always (c.Allows o) :=
  h.mono fun _ he => ⟨c'.key, hkey, htrace ▸ he.of_baseUrl hbase⟩

theorem always_entityStore {c : Callback} (hstore : c.identity.store = none) (call : StoreCall) :
    (c.entityStore.perform call).Always (c.client.Signs c.client.key c.client.trace) := by
  rw [entityStore, Identity.entityStore, hstore]
  exact EntityStore.always_perform c.client c.identity.nameSpace c.identity.version call

theorem always_checkPermission (c : Callback) (checks : List (Action × Entity))
    (token : Option String) :
    (c.checkPermission checks token).Always (c.Allows (.checkPermission checks token)) := by
  unfold checkPermission
  split
  · exact .done false
  · rename_i t ht
    have hkey : Outbound.credential? c.client.key c.invokingToken (.checkPermission checks token) =
        some t := by
      cases token with
      | some given => exact congrArg Except.toOption ht
      | none => exact congrArg Except.toOption ht
    have hsend := (c.client.withKey t).always_perform
      (.checkPermission c.identity.nameSpace c.identity.version (checkDocument checks))
    refine (always_allows hsend rfl rfl hkey).bind fun answer => ?_
    cases answer <;> exact .done _

theorem always_perform (c : Callback) {o : Outbound}
    (hstore : o.UsesStore → c.identity.store = none) : (c.perform o).Always (c.Allows o) := by
  cases o with
  | store call =>
      exact always_allows (always_entityStore (hstore trivial) call) rfl rfl rfl
  | updateStatus metadata status =>
      have h := always_entityStore (hstore trivial) (.updateStatus metadata status)
      exact always_allows h rfl rfl rfl
  | checkPermission checks token => exact c.always_checkPermission checks token
  | providerSecurity call =>
      exact always_allows (c.providerSecurity.always_perform call) rfl rfl rfl
  | userSecurity key call =>
      exact always_allows ((c.userSecurity key).always_perform call) rfl rfl rfl

end Callback

/-- What goes on in a provider: a callback that is answered, or an operation on a task. -/
inductive Work where
  | callback (operation : String) (errand : Errand) (draw : Trace.Draw) (headers : Headers)
      (body : ByteArray)
  | task (t : Task) (o : Task.Operation)

namespace Work

@[reducible] def Result : Work → Type
  | callback .. => Response
  | task .. => Task.Outcome (Option Entity)

def activity (p : Provider) : (w : Work) → Activity w.Result
  | callback operation errand draw headers body =>
      p.carryOut draw headers body (.handler ⟨operation, errand.handler⟩)
  | task t o => p.performTask (o.script t)

end Work

/-- What a callback has exchanged: nothing if it is refused before its handler runs, and else what
belongs to the calls of the handler. -/
inductive Callback.Conducted (p : Provider) (operation : String) (errand : Errand)
    (draw : Trace.Draw) (headers : Headers) (body : ByteArray) :
    List (Exchange Effect.Answer) → Prop where
  | refused : Conducted p operation errand draw headers body []
  | handled {i : Identity} {e : Envelope} {c : Callback}
      {calls : List (Outbound × List (Exchange Effect.Answer))}
      (hidentity : p.identity = some i) (hbody : Envelope.Carries body e)
      (hc : c = Procedure.surroundings operation p.client draw headers i)
      (hcalls : Script.Calls c.perform (errand.script c e) calls)
      (htrace : ∀ inbound, Trace.Context.ofHeaders? headers = some inbound →
        c.trace.traceId = inbound.traceId ∧ c.trace.sampled = inbound.sampled)
      (hsigned : ∀ call ∈ calls, (call.1.UsesStore → i.store = none) →
        ∀ q answer, ⟨.send q, answer⟩ ∈ call.2 →
          ∃ key, call.1.credential? p.config.key c.invokingToken = some key ∧
            p.client.Signed key (some c.trace) q) :
      Conducted p operation errand draw headers body (calls.flatMap (·.2))

/-- What an operation on a task has exchanged: the key of the provider is shown, and no trace is
continued. -/
def Task.Conducted (p : Provider) (log : List (Exchange Effect.Answer)) : Prop :=
  (∀ i, p.identity = some i → i.store = none) →
    ∀ q answer, ⟨.send q, answer⟩ ∈ log → p.client.Signed p.config.key none q

namespace Work

def Conducted (p : Provider) : Work → List (Exchange Effect.Answer) → Prop
  | callback operation errand draw headers body =>
      Callback.Conducted p operation errand draw headers body
  | task _ _ => Task.Conducted p

theorem conducted_callback {p : Provider} {operation : String} {errand : Errand}
    {draw : Trace.Draw} {headers : Headers} {body : ByteArray}
    {log : List (Exchange Effect.Answer)} {rest : Activity Response}
    (h : ((callback operation errand draw headers body).activity p).Course log rest) :
    Callback.Conducted p operation errand draw headers body log := by
  change Script.Course (Procedure.answer ⟨operation, errand.handler⟩ p.identity p.client draw
    headers body) log rest at h
  rcases Envelope.ofBody_cases body with ⟨hbody, -⟩ | ⟨e, hbody, -⟩
  · rw [Procedure.answer_of_unreadable p.client draw headers p.identity hbody] at h
    rw [h.eq_nil_of_done]
    exact .refused
  · rw [Procedure.answer_of_carries p.client draw headers p.identity hbody] at h
    cases hidentity : p.identity with
    | none =>
        rw [hidentity] at h
        rw [h.eq_nil_of_done]
        exact .refused
    | some i =>
        rw [hidentity] at h
        let c := Procedure.surroundings operation p.client draw headers i
        have hinterpreted : ∃ left, Script.Course ((errand.script c e).interpret c.perform) log
            left := by
          rw [← errand.call_handler c e]
          -- when the handler has ended, the answer takes no further questions
          rcases Script.Course.cases_bind h with hleft | ⟨first, second, o, rfl, hfirst, hsecond⟩
          · exact hleft
          · rw [hsecond.eq_nil_of_done, List.append_nil]
            exact ⟨_, hfirst⟩
        obtain ⟨left, hleft⟩ := hinterpreted
        obtain ⟨calls, hcalls, rfl⟩ := hleft.exists_calls
        refine .handled hidentity hbody rfl hcalls ?_ ?_
        · intro inbound hinbound
          change (Trace.Context.following headers draw).traceId = inbound.traceId ∧
            (Trace.Context.following headers draw).sampled = inbound.sampled
          rw [Trace.Context.following, hinbound]
          exact ⟨rfl, rfl⟩
        · intro call hcall hstore q answer hq
          obtain ⟨left, hcourse⟩ := hcalls.exists_course call hcall
          have halways : (c.perform call.1).Always (c.Allows call.1) := c.always_perform hstore
          obtain ⟨key, hkey, hsigned⟩ := halways.of_course hcourse _ hq
          have hbase : c.client.baseUrl = p.client.baseUrl := rfl
          exact ⟨key, hkey, hsigned.of_baseUrl hbase⟩

theorem conducted_task {p : Provider} {t : Task} {o : Task.Operation}
    {log : List (Exchange Effect.Answer)} {rest : Activity (Task.Outcome (Option Entity))}
    (h : ((task t o).activity p).Course log rest) : Task.Conducted p log := by
  intro hstore q answer hq
  have halways (call : StoreCall) :
      (p.taskStore.perform call).Always (p.client.Signs p.client.key p.client.trace) := by
    unfold Provider.taskStore Identity.registeredStore
    cases hidentity : p.identity with
    | none => exact .done _
    | some i =>
        change ((i.store.getD (.engine p.client i.nameSpace i.version)).perform call).Always _
        rw [hstore i hidentity]
        exact EntityStore.always_perform p.client i.nameSpace i.version call
  exact (Script.Always.interpret halways (o.script t)).of_course h _ hq

theorem conducted_of_course {w : Work} {p : Provider} {log : List (Exchange Effect.Answer)}
    {rest : Activity w.Result} (h : (w.activity p).Course log rest) : w.Conducted p log := by
  cases w with
  | callback operation errand draw headers body => exact conducted_callback h
  | task t o => exact conducted_task h

/-- Whatever goes on side by side in a provider, the requests of a callback show the credential of
the call that they are for and continue the trace of this callback, and those for a task show the
key of the provider outside any trace. -/
theorem conducted_concurrently {ι : Type} [DecidableEq ι] {σ : Type}
    (world : (q : Effect) → σ → q.Answer × σ) (p : ι → Provider) (work : ι → Work)
    (schedule : List ι) (x : σ) (i : ι) :
    (work i).Conducted (p i)
      (((Concurrent.mk (fun j => (work j).activity (p j)) x []).run world schedule).logOf i) := by
  have hstart := Concurrent.apart_start (fun j => (work j).activity (p j)) x
  have hrun := Concurrent.apart_run hstart world schedule
  exact conducted_of_course (hrun i)

def shown {ι : Type} (log : List (ι × Exchange Effect.Answer)) :
    List (List String × Option String) :=
  log.filterMap fun entry =>
    match entry.2.question with
    | .send q => some (q.authorization, q.traceparent)
    | _ => none

def registeredAt (url : String) : Provider :=
  { Provider.fresh { engineUrl := url, key := "k" } with identity := some ⟨"files", "v1", none⟩ }

/-- A handler that asks for a permission and then looks up credentials with another key. -/
def curious : Errand :=
  .inputOnly fun _ _ =>
    .ask (.checkPermission [] none) fun allowed =>
      .ask (.userSecurity "other" .listKeys) fun _ => .done (.value (.bool allowed))

def calledBack : Work :=
  .callback "look" curious ⟨0, 2⟩
    (.ofList [("Authorization", "Bearer user-token"),
      ("traceparent", "00-0000000000000000000000000000000f-000000000000000e-01")]) .empty

def reading : Work :=
  .task { name := "beat", reference := some ⟨"a", "beat"⟩ } .entity

def lookedAt (i : Bool) : Work :=
  if i then calledBack else reading

/-- A callback and a task take turns, without a trace of the one in the other. -/
theorem conducted_concurrently_in_turns :
    let run := (Concurrent.mk (fun i => (lookedAt i).activity (registeredAt "http://[::1]:3000")) ()
      []).run Client.unavailable [true, false, true]
    (∀ i, (lookedAt i).Conducted (registeredAt "http://[::1]:3000") (run.logOf i)) ∧
    shown run.log =
      [(["Bearer user-token"],
          some "00-0000000000000000000000000000000f-0000000000000003-01"),
        (["Bearer k"], none),
        (["Bearer other"],
          some "00-0000000000000000000000000000000f-0000000000000003-01")] := by
  intro run
  refine ⟨fun i => conducted_concurrently Client.unavailable
    (fun _ => registeredAt "http://[::1]:3000") lookedAt [true, false, true] () i, ?_⟩
  decide +kernel

/-- With credentials in the URL of the engine, a request on behalf of a user shows them first. -/
theorem shown_with_credentials :
    shown ((Concurrent.mk
        (fun _ : Unit => calledBack.activity (registeredAt "http://u:p@[::1]:3000")) () []).run
      Client.unavailable [()]).log =
      [(["Basic dTpw", "Bearer user-token"],
        some "00-0000000000000000000000000000000f-0000000000000003-01")] := by
  decide +kernel

end Work

end IntentProvider
