import IntentProvider.Proofs.Callback.Boundary
import IntentProvider.Proofs.Engine.Call
import IntentProvider.Proofs.Provider.Served
import IntentProvider.Proofs.Task.Operation

/-!
The identity of a provider, which callbacks and background tasks ask for. It is written once, by the
first registration that the engine accepts, with what the provider was told until then. Whatever
happens before leaves it open, and whatever happens afterwards leaves it as it is.
-/

namespace IntentProvider.Provider

open IntentProvider.Http
open IntentProvider.Provider.Operation

variable {σ : Type}

/-- Something that happens to a provider. -/
inductive Event where
  | operation (o : Operation)
  /-- An operation on a background task. -/
  | task (t : Task) (o : Task.Operation)
  /-- A callback, with what the routes have led it to. -/
  | callback (draw : Trace.Draw) (headers : Headers) (body : ByteArray)
      (resolution : Resolution Procedure)

namespace Event

def register : Event :=
  operation .register

def perform : Event → Provider → Activity Provider
  | operation o, p => (o.perform p).bind fun r => .done r.2
  | task t o, p => (p.performTask (o.script t)).bind fun _ => .done p
  | callback draw headers body resolution, p =>
      (p.carryOut draw headers body resolution).bind fun _ => .done p

/-- The state after an event. -/
def next (world : World σ) (e : Event) (y : Provider × σ) : Provider × σ :=
  (e.perform y.1).run world y.2

def after (world : World σ) : List Event → Provider × σ → Provider × σ
  | [], y => y
  | e :: rest, y => after world rest (e.next world y)

/-- The states in which a registration was attempted. -/
def attempts (world : World σ) : List Event → Provider × σ → List (Provider × σ)
  | [], _ => []
  | operation .register :: rest, y => y :: attempts world rest (register.next world y)
  | e :: rest, y => attempts world rest (e.next world y)

end Event

section Register

variable {world : World σ} {p : Provider} {x : σ}

/-- The engine answers the request of a registration with success. -/
def isAcceptance (c : Client) : Exchange Effect.Answer → Bool
  | ⟨.send q, .ok reply⟩ =>
      q.method == .post &&
        (c.request .post "/provider" none).toOption.map (·.url) == some q.url && reply.isSuccess
  | _ => false

/-- The engine accepts the registration that is attempted in a state. -/
def isAccepted (world : World σ) (y : Provider × σ) : Bool :=
  (y.1.register.exchanges world y.2).any (isAcceptance y.1.client)

theorem isSuccess_of_isAcceptance {c : Client} {i : Exchange Effect.Answer}
    (h : isAcceptance c i) : ∃ q reply, i = ⟨.send q, .ok reply⟩ ∧ reply.isSuccess := by
  rcases i with ⟨q | address | ⟨name, call⟩, answer⟩
  · cases answer with
    | error f => cases h
    | ok reply => exact ⟨q, reply, rfl, (Bool.and_eq_true_iff.mp h).2⟩
  · cases h
  · cases h

theorem register_of_error {f : Failure} (h : p.descriptor = .error f) :
    p.register = .done (.error f, p) := by
  rw [register, h]

/-- How a registration goes on after the engine has been told of a description. -/
def proceed (p : Provider) (d : Descriptor) :
    Except Failure Unit → Activity (Except Failure Descriptor × Provider)
  | .error f => .done (.error f, p)
  | .ok () => (p.accepted d).listen.bind fun o => .done (o.1.map fun _ => d, o.2)

theorem register_of_ok {d : Descriptor} (h : p.descriptor = .ok d) :
    p.register = (p.client.register d).bind (p.proceed d) := by
  rw [register, h]
  refine congrArg (Script.bind _) (funext fun answer => ?_)
  cases answer <;> rfl

theorem isAccepted_iff : isAccepted world (p, x) ↔
    ∃ d, p.descriptor = .ok d ∧ ((p.client.register d).run world x).1 = .ok () := by
  constructor
  · intro h
    obtain ⟨i, hmem, hacceptance⟩ := List.any_eq_true.mp h
    obtain ⟨q, reply, rfl, hsuccess⟩ := isSuccess_of_isAcceptance hacceptance
    dsimp only at hmem
    cases hd : p.descriptor with
    | error f =>
        rw [register_of_error hd] at hmem
        cases hmem
    | ok d =>
        refine ⟨d, rfl, ?_⟩
        rw [register_of_ok hd, Script.exchanges_bind] at hmem
        rcases List.mem_append.mp hmem with hmem | hmem
        · exact Client.run_call_of_reply hmem hsuccess
        · rcases hanswer : ((p.client.register d).run world x).1 with f | _
          · rw [hanswer] at hmem
            cases hmem
          · rfl
  · rintro ⟨d, hd, hok⟩
    obtain ⟨q, reply, hq, hmem, hsuccess, -⟩ := Client.exists_reply_of_call hok
    apply List.any_eq_true.mpr
    refine ⟨⟨.send q, .ok reply⟩, ?_, ?_⟩
    · rw [register_of_ok hd, Script.exchanges_bind]
      exact List.mem_append_left _ hmem
    · rw [isAcceptance, Client.method_of_request hq, (Client.parts_of_request hq).2, hsuccess,
        beq_self_eq_true, beq_self_eq_true]
      rfl

/-- A registration that the engine does not accept fails and changes nothing. -/
theorem run_register_of_not_accepted (h : ¬ isAccepted world (p, x)) :
    ∃ f, (p.register.run world x).1 = (.error f, p) := by
  cases hd : p.descriptor with
  | error f =>
      rw [register_of_error hd]
      exact ⟨f, rfl⟩
  | ok d =>
      rcases hanswer : ((p.client.register d).run world x).1 with f | ⟨⟩
      · rw [register_of_ok hd, Script.run_bind, hanswer]
        exact ⟨f, rfl⟩
      · exact absurd (isAccepted_iff.mpr ⟨d, hd, hanswer⟩) h

/-- What the provider has been told about its identity. -/
def told? (p : Provider) : Option Identity := do
  let nameSpace ← p.nameSpace
  let version ← p.version
  some ⟨nameSpace, version, p.store⟩

theorem told?_of_descriptor {d : Descriptor} (h : p.descriptor = .ok d) :
    p.told? = some (p.identityOf d) := by
  obtain ⟨-, -, hnameSpace, hversion⟩ := descriptor_eq_ok h
  rw [told?, hnameSpace, hversion]
  rfl

theorem identity_register (world : World σ) (p : Provider) (x : σ) :
    (p.register.run world x).1.2.identity =
      if isAccepted world (p, x) then p.identity.or p.told? else p.identity := by
  split
  · rename_i haccepted
    obtain ⟨d, hd, hok⟩ := isAccepted_iff.mp haccepted
    rw [told?_of_descriptor hd, register_of_ok hd, Script.run_bind, hok]
    simp only [proceed, listen, Script.run_bind, Script.run_done]
    cases hidentity : p.identity <;> simp [accepted, hidentity]
  · rename_i haccepted
    obtain ⟨f, hrun⟩ := run_register_of_not_accepted haccepted
    rw [hrun]

end Register

theorem identity_built {changes : List Change} {p q : Provider} (hbuilt : Built p changes q) :
    q.identity = p.identity := by
  apply eq_of_built _ hbuilt
  rintro p change q hstep
  cases hstep <;> rfl

namespace Event

theorem next_register (world : World σ) (y : Provider × σ) :
    register.next world y =
      ((y.1.register.run world y.2).1.2, (y.1.register.run world y.2).2) := by
  simp only [register, next, perform, Operation.perform, Script.run_bind, Script.run_done]

/-- Every event but a registration leaves the identity as it is. -/
theorem identity_next (world : World σ) {e : Event} (he : e ≠ register) (y : Provider × σ) :
    (e.next world y).1.identity = y.1.identity := by
  cases e with
  | operation o =>
      cases o with
      | set s => cases s <;> rfl
      | build b => exact identity_built (built_build b y.1)
      | register => exact absurd rfl he
      | close => rfl
  | task t o => rw [next, perform, Script.run_bind, Script.run_done]
  | callback draw headers body resolution =>
      rw [next, perform, Script.run_bind, Script.run_done]

theorem attempts_cons (world : World σ) {e : Event} (he : e ≠ register) (rest : List Event)
    (y : Provider × σ) : attempts world (e :: rest) y = attempts world rest (e.next world y) := by
  rw [attempts]
  exact fun h => he h

/-- The state in which the first registration was attempted that the engine has accepted. -/
def firstAccepted? (world : World σ) (events : List Event) (y : Provider × σ) :
    Option (Provider × σ) :=
  (attempts world events y).find? (isAccepted world)

/-- The identity is written by the first registration that the engine accepts, unless it has been
written before. -/
theorem identity_after (world : World σ) (events : List Event) (y : Provider × σ) :
    (after world events y).1.identity =
      y.1.identity.or ((firstAccepted? world events y).bind fun b => b.1.told?) := by
  -- what is written stays, so of all attempts only the first accepted one counts
  induction events generalizing y with
  | nil => exact (Option.or_none).symm
  | cons e rest ih =>
      rw [after, ih]
      by_cases he : e = register
      · subst he
        rw [next_register, identity_register]
        change _ = y.1.identity.or (((y :: attempts world rest _).find? _).bind _)
        by_cases haccepted : isAccepted world y
        · rw [if_pos haccepted, List.find?_cons_of_pos haccepted]
          obtain ⟨d, hd, -⟩ := isAccepted_iff.mp haccepted
          rw [Option.bind_some, told?_of_descriptor hd]
          cases y.1.identity <;> rfl
        · rw [if_neg haccepted, List.find?_cons_of_neg haccepted, next_register]
          rfl
      · rw [identity_next world he, firstAccepted?, firstAccepted?, attempts_cons world he]

theorem told_of_firstAccepted? {world : World σ} {events : List Event} {y b : Provider × σ}
    (h : firstAccepted? world events y = some b) :
    ∃ nameSpace version, b.1.nameSpace = some nameSpace ∧ b.1.version = some version ∧
      b.1.told? = some ⟨nameSpace, version, b.1.store⟩ := by
  obtain ⟨d, hd, -⟩ := isAccepted_iff.mp (List.find?_some h)
  obtain ⟨-, -, hnameSpace, hversion⟩ := descriptor_eq_ok hd
  exact ⟨_, _, hnameSpace, hversion, told?_of_descriptor hd⟩

end Event

/-- Callbacks and background tasks have no identity to work with: a callback that can be read has an
answer that says so, and no call comes to a store. -/
structure Unregistered (p : Provider) : Prop where
  identity : p.identity = none
  stored : ∀ call, p.taskStore.perform call = .done (call.refuse .notRegistered)
  answered : ∀ draw headers body e, Envelope.Carries body e → ∀ procedure : Procedure,
    p.carryOut draw headers body (.handler procedure) =
      .done (Outcome.response (.failed .notRegistered))

/-- Callbacks and background tasks work with an identity. -/
structure RegisteredAs (p : Provider) (i : Identity) : Prop where
  identity : p.identity = some i
  stored : ∀ call, p.taskStore.perform call = (i.entityStore p.client).perform call
  answered : ∀ draw headers body e, Envelope.Carries body e → ∀ procedure : Procedure,
    p.carryOut draw headers body (.handler procedure) =
      (procedure.handler.call
        (Procedure.surroundings procedure.operation p.client draw headers i) e).bind
          fun o => .done o.response

theorem unregistered_of_identity {p : Provider} (h : p.identity = none) : p.Unregistered where
  identity := h
  stored call := by rw [taskStore, h, Identity.registeredStore, EntityStore.failing]
  answered draw headers body e he procedure := by
    rw [carryOut, Procedure.answer_of_carries _ _ _ _ he, h]

theorem registeredAs_of_identity {p : Provider} {i : Identity} (h : p.identity = some i) :
    p.RegisteredAs i where
  identity := h
  stored call := by rw [taskStore, h, Identity.registeredStore]
  answered draw headers body e he procedure := by
    rw [carryOut, Procedure.answer_of_carries _ _ _ _ he, h]

open Event

theorem identity_after_fresh (world : World σ) (events : List Event) (c : Config) (x : σ) :
    (after world events (fresh c, x)).1.identity =
      (firstAccepted? world events (fresh c, x)).bind fun b => b.1.told? := by
  rw [identity_after]
  exact Option.none_or

/-- At every point of a run the identity is that of the first registration that the engine has
accepted, and there is none as long as it has accepted none. A registration that the engine does not
accept fails and changes nothing, and without a description it sends nothing. -/
theorem identity_of_first_accepted (world : World σ) (c : Config) (x : σ) (events : List Event) :
    let y := after world events (fresh c, x)
    (y.1.Unregistered ↔ ∀ a ∈ attempts world events (fresh c, x), ¬ isAccepted world a) ∧
    (∀ b, firstAccepted? world events (fresh c, x) = some b →
      ∃ nameSpace version, b.1.nameSpace = some nameSpace ∧ b.1.version = some version ∧
        y.1.RegisteredAs ⟨nameSpace, version, b.1.store⟩) ∧
    (∀ f, y.1.descriptor = .error f → y.1.register = .done (.error f, y.1)) ∧
    (¬ isAccepted world y → ∃ f, (y.1.register.run world y.2).1 = (.error f, y.1)) := by
  intro y
  have hidentity := identity_after_fresh world events c x
  refine ⟨?_, ?_, fun f => register_of_error, run_register_of_not_accepted⟩
  · rw [← List.find?_eq_none]
    constructor
    · intro h
      rw [h.identity] at hidentity
      cases hfirst : (attempts world events (fresh c, x)).find? (isAccepted world) with
      | none => rfl
      | some b =>
          obtain ⟨_, _, -, -, htold⟩ := told_of_firstAccepted? hfirst
          rw [firstAccepted?, hfirst, Option.bind_some, htold] at hidentity
          cases hidentity
    · intro h
      rw [firstAccepted?, h] at hidentity
      exact unregistered_of_identity hidentity
  · intro b hb
    obtain ⟨nameSpace, version, hnameSpace, hversion, htold⟩ := told_of_firstAccepted? hb
    rw [hb, Option.bind_some, htold] at hidentity
    exact ⟨nameSpace, version, hnameSpace, hversion, registeredAs_of_identity hidentity⟩

/-- A registration without a description, one that is accepted, and one under another name. -/
def registrations : List Event :=
  Event.register :: prepared.map Event.operation ++
    [Event.register, .operation (.set (.nameSpace "other")), Event.register]

theorem identity_of_first_accepted_again :
    (Event.after agreeable registrations (fresh nearby, ())).1.RegisteredAs
      ⟨"files", "v1", none⟩ := by
  obtain ⟨-, haccepted, -, -⟩ := identity_of_first_accepted agreeable nearby () registrations
  have htold : ((firstAccepted? agreeable registrations (fresh nearby, ())).map fun b =>
      (b.1.nameSpace, b.1.version, b.1.store.isNone)) = some (some "files", some "v1", true) := by
    decide +kernel
  obtain ⟨b, hb, htold⟩ := Option.map_eq_some_iff.mp htold
  obtain ⟨nameSpace, version, hnameSpace, hversion, hregistered⟩ := haccepted b hb
  rw [hnameSpace, hversion] at htold
  cases hstore : b.1.store with
  | none =>
      rw [hstore] at htold hregistered
      cases htold
      exact hregistered
  | some store =>
      rw [hstore] at htold
      cases htold

end IntentProvider.Provider
