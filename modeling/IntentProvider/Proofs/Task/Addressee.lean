import IntentProvider.Proofs.Engine.Call
import IntentProvider.Proofs.Program.World
import IntentProvider.Proofs.Task.Course

/-!
What a task writes to an engine, and to whom. Every write of an operation is about the identity that
the reply to the read before it names. Where the reply to a read leaves out the kind, the writes are
about an entity without a kind; only for an entity that is made is the kind filled in.
-/

namespace IntentProvider.Task

open IntentProvider.Client
open IntentProvider.EntityStore
open IntentProvider.Http

/-- An operation of a task with what it has exchanged with its surroundings. -/
structure Episode where
  before : Task
  operation : Operation
  log : List (Exchange Effect.Answer)
  result : Operation.Answer
  after : Task

section Episodes

variable {σ : Type} (s : EntityStore) (world : (q : Effect) → σ → q.Answer × σ)

def episode (o : Operation) (t : Task) (x : σ) : Episode × σ :=
  let activity := s.performScript (o.script t)
  let last := activity.run world x
  (⟨t, o, activity.exchanges world x, last.1.1, last.1.2⟩, last.2)

/-- Operations one after the other, each on the handle that the one before it has left. -/
def episodes : List Operation → Task → σ → List Episode
  | [], _, _ => []
  | o :: rest, t, x =>
      let next := episode s world o t x
      next.1 :: episodes rest next.1.after next.2

end Episodes

namespace Episode

def Sends (episode : Episode) (q : Request) : Prop :=
  ∃ i ∈ episode.log, i.question = .send q

def Writes (episode : Episode) (q : Request) : Prop :=
  episode.Sends q ∧ q.method ∈ [.put, .patch, .delete]

theorem method_of_writes {episode : Episode} {q : Request} (h : episode.Writes q) :
    q.method ≠ .get := by
  intro hget
  have hwrite := h.2
  rw [hget] at hwrite
  revert hwrite
  decide

/-- A successful reply to a request with some method says that there is an entity. -/
def Receives (episode : Episode) (method : Method) (e : Entity) : Prop :=
  ∃ q reply, q.method = method ∧ ⟨.send q, .ok reply⟩ ∈ episode.log ∧ reply.isSuccess ∧
    reply.decode? Entity = some e

/-- The replies do not contradict the identity that they are about, but may leave out the kind. -/
structure Consistent (episode : Episode) : Prop where
  fetched : ∀ r e, episode.before.reference = some r → episode.Receives .get e →
    e.metadata.uuid = r.uuid ∧ (e.metadata.kind = r.kind ∨ e.metadata.kind = "")
  made : ∀ e, episode.Receives .post e →
    e.metadata.kind = episode.before.name ∨ e.metadata.kind = ""

end Episode

namespace Operation

variable {o : Operation} {t : Task}

theorem target?_of_mem_writes {e : Entity} {call : StoreCall} (h : call ∈ o.writes t e) :
    call.target? = some e.reference := by
  unfold writes at h
  split at h
  · split at h
    · cases List.mem_singleton.mp h
      rfl
    · rcases List.mem_pair.mp h with rfl | rfl <;> rfl
  · rcases List.mem_pair.mp h with rfl | rfl <;> rfl
  · cases List.mem_singleton.mp h
    rfl
  · cases List.mem_singleton.mp h
    rfl
  · cases h

theorem first?_of_reference {r : Reference} (hr : t.reference = some r) (o : Operation) :
    o.first? t = some (.get r) := by
  cases o <;> simp [first?, hr]

theorem kind_of_first? {kind : String} {spec extension : Json.Document}
    (h : o.first? t = some (.create kind spec extension)) : kind = t.name := by
  rcases t with ⟨name, _, _ | r⟩
  · cases o <;> cases h
    rfl
  · cases o <;> cases h

end Operation

/-- The entity of the task is of the kind that the task has given its name to. -/
def Named (t : Task) : Prop :=
  ∀ r, t.reference = some r → r.kind = t.name

section Engine

variable {σ : Type} {world : (q : Effect) → σ → q.Answer × σ} {c : Client}
  {nameSpace version : String} {t : Task} {o : Operation} {x : σ} {u : Episode}
  (hu : u = (episode (engine c nameSpace version) world o t x).1)

include hu

theorem carriesOut_episode {call : StoreCall} (hcall : o.first? t = some call) :
    CarriesOut ((engine c nameSpace version).answer world) x t call (o.writes t) o.shows
        (o.script t) ∧
      u.after =
        ((o.script t).run ((engine c nameSpace version).answer world) x).1.2 := by
  subst hu
  rw [episode, performScript, Script.run_interpret]
  exact ⟨Operation.carriesOut_script hcall, rfl⟩

/-- Before a write the first call of the operation has brought an entity, and the write is about
that entity. -/
theorem exists_first_of_sends {call : StoreCall} (hcall : o.first? t = some call) {q : Request}
    (hq : u.Sends q) (hmethod : q.method ≠ method call) :
    ∃ e y a, ((engine c nameSpace version).answer world call y).1 = .ok a ∧
      Exchange.entity? ⟨call, .ok a⟩ = some e ∧
      ((engine c nameSpace version).perform call).exchanges world y ⊆ u.log ∧
      c.Concerns nameSpace version e.reference q := by
  obtain ⟨⟨e, hbrings, hcourse⟩, -⟩ := carriesOut_episode hu hcall
  subst hu
  obtain ⟨i, hi, hquestion⟩ := hq
  obtain ⟨made, y, hmade, hi⟩ := Script.exists_of_mem_exchanges_interpret hi
  -- the request belongs to some call: not to the first one, by its method, so to a write, and
  -- then the first one has not failed
  rcases hcourse.untilFailure.first_or_later hmade with
    rfl | ⟨hwrite, ⟨_, answer⟩, hfirst, rfl, hnone⟩
  · exact absurd (method_of_perform hi hquestion) hmethod
  · obtain ⟨y, hanswer, hsubset⟩ :=
      Script.exists_exchanges_subset_interpret (List.mem_of_mem_head? hfirst)
    rcases answer with f | a
    · cases hnone
    · exact ⟨e, y, a, hanswer.symm, hbrings _ hfirst rfl, hsubset,
        concerns_of_perform (Operation.target?_of_mem_writes hwrite) hi hquestion⟩

/-- The writes of a task that has an entity are about what the engine has said of that entity. -/
theorem exists_fetched_of_sends {r : Reference} (hr : t.reference = some r) {q : Request}
    (hq : u.Sends q) (hmethod : q.method ≠ .get) :
    ∃ e, u.Receives .get e ∧ c.Concerns nameSpace version e.reference q := by
  obtain ⟨e, y, a, hok, hentity, hsubset, hconcerns⟩ :=
    exists_first_of_sends hu (Operation.first?_of_reference hr o) hq hmethod
  cases hentity
  obtain ⟨p, reply, hp, hmem, hsuccess, hdecode⟩ := exists_reply_of_get hok
  exact ⟨e, ⟨p, reply, hp, hsubset hmem, hsuccess, hdecode⟩, hconcerns⟩

/-- A task keeps its name in an episode, and an identity that it has afterwards it had before or is
that of an entity that the engine has made for it. -/
theorem exists_made_of_episode :
    u.after.name = t.name ∧ ∀ r, u.after.reference = some r → t.reference = some r ∨
      ∃ e, u.Receives .post e ∧ r = (withKind t.name e).reference := by
  rcases hcall : o.first? t with _ | call
  · rw [hu, episode, performScript, Operation.script_of_first?_eq_none hcall]
    exact ⟨rfl, fun r hr => .inl hr⟩
  · obtain ⟨⟨_, -, hcourse⟩, hafter⟩ := carriesOut_episode hu hcall
    rw [hafter, hcourse.handle]
    refine ⟨rfl, ?_⟩
    intro r hr
    rcases Exchange.exists_create_of_foldl_kept hr with h | ⟨kind, spec, extension, e, he, rfl⟩
    · exact .inl h
    · obtain ⟨y, hok, hsubset⟩ := Script.exists_exchanges_subset_interpret he
      obtain ⟨q, reply, made, hq, hmem, hsuccess, hdecode, rfl⟩ := exists_reply_of_create hok.symm
      have hkind : kind = t.name := by
        rcases hcourse.untilFailure.first_or_later he with hfirst | ⟨hwrite, -⟩
        · exact Operation.kind_of_first? (hcall.trans (congrArg some hfirst.symm))
        · cases Operation.target?_of_mem_writes hwrite
      subst hu hkind
      exact .inr ⟨made, ⟨q, reply, hq, hsubset hmem, hsuccess, hdecode⟩, rfl⟩

theorem named_episode (ht : t.Named) (hconsistent : u.Consistent) : u.after.Named := by
  obtain ⟨hname, hreference⟩ := exists_made_of_episode hu
  intro r hr
  rw [hname]
  rcases hreference r hr with h | ⟨e, he, rfl⟩
  · exact ht r h
  · subst hu
    exact kind_withKind (hconsistent.made e he)

end Engine

section Run

variable {σ : Type} {world : (q : Effect) → σ → q.Answer × σ} {c : Client}
  {nameSpace version : String}

theorem exists_of_mem_episodes {ops : List Operation} {t : Task} (ht : t.Named) {x : σ}
    (hconsistent : ∀ u ∈ episodes (engine c nameSpace version) world ops t x, u.Consistent)
    {u : Episode} (hu : u ∈ episodes (engine c nameSpace version) world ops t x) :
    ∃ o t' y, u = (episode (engine c nameSpace version) world o t' y).1 ∧ t'.Named ∧
      t'.name = t.name := by
  -- by induction on the operations, with the kind of the entity as the invariant
  induction ops generalizing t x with
  | nil => cases hu
  | cons o rest ih =>
      rcases List.mem_cons.mp hu with rfl | hu
      · exact ⟨o, t, x, rfl, ht, rfl⟩
      · have hnamed := named_episode rfl ht (hconsistent _ List.mem_cons_self)
        obtain ⟨o', t', y, hepisode, ht', hname⟩ :=
          ih hnamed (fun u hu => hconsistent u (List.mem_cons_of_mem _ hu)) hu
        exact ⟨o', t', y, hepisode, ht', hname.trans (exists_made_of_episode rfl).1⟩

/-- Every write of a task that has an entity is about that entity, if the reply to the read before
it says of which kind the entity is. If the reply does not, the write is about the entity with the
same identifier and no kind. -/
theorem writes_to_what_is_fetched {name : String} {extension : Json.Document}
    {ops : List Operation} {x : σ}
    (hconsistent : ∀ u ∈ episodes (engine c nameSpace version) world ops { name, extension } x,
      u.Consistent)
    {u : Episode} (hu : u ∈ episodes (engine c nameSpace version) world ops { name, extension } x)
    {r : Reference} (hr : u.before.reference = some r) {q : Request} (hq : u.Writes q) :
    r.kind = name ∧ ∃ e, u.Receives .get e ∧
      (e.metadata.kind ≠ "" → c.Concerns nameSpace version r q) ∧
      (e.metadata.kind = "" → c.Concerns nameSpace version ⟨r.uuid, ""⟩ q) := by
  obtain ⟨uuid, kind⟩ := r
  have hconsistent' := hconsistent u hu
  have hfresh : Named { name, extension } := by rintro r ⟨⟩
  obtain ⟨o, t, y, rfl, hnamed, hname⟩ := exists_of_mem_episodes hfresh hconsistent hu
  obtain ⟨e, he, hconcerns⟩ := exists_fetched_of_sends rfl hr hq.1 (Episode.method_of_writes hq)
  obtain ⟨huuid, hkind⟩ := hconsistent'.fetched _ e hr he
  have hreference : e.reference = ⟨uuid, e.metadata.kind⟩ :=
    congrArg (Reference.mk · e.metadata.kind) huuid
  rw [hreference] at hconcerns
  refine ⟨(hnamed _ hr).trans hname, e, he, ?_, ?_⟩
  · intro hnot
    rw [hkind.resolve_right hnot] at hconcerns
    exact hconcerns
  · intro hempty
    rw [hempty] at hconcerns
    exact hconcerns

end Run

/-! An engine that never says of which kind an entity is. -/

section Forgetful

def kindless : Reply where
  status := 200
  body := "\x7b\"metadata\":\x7b\"uuid\":\"u\"\x7d\x7d".toUTF8

/-- Every request succeeds with the same entity, whose kind is left out. -/
def forgetful : World Unit :=
  World.answering (.ok kindless)

def loopback : Client where
  baseUrl := "http://[::1]:3000"
  key := "k"

def restless : List Episode :=
  episodes (engine loopback "files" "v1") forgetful [.start, .stop] { name := "beat" } ()

theorem reference_of_receives {s : EntityStore} {ops : List Operation} {t : Task} {u : Episode}
    (hu : u ∈ episodes s forgetful ops t ()) {method : Method} {e : Entity}
    (he : u.Receives method e) : e.reference = ⟨"u", ""⟩ := by
  induction ops generalizing t with
  | nil => cases hu
  | cons o rest ih =>
      rcases List.mem_cons.mp hu with rfl | hu
      · obtain ⟨q, reply, -, hmem, -, hdecode⟩ := he
        obtain ⟨y, hreply⟩ := Script.exists_answer_of_mem_exchanges hmem
        cases hreply
        have hreference : (kindless.decode? Entity).map Entity.reference = some ⟨"u", ""⟩ := by
          decide +kernel
        rw [hdecode] at hreference
        exact Option.some.inj hreference
      · exact ih hu

theorem consistent_restless : ∀ u ∈ restless, u.Consistent := by
  have hbefore : restless.all fun u => u.before.reference.all (· == ⟨"u", "beat"⟩) := by
    decide +kernel
  intro u hu
  constructor
  · intro r e hr he
    have hthe := List.all_eq_true.mp hbefore u hu
    rw [hr] at hthe
    cases beq_iff_eq.mp hthe
    have hreference := reference_of_receives hu he
    exact ⟨congrArg Reference.uuid hreference, .inr (congrArg Reference.kind hreference)⟩
  · intro e he
    exact .inr (congrArg Reference.kind (reference_of_receives hu he))

/-- A put whose path is not that of an entity. -/
def putElsewhere (r : Reference) (i : Exchange Effect.Answer) : Bool :=
  match i.question with
  | .send q =>
      q.method == .put &&
        (loopback.request .put (entityPath "files" "v1" r) none).toOption.map (·.url) != some q.url
  | _ => false

theorem not_concerns_of_putElsewhere {r : Reference} {i : Exchange Effect.Answer}
    (h : putElsewhere r i) :
    ∃ q, i.question = .send q ∧ q.method = .put ∧ ¬ loopback.Concerns "files" "v1" r q := by
  rcases i with ⟨q | address | ⟨name, call⟩, answer⟩
  · obtain ⟨hmethod, hurl⟩ := Bool.and_eq_true_iff.mp h
    have hmethod : q.method = .put := beq_iff_eq.mp hmethod
    refine ⟨q, rfl, hmethod, ?_⟩
    intro hconcerns
    rw [Concerns, hmethod] at hconcerns
    change loopback.request _ _ _ = _ at hconcerns
    rw [hmethod] at hconcerns
    exact absurd (parts_of_request hconcerns).2 (bne_iff_ne.mp hurl)
  · cases h
  · cases h

/-- There is a write that is about another identity than that of the entity of the task. -/
theorem exists_put_elsewhere : ∃ u ∈ restless, u.before.reference = some ⟨"u", "beat"⟩ ∧
    ∃ q, u.Writes q ∧ ¬ loopback.Concerns "files" "v1" ⟨"u", "beat"⟩ q := by
  have hsome : restless.any fun u => u.before.reference == some ⟨"u", "beat"⟩ &&
      u.log.any (putElsewhere ⟨"u", "beat"⟩) := by
    decide +kernel
  obtain ⟨u, hu, hboth⟩ := List.any_eq_true.mp hsome
  obtain ⟨hbefore, hput⟩ := Bool.and_eq_true_iff.mp hboth
  obtain ⟨i, hi, hput⟩ := List.any_eq_true.mp hput
  obtain ⟨q, hq, hmethod, hnot⟩ := not_concerns_of_putElsewhere hput
  exact ⟨u, hu, beq_iff_eq.mp hbefore, q, ⟨⟨i, hi, hq⟩, by rw [hmethod]; decide⟩, hnot⟩

/-- Instead of the entity of the task, one without a kind is written. -/
theorem writes_to_what_is_fetched_kindless :
    (∀ u ∈ restless, u.Consistent) ∧ ∃ u ∈ restless, u.before.reference = some ⟨"u", "beat"⟩ ∧
      ∃ q, u.Writes q ∧ loopback.Concerns "files" "v1" ⟨"u", ""⟩ q := by
  obtain ⟨u, hu, hbefore, q, hq, -⟩ := exists_put_elsewhere
  obtain ⟨-, e, he, -, hempty⟩ := writes_to_what_is_fetched consistent_restless hu hbefore hq
  exact ⟨consistent_restless, u, hu, hbefore, q, hq,
    hempty (congrArg Reference.kind (reference_of_receives hu he))⟩

theorem not_written_where_kindless :
    ¬ ∀ (c : Client) (nameSpace version : String) (t : Task) (ops : List Operation)
        (world : (q : Effect) → Unit → q.Answer × Unit),
      t.reference = none →
      (∀ u ∈ episodes (engine c nameSpace version) world ops t (), u.Consistent) →
      ∀ u ∈ episodes (engine c nameSpace version) world ops t (),
        ∀ r q, u.before.reference = some r → u.Writes q → c.Concerns nameSpace version r q := by
  intro h
  obtain ⟨u, hu, hbefore, q, hq, hnot⟩ := exists_put_elsewhere
  exact hnot (h loopback "files" "v1" { name := "beat" } [.start, .stop] forgetful rfl
    consistent_restless u hu _ q hbefore hq)

end Forgetful

end IntentProvider.Task
