import IntentProvider.Proofs.Program.Exchange
import IntentProvider.Proofs.Store.History
import IntentProvider.Proofs.Task.Operation

/-!
The course of an operation over any store. Whatever the store answers, and whoever else writes it in
the meantime, an operation makes the calls of its plan one after the other until one fails, and ends
with that failure. The plan is a call that brings the entity of the task, followed by writes that
present what this call has brought. The handle moves when an entity is made or deleted, even if a
later call fails.
-/

namespace IntentProvider

open IntentProvider.Json

namespace Exchange

def failure? (x : Exchange StoreCall.Answer) : Option Failure :=
  match x.answer with
  | .error f => some f
  | .ok _ => none

/-- The entity that a call has brought. -/
def entity? : Exchange StoreCall.Answer → Option Entity
  | ⟨.create .., .ok e⟩ => some e
  | ⟨.get _, .ok e⟩ => some e
  | _ => none

/-- The identity that a handle keeps after a call, in place of the one that it kept before. -/
def kept (before : Option Reference) : Exchange StoreCall.Answer → Option Reference
  | ⟨.create .., .ok e⟩ => some e.reference
  | ⟨.delete _, .ok ()⟩ => none
  | _ => before

theorem kept_error (before : Option Reference) (call : StoreCall) (f : Failure) :
    kept before ⟨call, .error f⟩ = before := by
  cases call <;> rfl

/-- An identity that is kept in the end was there before or is that of an entity that was made. -/
theorem exists_create_of_foldl_kept {log : List (Exchange StoreCall.Answer)}
    {before : Option Reference} {r : Reference} (h : log.foldl kept before = some r) :
    before = some r ∨ ∃ kind spec extension e,
      ⟨.create kind spec extension, .ok e⟩ ∈ log ∧ r = e.reference := by
  induction log generalizing before with
  | nil => exact .inl h
  | cons x rest ih =>
      rcases ih h with hkept | ⟨kind, spec, extension, e, he, hr⟩
      · unfold kept at hkept
        split at hkept
        · cases hkept
          exact .inr ⟨_, _, _, _, List.mem_cons_self, rfl⟩
        · cases hkept
        · exact .inl hkept
      · exact .inr ⟨kind, spec, extension, e, List.mem_cons_of_mem _ he, hr⟩

end Exchange

/-- Calls are made one after the other until one fails, which ends them with its failure. If none
fails they end with a success. -/
structure UntilFailure {α : Type} (calls : List StoreCall) (success : α)
    (log : List (Exchange StoreCall.Answer)) (result : Except Failure α) : Prop where
  made : log.map (·.question) <+: calls
  earlier : ∀ x ∈ log.dropLast, x.failure? = none
  failed : ∀ x ∈ log, ∀ f, x.failure? = some f → result = .error f
  finished : (∀ x ∈ log, x.failure? = none) →
    log.map (·.question) = calls ∧ result = .ok success

namespace UntilFailure

variable {α : Type} {calls : List StoreCall} {success : α}
  {log : List (Exchange StoreCall.Answer)} {result : Except Failure α}

theorem nil (success : α) : UntilFailure [] success [] (.ok success) where
  made := List.prefix_rfl
  earlier := by simp
  failed := by simp
  finished _ := ⟨rfl, rfl⟩

theorem stop (calls : List StoreCall) (success : α) (call : StoreCall) (f : Failure) :
    UntilFailure (call :: calls) success [⟨call, .error f⟩] (.error f) where
  made := ⟨calls, rfl⟩
  earlier := by simp
  failed := by
    intro x hx g hg
    cases List.mem_singleton.mp hx
    cases hg
    rfl
  finished hall := by
    cases hall _ (List.mem_singleton_self _)

theorem cons (h : UntilFailure calls success log result) (call : StoreCall) (a : call.Result) :
    UntilFailure (call :: calls) success (⟨call, .ok a⟩ :: log) result where
  made := List.prefix_cons_iff.mpr (.inr ⟨_, rfl, h.made⟩)
  earlier := by
    cases log with
    | nil => simp
    | cons y ys =>
        intro x hx
        rw [List.dropLast_cons_cons] at hx
        rcases List.mem_cons.mp hx with rfl | hx
        · rfl
        · exact h.earlier x hx
  failed := by
    intro x hx f hf
    rcases List.mem_cons.mp hx with rfl | hx
    · cases hf
    · exact h.failed x hx f hf
  finished hall := by
    obtain ⟨hcalls, hresult⟩ := h.finished fun x hx => hall x (List.mem_cons_of_mem _ hx)
    exact ⟨congrArg (call :: ·) hcalls, hresult⟩

/-- The calls after the first are made only if the first has not failed. -/
theorem first_or_later {call : StoreCall} (h : UntilFailure (call :: calls) success log result)
    {x : Exchange StoreCall.Answer} (hx : x ∈ log) :
    x.question = call ∨ x.question ∈ calls ∧
      ∃ first ∈ log.head?, first.question = call ∧ first.failure? = none := by
  cases log with
  | nil => cases hx
  | cons first rest =>
      obtain ⟨hfirst, hrest⟩ := List.cons_prefix_cons.mp h.made
      rcases List.mem_cons.mp hx with rfl | hx
      · exact .inl hfirst
      · refine .inr ⟨hrest.subset (List.mem_map_of_mem hx), first, rfl, hfirst, ?_⟩
        apply h.earlier
        rw [List.dropLast_cons_of_ne_nil (List.ne_nil_of_mem hx)]
        exact List.mem_cons_self

theorem map {β : Type} (h : UntilFailure calls success log result) (f : α → β) :
    UntilFailure calls (f success) log (result.map f) where
  made := h.made
  earlier := h.earlier
  failed x hx g hg := by
    rw [h.failed x hx g hg]
    rfl
  finished hall := by
    obtain ⟨hcalls, hresult⟩ := h.finished hall
    exact ⟨hcalls, by rw [hresult]; rfl⟩

end UntilFailure

namespace Task

open IntentProvider.MemoryStore

section Course

variable {σ α : Type}

/-- A script makes some calls until one fails, and leaves the handle with the identity that the
calls have given to it. -/
structure Course (answer : (call : StoreCall) → σ → call.Answer × σ) (x : σ) (t : Task)
    (calls : List StoreCall) (success : α) (script : StoreScript (Outcome α)) : Prop where
  untilFailure : UntilFailure calls success (script.exchanges answer x) (script.run answer x).1.1
  handle : (script.run answer x).1.2 =
    { t with reference := (script.exchanges answer x).foldl Exchange.kept t.reference }

/-- The first call of a script has brought an entity, unless it has failed. -/
def Brings (answer : (call : StoreCall) → σ → call.Answer × σ) (x : σ)
    (script : StoreScript (Outcome α)) (e : Entity) : Prop :=
  ∀ first ∈ (script.exchanges answer x).head?, first.failure? = none → first.entity? = some e

/-- A script carries out a plan: its first call brings an entity, and the writes for that entity
follow. -/
def CarriesOut (answer : (call : StoreCall) → σ → call.Answer × σ) (x : σ) (t : Task)
    (call : StoreCall) (writes : Entity → List StoreCall) (success : Entity → α)
    (script : StoreScript (Outcome α)) : Prop :=
  ∃ e, Brings answer x script e ∧ Course answer x t (call :: writes e) (success e) script

variable {answer : (call : StoreCall) → σ → call.Answer × σ} {x : σ} {t : Task}
  {calls : List StoreCall} {success : α}

theorem course_done (success : α) : Course answer x t [] success (.done (.ok success, t)) where
  untilFailure := .nil success
  handle := rfl

/-- A script that ends if its first call fails, and goes on with the others if not. -/
theorem course_ask {call : StoreCall} {next : call.Answer → StoreScript (Outcome α)}
    (hfailed : ∀ f, next (.error f) = .done (.error f, t))
    (hok : ∀ a, (answer call x).1 = .ok a →
      Course answer (answer call x).2
        { t with reference := Exchange.kept t.reference ⟨call, .ok a⟩ } calls success
        (next (.ok a))) :
    Course answer x t (call :: calls) success (.ask call next) := by
  rcases hanswer : (answer call x).1 with f | a
  · constructor
    · rw [Script.exchanges_ask, Script.run_ask, hanswer, hfailed f]
      exact .stop calls success call f
    · rw [Script.exchanges_ask, Script.run_ask, hanswer, hfailed f, Script.exchanges_done,
        List.foldl_cons, Exchange.kept_error]
      rfl
  · obtain ⟨huntil, hhandle⟩ := hok a hanswer
    constructor
    · rw [Script.exchanges_ask, Script.run_ask, hanswer]
      exact huntil.cons call a
    · rw [Script.exchanges_ask, Script.run_ask, hanswer, List.foldl_cons]
      exact hhandle

theorem brings_ask {call : StoreCall} {next : call.Answer → StoreScript (Outcome α)} {e : Entity}
    (h : ∀ a, (answer call x).1 = .ok a → Exchange.entity? ⟨call, .ok a⟩ = some e) :
    Brings answer x (.ask call next) e := by
  intro first hfirst hnone
  rw [Script.exchanges_ask] at hfirst
  cases hfirst
  rcases hanswer : (answer call x).1 with f | a
  · rw [hanswer] at hnone
    cases hnone
  · exact h a hanswer

theorem Course.map {β : Type} {script : StoreScript (Outcome α)}
    (h : Course answer x t calls success script) (f : α → β) :
    Course answer x t calls (f success) (script.bind fun o => .done (o.1.map f, o.2)) := by
  constructor
  · rw [Script.exchanges_bind_done, Script.run_bind]
    exact h.untilFailure.map f
  · rw [Script.exchanges_bind_done, Script.run_bind]
    exact h.handle

theorem Brings.map {β : Type} {script : StoreScript (Outcome α)} {e : Entity}
    (h : Brings answer x script e) (f : α → β) :
    Brings answer x (script.bind fun o => .done (o.1.map f, o.2)) e := by
  rw [Brings, Script.exchanges_bind_done]
  exact h

theorem CarriesOut.map {β : Type} {call : StoreCall} {writes : Entity → List StoreCall}
    {success : Entity → α} {script : StoreScript (Outcome α)}
    (h : CarriesOut answer x t call writes success script) (f : α → β) :
    CarriesOut answer x t call writes (fun e => f (success e))
      (script.bind fun o => .done (o.1.map f, o.2)) := by
  obtain ⟨e, hbrings, hcourse⟩ := h
  exact ⟨e, hbrings.map f, hcourse.map f⟩

theorem course_publish (e : Entity) (status : Document) :
    Course answer x t [.updateStatus e.metadata status] () (t.publish e status) :=
  course_ask (fun _ => rfl) fun _ _ => course_done ()

theorem course_enter (e : Entity) (mode : Mode) :
    Course answer x t
      [.updateSpec e.metadata (stateDocument mode.specState),
        .updateStatus e.metadata (stateDocument mode.statusState)] () (t.enter e mode) :=
  course_ask (fun _ => rfl) fun _ _ => course_publish e _

theorem course_delete (e : Entity) :
    Course answer x t [.delete e.reference] ()
      (.ask (.delete e.reference) fun
        | .error f => .done (.error f, t)
        | .ok () => .done (.ok (), { t with reference := none })) :=
  course_ask (fun _ => rfl) fun _ _ => course_done ()

/-- A script whose first call brings an entity, and which goes on with writes for that entity. -/
theorem carriesOut_ask {call : StoreCall} {next : call.Answer → StoreScript (Outcome α)}
    {writes : Entity → List StoreCall} {success : Entity → α} (brought : call.Result → Entity)
    (hbrought : ∀ a, Exchange.entity? ⟨call, .ok a⟩ = some (brought a))
    (hfailed : ∀ f, next (.error f) = .done (.error f, t))
    (hok : ∀ a y, Course answer y
      { t with reference := Exchange.kept t.reference ⟨call, .ok a⟩ } (writes (brought a))
      (success (brought a)) (next (.ok a))) :
    CarriesOut answer x t call writes success (.ask call next) := by
  rcases hanswer : (answer call x).1 with f | a
  -- a first call that fails is the only one, so it does not matter what it would have brought
  · have hnot : ∀ a, (answer call x).1 ≠ .ok a := by simp [hanswer]
    exact ⟨{}, brings_ask fun a ha => absurd ha (hnot a),
      course_ask hfailed fun a ha => absurd ha (hnot a)⟩
  · have hthe : ∀ a', (answer call x).1 = .ok a' → a' = a := by simp [hanswer]
    refine ⟨brought a, brings_ask fun a' ha => ?_, course_ask hfailed fun a' ha => ?_⟩
    · rw [hthe a' ha]
      exact hbrought a
    · rw [hthe a' ha]
      exact hok a _

theorem carriesOut_withEntity {r : Reference} (hr : t.reference = some r) (operation : String)
    {next : Entity → StoreScript (Outcome α)} {writes : Entity → List StoreCall}
    {success : Entity → α} (hnext : ∀ e y, Course answer y t (writes e) (success e) (next e)) :
    CarriesOut answer x t (.get r) writes success (t.withEntity operation next) := by
  simp only [withEntity, hr]
  exact carriesOut_ask id (fun _ => rfl) (fun _ => rfl) hnext

theorem carriesOut_start (hr : t.reference = none) :
    CarriesOut answer x t
      (.create t.name (stateDocument Mode.running.specState) t.extension)
      (fun e => [.updateStatus e.metadata (stateDocument Mode.running.statusState)])
      (fun _ => ()) t.start := by
  simp only [start, hr]
  exact carriesOut_ask id (fun _ => rfl) (fun _ => rfl) fun e _ => course_publish e _

end Course

namespace Operation

def ofMode : Mode → Operation
  | .running => start
  | .idle => stop

/-- The call that brings the entity of a task, unless the operation is refused. -/
def first? (t : Task) : Operation → Option StoreCall
  | start =>
      match t.reference with
      | none => some (.create t.name (stateDocument Mode.running.specState) t.extension)
      | some r => some (.get r)
  | _ => t.reference.map .get

def entering (e : Entity) (mode : Mode) : List StoreCall :=
  [.updateSpec e.metadata (stateDocument mode.specState),
    .updateStatus e.metadata (stateDocument mode.statusState)]

/-- The calls that follow once the entity of the task is there. -/
def writes (t : Task) (o : Operation) (e : Entity) : List StoreCall :=
  match o with
  | start =>
      match t.reference with
      | none => [.updateStatus e.metadata (stateDocument Mode.running.statusState)]
      | some _ => entering e .running
  | stop => entering e .idle
  | kill => [.delete e.reference]
  | update payload => [.updateStatus e.metadata (.singleton payloadField payload)]
  | entity => []

/-- What an operation shows of the entity in the end. -/
def shows (o : Operation) (e : Entity) : Option Entity :=
  match o with
  | entity => some e
  | _ => none

variable {σ : Type} {answer : (call : StoreCall) → σ → call.Answer × σ} {x : σ} {t : Task}

theorem script_of_first?_eq_none {o : Operation} (h : o.first? t = none) :
    o.script t = .done (.error (.noTask o.name t.name), t) := by
  rcases t with ⟨name, extension, _ | r⟩
  · cases o with
    | start => cases h
    | stop => rfl
    | kill => rfl
    | update payload => rfl
    | entity => rfl
  · cases o <;> cases h

theorem carriesOut_script {o : Operation} {call : StoreCall} (h : o.first? t = some call) :
    CarriesOut answer x t call (o.writes t) o.shows (o.script t) := by
  rcases hr : t.reference with _ | r
  · cases o with
    | start =>
        simp only [first?, hr, Option.some.injEq] at h
        subst h
        have hwrites : start.writes t = fun e =>
            [.updateStatus e.metadata (stateDocument Mode.running.statusState)] := by
          funext e
          simp only [writes, hr]
        rw [hwrites]
        exact (carriesOut_start hr).map fun _ => none
    | _ => simp [first?, hr] at h
  · have hcall : call = .get r := by
      cases o <;> simpa [first?, hr] using h.symm
    subst hcall
    cases o with
    | start =>
        have hwrites : start.writes t = fun e => entering e .running := by
          funext e
          simp only [writes, hr]
        rw [hwrites, script, start_eq_withEntity hr]
        exact (carriesOut_withEntity hr "start" fun e _ => course_enter e .running).map
          fun _ => none
    | stop =>
        exact (carriesOut_withEntity hr "stop" fun e _ => course_enter e .idle).map fun _ => none
    | kill =>
        exact (carriesOut_withEntity hr "kill" fun e _ => course_delete e).map fun _ => none
    | update payload =>
        exact (carriesOut_withEntity hr "update" fun e _ =>
          course_publish e (.singleton payloadField payload)).map fun _ => none
    | entity => exact (carriesOut_withEntity hr "read" fun e _ => course_done e).map some

end Operation

section Contended

variable {m : MemoryStore} {r : Reference} {e : Entity}

/-- A store in memory that others use as well. Before each call come those that the others make in
the meantime. -/
def contended (stamp : Stamp) (call : StoreCall)
    (x : MemoryStore × List (List (Stamp × StoreCall))) :
    call.Answer × MemoryStore × List (List (Stamp × StoreCall)) :=
  let next := (x.1.play (x.2.headD [])).answer stamp call
  (next.1, next.2, x.2.tail)

/-- A transition that has read one version of the entity, which others write before it does, ends in
a conflict, and the store stays as the others have left it. -/
theorem run_transition_overtaken {t : Task} (hr : t.reference = some r) (hm : m.Keyed)
    {first second : List (Stamp × StoreCall)} (he : (m.play first).lookup r = .ok e)
    {e' : Entity} (he' : ((m.play first).play second).lookup r = .ok e')
    (hv : e'.metadata.specVersion ≠ e.metadata.specVersion) (mode : Mode) (stamp : Stamp)
    (others : List (List (Stamp × StoreCall))) :
    ((Operation.ofMode mode).script t).run (contended stamp) (m, first :: second :: others) =
      ((.error (.versionConflict r.uuid
          (staleText e.metadata.specVersion e'.metadata.specVersion)), t),
        ((m.play first).play second, others)) := by
  have hfirst : (m.play first).Keyed := keyed_play hm first
  have hsecond : ((m.play first).play second).Keyed := keyed_play hfirst second
  have hread : e.reference = r := reference_of_lookup hfirst he
  have hwritten : e.reference = e'.reference := hread.trans (reference_of_lookup hsecond he').symm
  have hget : (m.play first).answer stamp (.get r) = (.ok e, m.play first) := by
    rw [answer, he]
  have hconflict := answer_updateSpec_of_stale stamp (holds_of_lookup hsecond he') hwritten
    (Ne.symm hv) (stateDocument mode.specState)
  have huuid : e.metadata.uuid = r.uuid := congrArg Reference.uuid hread
  have henter : (t.withEntity (Operation.ofMode mode).name fun e => t.enter e mode).run
      (contended stamp) (m, first :: second :: others) =
        ((.error (.versionConflict r.uuid
          (staleText e.metadata.specVersion e'.metadata.specVersion)), t),
          ((m.play first).play second, others)) := by
    simp only [withEntity, hr, Script.run_ask, contended, List.headD_cons, List.tail_cons, hget,
      enter, hconflict, Script.run_done, huuid]
  cases mode with
  | running =>
      rw [Operation.ofMode, Operation.script, Script.run_bind, start_eq_withEntity hr]
      exact congrArg (fun y => ((Operation.silent y.1), y.2)) henter
  | idle =>
      rw [Operation.ofMode, Operation.script, Script.run_bind, stop]
      exact congrArg (fun y => ((Operation.silent y.1), y.2)) henter

end Contended

/-- Over any store an operation makes the calls of its plan until one fails, and then ends with that
failure; an operation for which there is no first call is refused. Over a store in memory a
transition ends in a conflict if others write the spec after it has read the entity. -/
theorem ends_at_first_failure (o : Operation) (t : Task) :
    (∀ (σ : Type) (answer : (call : StoreCall) → σ → call.Answer × σ) (x : σ),
      (o.first? t = none → o.script t = .done (.error (.noTask o.name t.name), t)) ∧
      ∀ call, o.first? t = some call →
        CarriesOut answer x t call (o.writes t) o.shows (o.script t)) ∧
    ∀ mode, o = .ofMode mode → ∀ (m : MemoryStore) (r : Reference) (e e' : Entity)
      (first second : List (Stamp × StoreCall)) (others : List (List (Stamp × StoreCall)))
      (stamp : Stamp), m.Keyed → t.reference = some r → (m.play first).lookup r = .ok e →
      ((m.play first).play second).lookup r = .ok e' →
      e'.metadata.specVersion ≠ e.metadata.specVersion →
      (o.script t).run (contended stamp) (m, first :: second :: others) =
        ((.error (.versionConflict r.uuid
            (staleText e.metadata.specVersion e'.metadata.specVersion)), t),
          ((m.play first).play second, others)) := by
  refine ⟨fun σ answer x => ⟨Operation.script_of_first?_eq_none, fun call hcall =>
    Operation.carriesOut_script hcall⟩, ?_⟩
  rintro mode rfl m r e e' first second others stamp hm hr he he' hv
  exact run_transition_overtaken hr hm he he' hv mode stamp others

theorem ends_at_first_failure_overtaken :
    let e := newEntity (.epoch "u") "heartbeat" (stateDocument Mode.running.specState) {}
    let t : Task := { name := "heartbeat", reference := some e.reference }
    let bump := [(Stamp.epoch "", StoreCall.updateSpec e.metadata {})]
    (Operation.stop.script t).run (contended (.epoch ""))
        (MemoryStore.put {} e, [[], bump]) =
      ((.error (.versionConflict "u" "expected spec_version 1, found 2"), t),
        ((MemoryStore.put {} e).play bump, [])) := by
  intro e t bump
  have hm : (MemoryStore.put {} e).Keyed := keyed_insert keyed_empty rfl
  have htext : staleText 1 2 = "expected spec_version 1, found 2" := by decide
  rw [← htext]
  exact (ends_at_first_failure .stop t).2 .idle rfl (MemoryStore.put {} e) e.reference e
    (withSpec e {}) [] bump [] (.epoch "") hm rfl rfl rfl (by decide)

end Task

end IntentProvider
