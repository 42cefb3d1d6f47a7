import IntentProvider.Proofs.Map.Sorted
import IntentProvider.Proofs.Program.World
import IntentProvider.Server.Basic
import Mathlib.Data.List.Induction

/-!
What a server answers in the course of its life. The table is what has been registered so far; the
listener serves the table that stood when it was started, until it is closed. So every answer is
determined by what was registered before the last start that has taken effect.
-/

namespace IntentProvider

open IntentProvider.Http

namespace Route

/-- A route that serves its own text only. -/
def IsPlain (path : String) : Prop :=
  path.toList.head? = some '/' ∧ ∀ c ∈ path.toList, isCapture c = false

theorem serves_of_isPlain {route path : String} (h : IsPlain route)
    (hserves : serves route.toList path.toList) : path = route :=
  String.toList_inj.mp ((serves_iff_eq h.2).mp hserves)

end Route

namespace RouteTable

variable {H : Type} {t : RouteTable H}

theorem captured?_eq_none {path : String} (hplain : ∀ e ∈ t.routes.entries, Route.IsPlain e.1)
    (h : t.routes.get? path = none) : t.captured? path = none := by
  have hserving : (t.routes.entries.filter fun e => Route.serves e.1.toList path.toList) = [] := by
    rw [List.filter_eq_nil_iff]
    intro e he hserves
    have hpath := Route.serves_of_isPlain (hplain e he) hserves
    have hne := List.lookup_eq_none_iff.mp h e he
    rw [hpath, bne_self_eq_false] at hne
    cases hne
  rw [captured?, hserving]
  rfl

/-- Whether a request target is that of the health check, if there is one. -/
def isHealthCheck (t : RouteTable H) (target : String) : Bool :=
  t.healthCheck && pathOf target == healthCheckPath

variable {limit size : Nat} {method target : String}

theorem resolve_post {h : H} (hget : t.routes.get? (pathOf target) = some h) :
    t.resolve limit "POST" target size =
      if limit < size then .answer tooLarge else .handler h := by
  unfold resolve
  cases hhealthy : t.healthCheck && pathOf target == healthCheckPath <;> simp [hhealthy, hget]

theorem resolve_of_ne_post {h : H} (hget : t.routes.get? (pathOf target) = some h)
    (hhealthy : t.isHealthCheck target = false) (hmethod : method ≠ "POST") :
    t.resolve limit method target size = .answer (methodNotAllowed "POST") := by
  unfold resolve
  rw [isHealthCheck] at hhealthy
  simp [hhealthy, hget, hmethod]

theorem resolve_get (hhealthy : t.isHealthCheck target = true) :
    t.resolve limit "GET" target size = .answer health := by
  unfold resolve
  rw [isHealthCheck] at hhealthy
  simp [hhealthy]

theorem resolve_of_missing (hplain : ∀ e ∈ t.routes.entries, Route.IsPlain e.1)
    (hget : t.routes.get? (pathOf target) = none) (hhealthy : t.isHealthCheck target = false) :
    t.resolve limit method target size = .answer notFound := by
  unfold resolve
  rw [isHealthCheck] at hhealthy
  simp [hhealthy, hget, captured?_eq_none hplain hget]

end RouteTable

namespace Server

variable {H σ : Type}

/-- Something that happens to a server. -/
inductive Event (H : Type) where
  | route (path : String) (h : H)
  | healthCheck
  | start
  | close
  | request (method target : String) (size : Nat)

namespace Event

def registers : Event H → Bool
  | route .. => true
  | healthCheck => true
  | _ => false

def handler? (path : String) : Event H → Option H
  | route p h => if p = path then some h else none
  | _ => none

def next (world : (q : Effect) → σ → q.Answer × σ) : Event H → Server H × σ → Server H × σ
  | route path h, (s, x) => (s.register path h, x)
  | healthCheck, (s, x) => (s.registerHealthCheck, x)
  | start, (s, x) =>
      let r := s.start.run world x
      (r.1.2, r.2)
  | close, (s, x) => (s.close, x)
  | request .., y => y

end Event

open Event

def after (world : (q : Effect) → σ → q.Answer × σ) (events : List (Event H))
    (y : Server H × σ) : Server H × σ :=
  events.foldl (fun y e => e.next world y) y

/-- The handler that a path was given last. -/
def handlerOf? (path : String) (events : List (Event H)) : Option H :=
  events.reverse.findSome? (handler? path)

theorem after_snoc (world : (q : Effect) → σ → q.Answer × σ) (events : List (Event H))
    (e : Event H) (y : Server H × σ) :
    after world (events ++ [e]) y = e.next world (after world events y) := by
  simp [after]

theorem after_append (world : (q : Effect) → σ → q.Answer × σ) (events more : List (Event H))
    (y : Server H × σ) : after world (events ++ more) y = after world more (after world events y) :=
  List.foldl_append

theorem handlerOf?_snoc (path : String) (events : List (Event H)) (e : Event H) :
    handlerOf? path (events ++ [e]) = (e.handler? path).or (handlerOf? path events) := by
  rw [handlerOf?, List.reverse_append, List.reverse_singleton, List.singleton_append,
    List.findSome?_cons]
  cases e.handler? path <;> rfl

/-- How a server goes on when it has tried to listen. -/
def bound (s : Server H) : Except String String → Except Failure (Option String) × Server H
  | .error reason => (.error (.bind s.bindAddress reason), s)
  | .ok address => (.ok (some address), { s with running := some ⟨address, s.table⟩ })

theorem start_of_running {s : Server H} {l : Listener H} (h : s.running = some l) :
    s.start = .done (.ok (some l.address), s) := by
  rw [start, h]

theorem start_of_idle {s : Server H} (h : s.running = none) (hidle : s.shouldRun = false) :
    s.start = .done (.ok none, s) := by
  rw [start, h, hidle]
  rfl

theorem start_of_shouldRun {s : Server H} (h : s.running = none) (hrun : s.shouldRun = true) :
    s.start = .ask (.listen s.bindAddress) fun answer => .done (bound s answer) := by
  rw [start, h]
  dsimp only
  rw [if_pos hrun]
  refine congrArg (Script.ask (Effect.listen s.bindAddress)) (funext fun answer => ?_)
  cases answer <;> rfl

theorem close_of_start (world : (q : Effect) → σ → q.Answer × σ) (s : Server H) (x : σ) :
    (s.start.run world x).1.2.close = s.close := by
  cases hrunning : s.running with
  | some l => rw [start_of_running hrunning, Script.run_done]
  | none =>
      cases hrun : s.shouldRun with
      | false => rw [start_of_idle hrunning hrun, Script.run_done]
      | true =>
          rw [start_of_shouldRun hrunning hrun, Script.run_ask, Script.run_done]
          cases (world (.listen s.bindAddress) x).1 <;> rfl

/-- What a history of events says about a server, its listener apart. -/
structure Records (c : Config) (events : List (Event H)) (s : Server H) : Prop where
  bindAddress : s.bindAddress = c.bindAddress
  bodyLimit : s.bodyLimit = c.bodyLimit
  routes : ∀ path, s.table.routes.get? path = handlerOf? path events
  healthCheck : s.table.healthCheck = true ↔ .healthCheck ∈ events
  shouldRun : s.shouldRun = true ↔ ∃ e ∈ events, e.registers = true
  plain : ∀ e ∈ s.table.routes.entries, Route.IsPlain e.1

theorem records_ofConfig (c : Config) : Records c [] (ofConfig c : Server H) where
  bindAddress := rfl
  bodyLimit := rfl
  routes path := rfl
  healthCheck := by simp [ofConfig]
  shouldRun := by simp [ofConfig]
  plain e he := absurd he List.not_mem_nil

section Records

variable {c : Config} {events : List (Event H)} {s s' : Server H}

theorem Records.of_close_eq (h : Records c events s) (hclose : s'.close = s.close) :
    Records c events s' where
  bindAddress := (congrArg Server.bindAddress hclose).trans h.bindAddress
  bodyLimit := (congrArg Server.bodyLimit hclose).trans h.bodyLimit
  routes path := (congrArg (fun t => t.table.routes.get? path) hclose).trans (h.routes path)
  healthCheck := (congrArg (fun t => t.table.healthCheck) hclose) ▸ h.healthCheck
  shouldRun := (congrArg Server.shouldRun hclose) ▸ h.shouldRun
  plain := (congrArg (fun t => t.table.routes.entries) hclose) ▸ h.plain

/-- Events that register nothing add nothing to the history. -/
theorem Records.snoc (h : Records c events s) {e : Event H} (he : e.registers = false) :
    Records c (events ++ [e]) s where
  bindAddress := h.bindAddress
  bodyLimit := h.bodyLimit
  routes path := by
    have hnone : e.handler? path = none := by
      cases e <;> first | rfl | cases he
    rw [handlerOf?_snoc, hnone, Option.none_or, h.routes path]
  healthCheck := by
    have hne : .healthCheck ≠ e := by
      rintro rfl
      cases he
    simp [h.healthCheck, hne]
  shouldRun := by simp [h.shouldRun, he]
  plain := h.plain

theorem Records.register (h : Records c events s) {path : String} (hplain : Route.IsPlain path)
    (handler : H) : Records c (events ++ [.route path handler]) (s.register path handler) where
  bindAddress := h.bindAddress
  bodyLimit := h.bodyLimit
  routes other := by
    rw [handlerOf?_snoc, ← h.routes other]
    change (s.table.routes.insert path handler).get? other = _
    rw [SortedMap.get?_insert]
    by_cases hother : other = path
    · simp [handler?, hother]
    · simp [handler?, hother, Ne.symm hother]
  healthCheck := by
    rw [List.mem_append, List.mem_singleton, ← h.healthCheck]
    simp [Server.register]
  shouldRun := by simp [Server.register, registers]
  plain e he := by
    rcases SortedMap.mem_of_mem_placeEntry he with rfl | he
    · exact hplain
    · exact h.plain e he

theorem Records.registerHealthCheck (h : Records c events s) :
    Records c (events ++ [.healthCheck]) s.registerHealthCheck where
  bindAddress := h.bindAddress
  bodyLimit := h.bodyLimit
  routes path := by
    rw [handlerOf?_snoc, ← h.routes path]
    rfl
  healthCheck := by simp [Server.registerHealthCheck]
  shouldRun := by simp [Server.registerHealthCheck, registers]
  plain := h.plain

end Records

section Run

variable {world : (q : Effect) → σ → q.Answer × σ} {c : Config} {events : List (Event H)}
  {y : Server H × σ}

theorem records_next (h : Records c events y.1) {e : Event H}
    (hplain : ∀ path handler, e = .route path handler → Route.IsPlain path) :
    Records c (events ++ [e]) (e.next world y).1 := by
  cases e with
  | route path handler => exact h.register (hplain path handler rfl) handler
  | healthCheck => exact h.registerHealthCheck
  | start => exact (h.of_close_eq (close_of_start world y.1 y.2)).snoc rfl
  | close =>
      have hclosed : Records c events y.1.close := h.of_close_eq rfl
      exact hclosed.snoc rfl
  | request method target size => exact h.snoc rfl

theorem records_after (x : σ)
    (hplain : ∀ path handler, .route path handler ∈ events → Route.IsPlain path) :
    Records c events (after world events (ofConfig c, x)).1 := by
  induction events using List.reverseRecOn with
  | nil => exact records_ofConfig c
  | append_singleton events e ih =>
      rw [after_snoc]
      refine records_next (ih fun path handler h => hplain path handler ?_) ?_
      · exact List.mem_append_left _ h
      · rintro path handler rfl
        exact hplain path handler (by simp)

/-- A start takes effect: nothing runs, something has been registered, and the address can be
listened at. Then the listener serves the table as it stands. -/
structure TakesEffect (world : (q : Effect) → σ → q.Answer × σ) (y : Server H × σ)
    (l : Listener H) : Prop where
  idle : y.1.running = none
  shouldRun : y.1.shouldRun = true
  bound : (world (.listen y.1.bindAddress) y.2).1 = .ok l.address
  table : l.table = y.1.table

theorem running_start_iff {l : Listener H} :
    (Event.start.next world y).1.running = some l ↔
      y.1.running = some l ∨ TakesEffect world y l := by
  rcases y with ⟨s, x⟩
  change (s.start.run world x).1.2.running = some l ↔ _
  -- a start finds a listener, finds nothing to serve, or tries to listen
  cases hrunning : s.running with
  | some l' =>
      rw [start_of_running hrunning, Script.run_done, hrunning]
      refine ⟨.inl, ?_⟩
      rintro (h | h)
      · exact h
      · cases hrunning.symm.trans h.idle
  | none =>
      cases hrun : s.shouldRun with
      | false =>
          rw [start_of_idle hrunning hrun, Script.run_done, hrunning]
          refine ⟨.inl, ?_⟩
          rintro (h | h)
          · exact h
          · cases hrun.symm.trans h.shouldRun
      | true =>
          rw [start_of_shouldRun hrunning hrun, Script.run_ask, Script.run_done]
          cases hanswer : (world (.listen s.bindAddress) x).1 with
          | error reason =>
              change s.running = some l ↔ _
              rw [hrunning]
              refine ⟨.inl, ?_⟩
              rintro (h | h)
              · exact h
              · cases hanswer.symm.trans h.bound
          | ok address =>
              change some ⟨address, s.table⟩ = some l ↔ _
              constructor
              · rintro h
                cases h
                exact .inr ⟨hrunning, hrun, hanswer, rfl⟩
              · rintro (h | h)
                · cases h
                · have haddress : address = l.address :=
                    Except.ok.inj (hanswer.symm.trans h.bound)
                  rw [haddress, ← h.table]

/-- The last start that has taken effect, after which nothing has been closed. -/
structure EffectiveStart (world : (q : Effect) → σ → q.Answer × σ) (y : Server H × σ)
    (events before : List (Event H)) (l : Listener H) : Prop where
  since : ∃ rest, events = before ++ .start :: rest ∧ ∀ e ∈ rest, e ≠ .close
  takesEffect : TakesEffect world (after world before y) l

theorem EffectiveStart.snoc {before : List (Event H)} {l : Listener H}
    (h : EffectiveStart world y events before l) {e : Event H} (he : e ≠ .close) :
    EffectiveStart world y (events ++ [e]) before l where
  since := by
    obtain ⟨rest, rfl, hrest⟩ := h.since
    refine ⟨rest ++ [e], by simp, ?_⟩
    simpa [or_imp, forall_and] using ⟨hrest, he⟩
  takesEffect := h.takesEffect

theorem running_next {e : Event H} (hstart : e ≠ .start) (hclose : e ≠ .close) :
    (e.next world y).1.running = y.1.running := by
  cases e with
  | route path handler => rfl
  | healthCheck => rfl
  | start => exact absurd rfl hstart
  | close => exact absurd rfl hclose
  | request method target size => rfl

theorem running_after_of_open {l : Listener H} (hopen : ∀ e ∈ events, e ≠ .close)
    (h : y.1.running = some l) : (after world events y).1.running = some l := by
  induction events using List.reverseRecOn with
  | nil => exact h
  | append_singleton events e ih =>
      have hbefore := ih fun e he => hopen e (List.mem_append_left _ he)
      rw [after_snoc]
      by_cases hstart : e = .start
      · rw [hstart, running_start_iff]
        exact .inl hbefore
      · rw [running_next hstart (hopen e (by simp))]
        exact hbefore

/-- A listener runs exactly since the last start that has taken effect. -/
theorem running_after_iff (hidle : y.1.running = none) {l : Listener H} :
    (after world events y).1.running = some l ↔
      ∃ before, EffectiveStart world y events before l := by
  constructor
  · intro h
    -- on the last event: only a start makes a listener, and a close leaves none
    induction events using List.reverseRecOn with
    | nil => cases hidle.symm.trans h
    | append_singleton events e ih =>
        rw [after_snoc] at h
        by_cases hclose : e = .close
        · subst hclose
          cases h
        · by_cases hstart : e = .start
          · subst hstart
            rcases running_start_iff.mp h with h | h
            · obtain ⟨before, hbefore⟩ := ih h
              exact ⟨before, hbefore.snoc hclose⟩
            · exact ⟨events, ⟨[], rfl, by simp⟩, h⟩
          · rw [running_next hstart hclose] at h
            obtain ⟨before, hbefore⟩ := ih h
            exact ⟨before, hbefore.snoc hclose⟩
  · rintro ⟨before, ⟨rest, rfl, hrest⟩, htakes⟩
    rw [← List.singleton_append, ← List.append_assoc, after_append, after_snoc]
    exact running_after_of_open hrest (running_start_iff.mpr (.inr htakes))

end Run

/-- What a request leads to by what has been registered: the handler that its path was given last,
the health check, or an answer that says why there is none of these. -/
structure Answers (c : Config) (registered : List (Event H)) (method path : String) (size : Nat)
    (r : Resolution H) : Prop where
  handled : ∀ h, handlerOf? path registered = some h → method = "POST" →
    size ≤ c.bodyLimit.toNat → r = .handler h
  tooLarge : ∀ h, handlerOf? path registered = some h → method = "POST" →
    c.bodyLimit.toNat < size → ∃ a, r = .answer a ∧ a.status = 413
  methodNotAllowed : ∀ h, handlerOf? path registered = some h →
    ¬ (path = "/healthcheck" ∧ .healthCheck ∈ registered) → method ≠ "POST" →
    ∃ a, r = .answer a ∧ a.status = 405
  healthy : path = "/healthcheck" → method = "GET" →
    ((∃ a, r = .answer a ∧ a.status = 200 ∧ a.body = "\x7b\"status\":\"Available\"\x7d") ↔
      .healthCheck ∈ registered)
  notFound : handlerOf? path registered = none →
    ¬ (path = "/healthcheck" ∧ .healthCheck ∈ registered) → ∃ a, r = .answer a ∧ a.status = 404

section Answers

variable {c : Config} {registered : List (Event H)} {s : Server H} {method target : String}

theorem isHealthCheck_iff (h : Records c registered s) :
    s.table.isHealthCheck target = true ↔
      RouteTable.pathOf target = "/healthcheck" ∧ .healthCheck ∈ registered := by
  rw [RouteTable.isHealthCheck, Bool.and_eq_true, h.healthCheck, beq_iff_eq, and_comm]
  rfl

theorem health_body : RouteTable.health.body = "\x7b\"status\":\"Available\"\x7d" := by
  decide +kernel

theorem answers_resolve (h : Records c registered s) (size : Nat) :
    Answers c registered method (RouteTable.pathOf target) size
      (s.table.resolve c.bodyLimit.toNat method target size) where
  handled handler hhandler hmethod hsize := by
    rw [hmethod, RouteTable.resolve_post ((h.routes _).trans hhandler), if_neg (by omega)]
  tooLarge handler hhandler hmethod hsize := by
    rw [hmethod, RouteTable.resolve_post ((h.routes _).trans hhandler), if_pos hsize]
    exact ⟨_, rfl, rfl⟩
  methodNotAllowed handler hhandler hhealthy hmethod := by
    rw [← isHealthCheck_iff h, Bool.not_eq_true] at hhealthy
    rw [RouteTable.resolve_of_ne_post ((h.routes _).trans hhandler) hhealthy hmethod]
    exact ⟨_, rfl, rfl⟩
  healthy hpath hmethod := by
    subst hmethod
    by_cases hhealthy : s.table.isHealthCheck target = true
    · rw [RouteTable.resolve_get hhealthy]
      exact ⟨fun _ => ((isHealthCheck_iff h).mp hhealthy).2, fun _ => ⟨_, rfl, rfl, health_body⟩⟩
    · have hnot : .healthCheck ∉ registered := fun hmem =>
        hhealthy ((isHealthCheck_iff h).mpr ⟨hpath, hmem⟩)
      rw [Bool.not_eq_true] at hhealthy
      refine ⟨?_, fun hmem => absurd hmem hnot⟩
      rintro ⟨a, ha, hstatus, -⟩
      cases hget : s.table.routes.get? (RouteTable.pathOf target) with
      | none =>
          rw [RouteTable.resolve_of_missing h.plain hget hhealthy] at ha
          cases ha
          cases hstatus
      | some handler =>
          rw [RouteTable.resolve_of_ne_post hget hhealthy (by decide)] at ha
          cases ha
          cases hstatus
  notFound hhandler hhealthy := by
    rw [← isHealthCheck_iff h, Bool.not_eq_true] at hhealthy
    rw [RouteTable.resolve_of_missing h.plain ((h.routes _).trans hhandler) hhealthy]
    exact ⟨_, rfl, rfl⟩

end Answers

/-- What starting and closing a server do, by what has been registered. -/
structure Switches (c : Config) (events : List (Event H)) (s : Server H) : Prop where
  already : ∀ l, s.running = some l → s.start = .done (.ok (some l.address), s)
  idle : s.running = none → (∀ e ∈ events, e.registers = false) → s.start = .done (.ok none, s)
  binds : s.running = none → (∃ e ∈ events, e.registers = true) →
    s.bindAddress = c.bindAddress ∧
      s.start = .ask (.listen s.bindAddress) fun answer => .done (bound s answer)
  closes : s.close.running = none ∧ s.close.table = s.table ∧ s.close.shouldRun = s.shouldRun
  closed : s.running = none → s.close = s

theorem switches_of_records {c : Config} {events : List (Event H)} {s : Server H}
    (h : Records c events s) : Switches c events s where
  already l hl := start_of_running hl
  idle hidle hnone := by
    refine start_of_idle hidle (Bool.eq_false_iff.mpr fun hrun => ?_)
    obtain ⟨e, he, hregisters⟩ := h.shouldRun.mp hrun
    rw [hnone e he] at hregisters
    cases hregisters
  binds hidle hsome := ⟨h.bindAddress, start_of_shouldRun hidle (h.shouldRun.mpr hsome)⟩
  closes := ⟨rfl, rfl, rfl⟩
  closed hidle := by rw [close, ← hidle]

/-- At every point of the life of a server, a listener runs exactly if some start has taken effect
and nothing has been closed since; then every request is answered by what had been registered before
that start, whatever has been registered since. -/
theorem serves_snapshot (world : (q : Effect) → σ → q.Answer × σ) (c : Config) (x : σ)
    (events : List (Event H))
    (hplain : ∀ path handler, .route path handler ∈ events → Route.IsPlain path) :
    let s := (after world events (ofConfig c, x)).1
    Switches c events s ∧
    (s.running = none → ∀ method target size, s.resolveRunning? method target size = none) ∧
    (∀ l, s.running = some l ↔ ∃ before, EffectiveStart world (ofConfig c, x) events before l) ∧
    ∀ l before, EffectiveStart world (ofConfig c, x) events before l →
      ∀ method target size, ∃ r, s.resolveRunning? method target size = some r ∧
        Answers c before method (RouteTable.pathOf target) size r := by
  intro s
  have hrunning (l : Listener H) : s.running = some l ↔
      ∃ before, EffectiveStart world (ofConfig c, x) events before l := running_after_iff rfl
  refine ⟨switches_of_records (records_after x hplain), ?_, hrunning, ?_⟩
  · intro hnone method target size
    rw [resolveRunning?, hnone]
    rfl
  · intro l before hstart method target size
    have hlimit : s.bodyLimit = c.bodyLimit := (records_after x hplain).bodyLimit
    obtain ⟨rest, rfl, -⟩ := hstart.since
    have hbefore : Records c before (after world before (ofConfig c, x)).1 :=
      records_after x fun path handler h => hplain path handler (List.mem_append_left _ h)
    refine ⟨_, ?_, answers_resolve hbefore size⟩
    rw [resolveRunning?, (hrunning l).mpr ⟨before, hstart⟩, Option.map_some, hlimit,
      hstart.takesEffect.table]

def served : List (Event Nat) :=
  [.healthCheck, .route "/a" 1]

/-- While a listener runs, a handler is replaced and a route is added. -/
def replaced : List (Event Nat) :=
  served ++ [.start, .route "/a" 2, .route "/b" 3]

theorem serves_snapshot_replaced :
    let world := World.answering (.error .malformed)
    let s := (after world replaced (ofConfig {}, ())).1
    (∀ path handler, .route path handler ∈ replaced → Route.IsPlain path) ∧
    s.resolveRunning? "POST" "/a" 1 = some (.handler 1) ∧
      ∃ a, s.resolveRunning? "POST" "/b" 1 = some (.answer a) ∧ a.status = 404 := by
  intro world s
  have hplain : ∀ path handler, .route path handler ∈ replaced → Route.IsPlain path := by
    intro path handler h
    simp only [replaced, served, List.cons_append, List.nil_append, List.mem_cons, reduceCtorEq,
      Event.route.injEq, List.not_mem_nil, or_false, false_or] at h
    rcases h with ⟨rfl, -⟩ | ⟨rfl, -⟩ | ⟨rfl, -⟩
    all_goals
      exact ⟨rfl, by simp [Route.isCapture]⟩
  obtain ⟨-, -, -, hanswers⟩ := serves_snapshot world {} () replaced hplain
  have hstart : EffectiveStart world (ofConfig {}, ()) replaced served
      ⟨"127.0.0.1:9000", (after world served (ofConfig {}, ())).1.table⟩ :=
    ⟨⟨[.route "/a" 2, .route "/b" 3], rfl, by simp⟩, ⟨rfl, rfl, by decide +kernel, rfl⟩⟩
  obtain ⟨r, hr, ha⟩ := hanswers _ _ hstart "POST" "/a" 1
  obtain ⟨r', hr', hb⟩ := hanswers _ _ hstart "POST" "/b" 1
  refine ⟨hplain, ?_, ?_⟩
  · rw [hr, ha.handled 1 (by decide +kernel) rfl (by decide)]
  · have hpath : RouteTable.pathOf "/b" ≠ "/healthcheck" := by decide +kernel
    obtain ⟨a, rfl, hstatus⟩ := hb.notFound (by decide +kernel) fun h => hpath h.1
    exact ⟨a, hr', hstatus⟩

end Server

end IntentProvider
