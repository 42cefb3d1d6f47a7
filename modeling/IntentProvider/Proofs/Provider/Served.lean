import Mathlib.Data.List.Induction
import IntentProvider.Proofs.Provider.Operation

/-!
What the engine is told of and what is served. Every signature that a provider advertises has a
route in the table of its server. A listener serves the table of the moment when it was started, so
a signature that a registration tells the engine of is served if its route was there at that moment.
-/

namespace IntentProvider.Provider

open IntentProvider.Json
open IntentProvider.Provider.Operation

/-- Everything that a provider advertises has its URL below that of the provider, and a route. -/
structure Wired (p : Provider) : Prop where
  shouldRun : p.server.shouldRun = true
  callback : ∀ kind s, p.catalogue.Advertises kind s →
    s.procedureCallback = s.baseCallback ++ routePath s.name kind
  routed : ∀ kind s, p.catalogue.Advertises kind s →
    p.server.hasRoute (routePath s.name kind) = true

theorem wired_fresh (c : Config) : Wired (fresh c) := by
  refine ⟨rfl, ?_, ?_⟩
  all_goals
    intro kind s h
    obtain ⟨scope, key, -, hs⟩ := Catalogue.advertises_iff.mp h
    exact absurd hs (Catalogue.not_stores_empty (addressOf c))

theorem wired_mono {p q : Provider} (h : Wired p)
    (hstored : ∀ scope key s, q.catalogue.Stores scope key s → p.catalogue.Stores scope key s)
    (htable : q.server.table = p.server.table)
    (hshould : q.server.shouldRun = p.server.shouldRun) : Wired q := by
  have hcatalogue : ∀ kind s, q.catalogue.Advertises kind s → p.catalogue.Advertises kind s := by
    intro kind s hs
    obtain ⟨scope, key, hkind, hs⟩ := Catalogue.advertises_iff.mp hs
    exact Catalogue.advertises_iff.mpr ⟨scope, key, hkind, hstored scope key s hs⟩
  refine ⟨hshould.trans h.shouldRun, ?_, ?_⟩
  · intro kind s hs
    exact h.callback kind s (hcatalogue kind s hs)
  · intro kind s hs
    rw [Server.hasRoute, htable]
    exact h.routed kind s (hcatalogue kind s hs)

theorem wired_alike {p q : Provider} (h : Wired p) (halike : Alike p q) : Wired q := by
  refine wired_mono h ?_ halike.table halike.shouldRun
  intro scope key s hs
  rw [← halike.catalogue]
  exact hs

theorem wired_step {p q : Provider} {change : Change} (h : Wired p) (hstep : Step p change q) :
    Wired q := by
  rcases step_cases hstep with ⟨-, -, hstored, hserver⟩ | ⟨a, t, c, -, hs, hc, rfl⟩
  · exact wired_mono h hstored (congrArg Server.table hserver) (congrArg Server.shouldRun hserver)
  · have hsignature := (Catalogue.signature_eq_ok hs).2.2
    refine { shouldRun := rfl, callback := ?_, routed := ?_ }
    · intro kind s hadvertised
      rcases Catalogue.advertises_of_insert hc hadvertised with ⟨rfl, rfl⟩ | hadvertised
      · rw [hsignature]
        rfl
      · exact h.callback kind s hadvertised
    · intro kind s hadvertised
      rw [hasRoute_register]
      rcases Catalogue.advertises_of_insert hc hadvertised with ⟨rfl, rfl⟩ | hadvertised
      · rw [hsignature, Attachment.path, beq_self_eq_true, Bool.true_or]
      · rw [h.routed kind s hadvertised, Bool.or_true]

theorem eq_of_built {α : Type} {f : Provider → α}
    (hf : ∀ p change q, Step p change q → f q = f p) {changes : List Change} {p q : Provider}
    (hbuilt : Built p changes q) : f q = f p := by
  induction hbuilt with
  | refl => rfl
  | step _ hstep ih => exact (hf _ _ _ hstep).trans ih

theorem running_built {changes : List Change} {p q : Provider} (hbuilt : Built p changes q) :
    q.server.running = p.server.running := by
  apply eq_of_built _ hbuilt
  rintro p change q hstep
  cases hstep <;> rfl

variable {σ : Type}

theorem wired_after (world : World σ) (ops : List Operation) {p : Provider} (h : Wired p) (x : σ) :
    Wired (after world ops (p, x)).1 := by
  let I (_ : List Change) (q : Provider) : Prop := Wired q
  have hstep : ∀ changes change q r, I changes q → Step q change r → I (changes ++ [change]) r :=
    fun _ _ _ _ => wired_step
  have halike : ∀ changes q r, I changes q → Alike q r → I changes r := fun _ _ _ => wired_alike
  exact invariant_after hstep halike world ops [] h x

/-- A listener runs after some operations since a registration among them, which has started it
with the table that stood before. -/
structure StartedAfter (world : World σ) (x : Provider × σ) (l : Listener Procedure)
    (start ops : List Operation) : Prop where
  since : ∃ rest, ops = start ++ .register :: rest ∧ ∀ o ∈ rest, o ≠ .close
  before : (after world start x).1.server.running = none
  running : (after world (start ++ [.register]) x).1.server.running = some l
  table : l.table = (after world start x).1.server.table

theorem startedAfter_snoc {world : World σ} {x : Provider × σ} {l : Listener Procedure}
    {start ops : List Operation} {o : Operation} (h : StartedAfter world x l start ops)
    (ho : o ≠ .close) : StartedAfter world x l start (ops ++ [o]) where
  since := by
    obtain ⟨rest, rfl, hrest⟩ := h.since
    refine ⟨rest ++ [o], by simp, ?_⟩
    intro o' ho'
    rcases List.mem_append.mp ho' with ho' | ho'
    · exact hrest o' ho'
    · rw [List.mem_singleton.mp ho']
      exact ho
  before := h.before
  running := h.running
  table := h.table

theorem startedAfter_register {world : World σ} {x : Provider × σ} {l : Listener Procedure}
    {ops : List Operation} (hbefore : (after world ops x).1.server.running = none)
    (hrunning : (after world (ops ++ [.register]) x).1.server.running = some l)
    (htable : l.table = (after world ops x).1.server.table) :
    StartedAfter world x l ops (ops ++ [.register]) where
  since := ⟨[], rfl, fun _ ho => nomatch ho⟩
  before := hbefore
  running := hrunning
  table := htable

theorem running_register (world : World σ) (p : Provider) (x : σ) {l : Listener Procedure}
    (h : (p.register.run world x).1.2.server.running = some l) :
    p.server.running = some l ∨ p.server.running = none ∧ l.table = p.server.table := by
  obtain ⟨y, ⟨f, hrun⟩ | ⟨d, -, ⟨f, -, hrun⟩ | ⟨s, hlistens, hrun⟩⟩⟩ :=
    run_register_cases world p x
  · rw [hrun] at h
    exact .inl h
  · rw [hrun] at h
    exact .inl h
  · rw [hrun] at h
    cases hlistens with
    | already l' hrunning => exact .inl h
    | idle hrunning hidle => exact .inl h
    | started address hrunning hrun =>
        cases h
        exact .inr ⟨hrunning, rfl⟩

def registered (world : World σ) (ops : List Operation) (x : Provider × σ) :
    (Except Failure Descriptor × Provider) × σ :=
  (after world ops x).1.register.run world (after world ops x).2

theorem after_register (world : World σ) (ops : List Operation) (x : Provider × σ) :
    (after world (ops ++ [.register]) x).1 = (registered world ops x).1.2 := by
  rw [after_snoc, perform, Script.run_bind]
  rfl

theorem startedAfter_of_register {world : World σ} {x : Provider × σ} {ops : List Operation}
    {l : Listener Procedure}
    (hearlier : (after world ops x).1.server.running = some l →
      ∃ start, StartedAfter world x l start ops)
    (h : (registered world ops x).1.2.server.running = some l) :
    ∃ start, StartedAfter world x l start (ops ++ [.register]) ∧
      ((after world ops x).1.server.running = none → start = ops) := by
  rcases running_register world _ _ h with hrunning | ⟨hnone, htable⟩
  · obtain ⟨start, hstart⟩ := hearlier hrunning
    refine ⟨start, startedAfter_snoc hstart nofun, ?_⟩
    intro hnone
    rw [hnone] at hrunning
    cases hrunning
  · rw [← after_register] at h
    exact ⟨ops, startedAfter_register hnone h htable, fun _ => rfl⟩

theorem exists_startedAfter (world : World σ) (c : Config) (x : σ) {ops : List Operation}
    {l : Listener Procedure}
    (h : (after world ops (fresh c, x)).1.server.running = some l) :
    ∃ start, StartedAfter world (fresh c, x) l start ops := by
  -- the listener is the one that ran before the last operation, unless this has started it
  induction ops using List.reverseRecOn with
  | nil => cases h
  | append_singleton ops o ih =>
      cases o with
      | set s =>
          rw [after_snoc] at h
          change (s.apply _).server.running = some l at h
          rw [Setting.apply_server] at h
          obtain ⟨start, hstart⟩ := ih h
          exact ⟨start, startedAfter_snoc hstart nofun⟩
      | build b =>
          rw [after_snoc] at h
          change (settle (b.assembly _)).2.server.running = some l at h
          rw [running_built (built_build b _)] at h
          obtain ⟨start, hstart⟩ := ih h
          exact ⟨start, startedAfter_snoc hstart nofun⟩
      | register =>
          rw [after_register] at h
          obtain ⟨start, hstart, -⟩ := startedAfter_of_register ih h
          exact ⟨start, hstart⟩
      | close =>
          rw [after_snoc] at h
          cases h

/-- Every POST request for a path, with a body that is short enough, comes to a handler of the
listener. -/
def Reaches (p : Provider) (path : String) : Prop :=
  ∀ target size, RouteTable.pathOf target = path → size ≤ p.server.bodyLimit.toNat →
    ∃ procedure, p.server.resolveRunning? "POST" target size = some (.handler procedure)

/-- A request for the very path of a route comes to its handler, whether or not the path is that of
the health check. -/
theorem resolve_of_contains {H : Type} {t : RouteTable H} {limit size : Nat} {target : String}
    (h : t.routes.contains (RouteTable.pathOf target)) (hsize : size ≤ limit) :
    ∃ procedure, t.resolve limit "POST" target size = .handler procedure := by
  obtain ⟨procedure, hget⟩ := Option.isSome_iff_exists.mp h
  refine ⟨procedure, ?_⟩
  have hlimit : ¬ limit < size := Nat.not_lt.mpr hsize
  unfold RouteTable.resolve
  cases hhealthy : t.healthCheck && RouteTable.pathOf target == RouteTable.healthCheckPath with
  | false => simp [hhealthy, hget, hlimit]
  | true => simp [hhealthy, hget, hlimit]

theorem reaches_of_contains {p : Provider} {l : Listener Procedure} {path : String}
    (hrunning : p.server.running = some l) (h : l.table.routes.contains path) :
    Reaches p path := by
  intro target size hpath hsize
  subst hpath
  obtain ⟨procedure, hresolve⟩ := resolve_of_contains h hsize
  refine ⟨procedure, ?_⟩
  rw [Server.resolveRunning?, hrunning, Option.map_some, hresolve]

theorem descriptor_eq_ok {p : Provider} {d : Descriptor} (h : p.descriptor = .ok d) :
    d.kinds = p.catalogue.kinds ∧ d.procedures = p.catalogue.procedures ∧
      p.nameSpace = some d.nameSpace ∧ p.version = some d.version := by
  unfold descriptor at h
  cases hnameSpace : p.nameSpace with
  | none =>
      rw [hnameSpace] at h
      cases h
  | some nameSpace =>
      cases hversion : p.version with
      | none =>
          rw [hnameSpace, hversion] at h
          cases h
      | some version =>
          cases hkind : p.catalogue.kinds.head? with
          | none =>
              rw [hnameSpace, hversion, hkind] at h
              cases h
          | some k =>
              rw [hnameSpace, hversion, hkind] at h
              cases h
              exact ⟨rfl, rfl, rfl, rfl⟩

theorem advertises_of_descriptor {p : Provider} {d : Descriptor} (hd : p.descriptor = .ok d)
    {kind : Option String} {s : Signature} (h : d.Advertises kind s) :
    p.catalogue.Advertises kind s := by
  rw [Descriptor.Advertises, (descriptor_eq_ok hd).1, (descriptor_eq_ok hd).2.1] at h
  exact h

theorem descriptor_of_register {world : World σ} {p q : Provider} {x y : σ} {d : Descriptor}
    (h : p.register.run world x = ((.ok d, q), y)) :
    p.descriptor = .ok d ∧ Listens p.server q.server := by
  obtain ⟨z, ⟨f, hrun⟩ | ⟨d', hd, ⟨f, -, hrun⟩ | ⟨s, hlistens, hrun⟩⟩⟩ :=
    run_register_cases world p x
  · rw [hrun] at h
    cases h
  · rw [hrun] at h
    cases h
  · rw [hrun] at h
    cases h
    exact ⟨hd, hlistens⟩

theorem running_of_listens {s s' : Server Procedure} (h : Listens s s')
    (hrun : s.shouldRun = true) : ∃ l, s'.running = some l := by
  cases h with
  | already l hrunning => exact ⟨l, hrunning⟩
  | idle hrunning hidle =>
      rw [hidle] at hrun
      cases hrun
  | started address hrunning _ => exact ⟨⟨address, s.table⟩, rfl⟩

/-- Whenever a registration succeeds, a listener runs, which some registration has started: this one
if none was running. What the engine is told of is served if its route was registered before that
start, and so it is all served if none was running. -/
theorem served_of_register (world : World σ) (c : Config) (x : σ) (ops : List Operation)
    {d : Descriptor} {p : Provider} {y : σ}
    (h : registered world ops (fresh c, x) = ((.ok d, p), y)) :
    ∃ l start, p.server.running = some l ∧
      StartedAfter world (fresh c, x) l start (ops ++ [.register]) ∧
      ((after world ops (fresh c, x)).1.server.running = none → start = ops) ∧
      ∀ kind s, d.Advertises kind s →
        s.procedureCallback = s.baseCallback ++ routePath s.name kind ∧
        l.table.routes.contains (routePath s.name kind) =
          (after world start (fresh c, x)).1.server.hasRoute (routePath s.name kind) ∧
        (l.table.routes.contains (routePath s.name kind) → Reaches p (routePath s.name kind)) ∧
        (start = ops → Reaches p (routePath s.name kind)) := by
  obtain ⟨hd, hlistens⟩ := descriptor_of_register h
  have hwired := wired_after world ops (wired_fresh c) x
  obtain ⟨l, hl⟩ := running_of_listens hlistens hwired.shouldRun
  obtain ⟨start, hstart, hnone⟩ : ∃ start,
      StartedAfter world (fresh c, x) l start (ops ++ [.register]) ∧
        ((after world ops (fresh c, x)).1.server.running = none → start = ops) := by
    apply startedAfter_of_register (exists_startedAfter world c x)
    rw [h]
    exact hl
  refine ⟨l, start, hl, hstart, hnone, ?_⟩
  intro kind s hs
  have hadvertised := advertises_of_descriptor hd hs
  have hsame : l.table.routes.contains (routePath s.name kind) =
      (after world start (fresh c, x)).1.server.hasRoute (routePath s.name kind) := by
    rw [hstart.table]
    rfl
  refine ⟨hwired.callback kind s hadvertised, hsame, reaches_of_contains hl, ?_⟩
  rintro rfl
  apply reaches_of_contains hl
  rw [hsame]
  exact hwired.routed kind s hadvertised

/-- A world in which every request succeeds, and every address can be listened at. -/
def agreeable : World Unit :=
  World.answering (.ok ⟨200, .empty⟩)

def nearby : Config where
  engineUrl := "http://[::1]:3000"

def attachEcho (name : String) : Operation :=
  .build (.attachProcedure name {} fun _ input => .done (.value input))

def prepared : List Operation :=
  [.set (.nameSpace "files"), .set (.version "v1"),
    .build (.declareKind (.object [("Bucket", .object [(behaviourMarker, .string "basic")])]))]

def tells (name : String) : Except Failure Descriptor → Bool
  | .ok d => d.procedures.values.any (·.name == name)
  | .error _ => false

theorem exists_registered_of_tells (ops : List Operation) (name : String)
    (h : tells name (registered agreeable ops (fresh nearby, ())).1.1) :
    ∃ d p s, registered agreeable ops (fresh nearby, ()) = ((.ok d, p), ()) ∧
      d.Advertises none s ∧ s.name = name := by
  rcases hrun : registered agreeable ops (fresh nearby, ()) with ⟨⟨answer, p⟩, y⟩
  rw [hrun] at h
  cases answer with
  | error f => cases h
  | ok d =>
      obtain ⟨s, hs, hname⟩ := List.any_eq_true.mp h
      exact ⟨d, p, s, rfl, hs, beq_iff_eq.mp hname⟩

theorem served_of_register_first :
    ∃ d p s, registered agreeable (prepared ++ [attachEcho "echo"]) (fresh nearby, ()) =
        ((.ok d, p), ()) ∧
      d.Advertises none s ∧ s.name = "echo" ∧ Reaches p "/echo" := by
  obtain ⟨d, p, s, hrun, hs, hname⟩ :=
    exists_registered_of_tells (prepared ++ [attachEcho "echo"]) "echo" (by decide +kernel)
  obtain ⟨l, start, -, -, hstart, hserved⟩ :=
    served_of_register agreeable nearby () (prepared ++ [attachEcho "echo"]) hrun
  have hnone : (after agreeable (prepared ++ [attachEcho "echo"])
      (fresh nearby, ())).1.server.running = none := rfl
  refine ⟨d, p, s, hrun, hs, hname, ?_⟩
  have hreaches := (hserved none s hs).2.2.2 (hstart hnone)
  rw [hname] at hreaches
  exact hreaches

/-- A procedure that is attached while a listener runs is not served after the next registration,
though the engine is told of it. -/
theorem not_served_when_attached_late :
    ¬ ∀ (world : World Unit) (c : Config) (ops : List Operation) (d : Descriptor) (p : Provider),
      registered world ops (fresh c, ()) = ((.ok d, p), ()) →
        ∀ kind s, d.Advertises kind s → ∃ l, p.server.running = some l ∧
          l.table.routes.contains (routePath s.name kind) := by
  intro h
  obtain ⟨d, p, s, hrun, hs, hname⟩ :=
    exists_registered_of_tells (prepared ++ [.register, attachEcho "late"]) "late"
      (by decide +kernel)
  obtain ⟨l, hl, hroute⟩ := h agreeable nearby _ d p hrun none s hs
  have hmissing :
      (registered agreeable (prepared ++ [.register, attachEcho "late"])
        (fresh nearby, ())).1.2.server.running.all
        fun l => !l.table.routes.contains "/late" := by decide +kernel
  rw [hrun, hl] at hmissing
  rw [hname] at hroute
  change (!l.table.routes.contains "/late") = true at hmissing
  change l.table.routes.contains "/late" = true at hroute
  rw [hroute] at hmissing
  cases hmissing

end IntentProvider.Provider
