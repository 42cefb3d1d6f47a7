import IntentProvider.Proofs.Catalogue.Stored
import IntentProvider.Proofs.Program.World
import IntentProvider.Proofs.Provider.Assembly
import IntentProvider.Provider.Registration

/-!
The operations on a provider, and runs of them in a world that answers all questions. What an
operation does to the provider is said once for each sort of operation: settings leave the
catalogue and the server alone, the assembly makes its changes or none, and registering and closing
touch the identity and the listener only. What every change keeps is therefore kept by every run.
-/

namespace IntentProvider

open IntentProvider.Json

namespace Provider

def Change.attachment? : Change → Option Attachment
  | addKind _ => none
  | removeKind _ => none
  | setRetryExponent _ _ => none
  | attach a => some a

/-- A step attaches something, or it stores nothing new and leaves the server alone. -/
theorem step_cases {p q : Provider} {change : Change} (h : Step p change q) :
    (change.attachment? = none ∧ q.catalogue.address = p.catalogue.address ∧
      (∀ scope key s, q.catalogue.Stores scope key s → p.catalogue.Stores scope key s) ∧
      q.server = p.server) ∨
    ∃ a s c, change = .attach a ∧
      p.catalogue.signature a.name a.scope.kind? a.description = .ok s ∧
      a.scope.insert s p.catalogue = .ok c ∧
      q = { p with catalogue := c, server := p.server.register a.path a.procedure } := by
  cases h with
  | addKind k hk hfree =>
      exact .inl ⟨rfl, Catalogue.address_addKind _ k,
        fun _ _ _ => Catalogue.stores_addKind hk, rfl⟩
  | removeKind name => exact .inl ⟨rfl, rfl, fun _ _ _ => Catalogue.stores_removeKind, rfl⟩
  | setRetryExponent name exponent =>
      exact .inl ⟨rfl, rfl, fun _ _ _ => Catalogue.stores_setRetryExponent, rfl⟩
  | attach a hs hc => exact .inr ⟨a, _, _, rfl, hs, hc, rfl⟩

inductive Setting where
  | nameSpace (text : String)
  | version (text : String)
  | extensionSchema (schema : Value)
  | policy (access : AccessPolicy)
  | store (entities : EntityStore)

/-- A call that assembles a provider. Kinds that are added ready-made carry no procedures. -/
inductive Building where
  | declareKind (declaration : Value)
  | addKind (kind : Kind) (bare : kind.signatures = [])
  | removeKind (name : String)
  | reopenKind (name : String)
  | setRetryExponent (kind : String) (exponent : Option UInt32)
  | attachProcedure (name : String) (d : Description) (work : InputWork)
  | attachEntityProcedure (kind name : String) (d : Description) (work : EntityWork)
  | attachKindProcedure (kind name : String) (d : Description) (work : InputWork)
  | attachHook (kind path : String) (work : EntityWork)
  | attachConstructor (kind : String) (d : Description)
      (work : Callback → Value → Activity (Outcome Construction))
  | attachDestructor (kind : String) (work : Callback → Entity → Activity (Outcome Value))
  | attachTask (name : String) (interval : Nat)
      (work : Callback → Value → Activity (Outcome Unit)) (extension : Option Document)
      (payload : Option Value)

inductive Operation where
  | set (setting : Setting)
  | build (building : Building)
  | register
  | close

namespace Setting

def apply : Setting → Provider → Provider
  | nameSpace text, p => p.withNameSpace text
  | version text, p => p.withVersion text
  | extensionSchema schema, p => p.withExtensionSchema schema
  | policy access, p => p.withPolicy access
  | store entities, p => p.withStore entities

theorem apply_catalogue (s : Setting) (p : Provider) : (s.apply p).catalogue = p.catalogue := by
  cases s <;> rfl

theorem apply_server (s : Setting) (p : Provider) : (s.apply p).server = p.server := by
  cases s <;> rfl

end Setting

namespace Building

/-- What a call does, apart from what it gives back. -/
def assembly : Building → Assembly Unit
  | declareKind declaration => discard (Assembly.declareKind declaration)
  | addKind kind _ => discard (Assembly.addKind kind)
  | removeKind name => discard (Assembly.removeKind name)
  | reopenKind name => discard (Assembly.consult fun c => .ok (c.kind? name))
  | setRetryExponent kind exponent => Assembly.setRetryExponent kind exponent
  | attachProcedure name d work => Assembly.attachProcedure name d work
  | attachEntityProcedure kind name d work => Assembly.attachEntityProcedure kind name d work
  | attachKindProcedure kind name d work => Assembly.attachKindProcedure kind name d work
  | attachHook kind path work => Assembly.attachHook kind path work
  | attachConstructor kind d work => Assembly.attachConstructor kind d work
  | attachDestructor kind work => Assembly.attachDestructor kind work
  | attachTask name interval work extension payload =>
      discard (Assembly.attachTask name interval work extension payload)

/-- What a call changes if it is not rejected. -/
def changes : Building → Catalogue → List Change
  | declareKind declaration, _ => Assembly.declared declaration fun k => [.addKind k]
  | addKind kind _, c => Assembly.additions kind c
  | removeKind name, _ => [.removeKind name]
  | reopenKind _, _ => []
  | setRetryExponent kind exponent, _ => [.setRetryExponent kind exponent]
  | attachProcedure name d work, _ => [.attach (.ofProcedure name d work)]
  | attachEntityProcedure kind name d work, _ => [.attach (.ofEntityProcedure kind name d work)]
  | attachKindProcedure kind name d work, _ => [.attach (.ofKindProcedure kind name d work)]
  | attachHook kind path work, _ => [.attach (.ofHook kind path work)]
  | attachConstructor kind d work, c => [.attach (Assembly.attachedConstructor kind d work c)]
  | attachDestructor kind work, _ =>
      [.attach (.ofKindProcedure kind (Assembly.destructorName kind) {} (.destructing work))]
  | attachTask name interval work _ payload, _ =>
      Assembly.declared (Assembly.taskSchema name payload) fun k =>
        [.addKind k, .attach (Assembly.attachedTask name interval work)]

theorem proper_assembly (b : Building) : Assembly.Proper b.assembly b.changes := by
  cases b with
  | declareKind declaration =>
      exact Assembly.proper_discard (Assembly.proper_declareKind declaration)
  | addKind kind bare => exact Assembly.proper_discard (Assembly.proper_addKind bare)
  | removeKind name => exact Assembly.proper_discard (Assembly.proper_removeKind name)
  | reopenKind name => exact Assembly.proper_discard fun p => .inr ⟨_, p, rfl, .refl⟩
  | setRetryExponent kind exponent => exact Assembly.proper_setRetryExponent kind exponent
  | attachProcedure name d work =>
      rw [assembly, Assembly.attachProcedure_eq]
      exact Assembly.proper_attach _
  | attachEntityProcedure kind name d work =>
      rw [assembly, Assembly.attachEntityProcedure_eq]
      exact Assembly.proper_attach _
  | attachKindProcedure kind name d work =>
      rw [assembly, Assembly.attachKindProcedure_eq]
      exact Assembly.proper_attach _
  | attachHook kind path work =>
      rw [assembly, Assembly.attachHook_eq]
      exact Assembly.proper_attach _
  | attachConstructor kind d work => exact Assembly.proper_attachConstructor kind d work
  | attachDestructor kind work =>
      rw [assembly, Assembly.attachDestructor, Assembly.attachKindProcedure_eq]
      exact Assembly.proper_attach _
  | attachTask name interval work extension payload =>
      exact Assembly.proper_discard
        (Assembly.proper_attachTask name interval work extension payload)

end Building

namespace Operation

/-- What a part of the assembly answers, and the provider after it. -/
def settle : EStateM.Result Failure Provider Unit → Except Failure Unit × Provider
  | .ok _ p => (.ok (), p)
  | .error f p => (.error f, p)

def perform : Operation → Provider → Activity (Except Failure Unit × Provider)
  | set s, p => .done (.ok (), s.apply p)
  | build b, p => .done (settle (b.assembly p))
  | register, p => p.register.bind fun o => .done (o.1.map fun _ => (), o.2)
  | close, p => .done (.ok (), p.close)

/-- What an operation changes in the assembly, which is nothing if it is rejected. -/
def changes : Operation → Provider → List Change
  | set _, _ => []
  | build b, p =>
      match b.assembly p with
      | .ok _ _ => b.changes p.catalogue
      | .error _ _ => []
  | register, _ => []
  | close, _ => []

variable {σ : Type}

def after (world : World σ) : List Operation → Provider × σ → Provider × σ
  | [], x => x
  | o :: rest, (p, x) =>
      let r := (o.perform p).run world x
      after world rest (r.1.2, r.2)

/-- What a run changes in the assembly, the oldest change first. -/
def history (world : World σ) : List Operation → Provider × σ → List Change
  | [], _ => []
  | o :: rest, (p, x) =>
      let r := (o.perform p).run world x
      o.changes p ++ history world rest (r.1.2, r.2)

theorem after_append (world : World σ) (ops more : List Operation) (x : Provider × σ) :
    after world (ops ++ more) x = after world more (after world ops x) := by
  induction ops generalizing x with
  | nil => rfl
  | cons o rest ih => exact ih _

theorem after_snoc (world : World σ) (ops : List Operation) (o : Operation) (x : Provider × σ) :
    (after world (ops ++ [o]) x).1 =
      ((o.perform (after world ops x).1).run world (after world ops x).2).1.2 := by
  rw [after_append]
  rfl

end Operation

theorem hasRoute_register {H : Type} (s : Server H) (path other : String) (h : H) :
    (s.register path h).hasRoute other = (other == path || s.hasRoute other) :=
  SortedMap.contains_insert _ _ _ _

/-- What starting to listen can do to a server. -/
inductive Listens (s : Server Procedure) : Server Procedure → Prop where
  | already (l : Listener Procedure) (h : s.running = some l) : Listens s s
  | idle (h : s.running = none) (hidle : s.shouldRun = false) : Listens s s
  | started (address : String) (h : s.running = none) (hrun : s.shouldRun = true) :
      Listens s { s with running := some ⟨address, s.table⟩ }

variable {σ : Type}

theorem run_start_cases (world : World σ) (s : Server Procedure) (x : σ) : ∃ y,
    (∃ f, s.running = none ∧ s.start.run world x = ((.error f, s), y)) ∨
      ∃ a s', Listens s s' ∧ s.start.run world x = ((.ok a, s'), y) := by
  unfold Server.start
  cases hrunning : s.running with
  | some l => exact ⟨x, .inr ⟨some l.address, s, .already l hrunning, rfl⟩⟩
  | none =>
      by_cases hrun : s.shouldRun
      · rw [if_pos hrun, Script.run_ask]
        rcases world (.listen s.bindAddress) x with ⟨answer, y⟩
        cases answer with
        | error reason => exact ⟨y, .inl ⟨.bind s.bindAddress reason, rfl, rfl⟩⟩
        | ok address => exact ⟨y, .inr ⟨some address, _, .started address hrunning hrun, rfl⟩⟩
      · rw [if_neg hrun]
        exact ⟨x, .inr ⟨none, s, .idle hrunning (Bool.eq_false_iff.mpr hrun), rfl⟩⟩

/-- A registration ends at the description, at the engine or at the listener, or it succeeds with
the description. -/
theorem run_register_cases (world : World σ) (p : Provider) (x : σ) : ∃ y,
    (∃ f, p.register.run world x = ((.error f, p), y)) ∨
      ∃ d, p.descriptor = .ok d ∧
        ((∃ f, p.server.running = none ∧
            p.register.run world x = ((.error f, p.accepted d), y)) ∨
          ∃ s, Listens p.server s ∧
            p.register.run world x = ((.ok d, { p.accepted d with server := s }), y)) := by
  unfold register
  cases hd : p.descriptor with
  | error f => exact ⟨x, .inl ⟨f, rfl⟩⟩
  | ok d =>
      simp only [Script.run_bind]
      rcases (p.client.register d).run world x with ⟨answer, y⟩
      cases answer with
      | error f => exact ⟨y, .inl ⟨f, rfl⟩⟩
      | ok _ =>
          simp only [listen, Script.run_bind]
          obtain ⟨z, ⟨f, hnone, hstart⟩ | ⟨a, s, hlistens, hstart⟩⟩ :=
            run_start_cases world (p.accepted d).server y
          · refine ⟨z, .inr ⟨d, rfl, .inl ⟨f, hnone, ?_⟩⟩⟩
            rw [hstart]
            rfl
          · refine ⟨z, .inr ⟨d, rfl, .inr ⟨s, hlistens, ?_⟩⟩⟩
            rw [hstart]
            rfl

/-- Two providers whose assembly is the same. They may differ in what else has been said about them,
in their identity and in the listener. -/
structure Alike (p q : Provider) : Prop where
  catalogue : q.catalogue = p.catalogue
  table : q.server.table = p.server.table
  shouldRun : q.server.shouldRun = p.server.shouldRun

theorem alike_apply (s : Setting) (p : Provider) : Alike p (s.apply p) where
  catalogue := s.apply_catalogue p
  table := congrArg Server.table (s.apply_server p)
  shouldRun := congrArg Server.shouldRun (s.apply_server p)

theorem alike_listens {p : Provider} {s : Server Procedure} (h : Listens p.server s) :
    Alike p { p with server := s } := by
  cases h <;> exact ⟨rfl, rfl, rfl⟩

theorem alike_register (world : World σ) (p : Provider) (x : σ) :
    Alike p (p.register.run world x).1.2 := by
  obtain ⟨y, ⟨f, hrun⟩ | ⟨d, -, ⟨f, -, hrun⟩ | ⟨s, hlistens, hrun⟩⟩⟩ :=
    run_register_cases world p x
  · rw [hrun]
    exact ⟨rfl, rfl, rfl⟩
  · rw [hrun]
    exact ⟨rfl, rfl, rfl⟩
  · rw [hrun]
    obtain ⟨hcatalogue, htable, hshould⟩ := alike_listens hlistens
    exact ⟨hcatalogue, htable, hshould⟩

theorem built_build (b : Building) (p : Provider) :
    Built p (Operation.changes (.build b) p) (Operation.settle (b.assembly p)).2 := by
  rcases b.proper_assembly p with ⟨f, -, h⟩ | ⟨a, p', h, hbuilt⟩
  · rw [Operation.changes, h]
    exact .refl
  · rw [Operation.changes, h]
    exact hbuilt

section Invariant

-- what is invariant holds of a provider together with the changes that have been made
variable {I : List Change → Provider → Prop}
  (hstep : ∀ changes change p q, I changes p → Step p change q → I (changes ++ [change]) q)
  (halike : ∀ changes p q, I changes p → Alike p q → I changes q)

include hstep

theorem invariant_built {changes more : List Change} {p q : Provider} (h : I changes p)
    (hbuilt : Built p more q) : I (changes ++ more) q := by
  induction hbuilt with
  | refl =>
      rw [List.append_nil]
      exact h
  | step _ hnext ih =>
      rw [← List.append_assoc]
      exact hstep _ _ _ _ ih hnext

include halike

theorem invariant_perform (world : World σ) {changes : List Change} {p : Provider}
    (h : I changes p) (o : Operation) (x : σ) :
    I (changes ++ o.changes p) ((o.perform p).run world x).1.2 := by
  cases o with
  | set s =>
      rw [Operation.changes, List.append_nil]
      exact halike _ _ _ h (alike_apply s p)
  | build b => exact invariant_built hstep h (built_build b p)
  | register =>
      rw [Operation.changes, List.append_nil, Operation.perform, Script.run_bind]
      exact halike _ _ _ h (alike_register world p x)
  | close =>
      rw [Operation.changes, List.append_nil]
      exact halike _ _ _ h ⟨rfl, rfl, rfl⟩

theorem invariant_after (world : World σ) (ops : List Operation) (changes : List Change)
    {p : Provider} (h : I changes p) (x : σ) :
    I (changes ++ Operation.history world ops (p, x)) (Operation.after world ops (p, x)).1 := by
  induction ops generalizing changes p x with
  | nil =>
      rw [Operation.history, List.append_nil]
      exact h
  | cons o rest ih =>
      rw [Operation.history, ← List.append_assoc]
      exact ih _ (invariant_perform hstep halike world h o x) _

end Invariant

end Provider

end IntentProvider
