import IntentProvider.Proofs.Catalogue.Advertised
import IntentProvider.Provider.Assembly

/-!
What the assembly of a provider can do. All attachments are cases of one: a signature is made, is
recorded in a scope, and its route is served. Every call of the assembly either is rejected and
changes nothing, or it makes the changes that belong to it, one step after the other.
-/

namespace IntentProvider

/-- Whether procedures of a scope are given the entity that a callback is about. -/
def Scope.takesEntity : Scope → Bool
  | provider => false
  | kind _ => false
  | entity _ => true
  | hook _ => true

def Handler.takesEntity : Handler → Bool
  | withEntity _ => true
  | inputOnly _ => false

/-- What is said about a procedure when it is attached in a scope, and its handler. -/
structure Attachment where
  scope : Scope
  name : String
  description : Description
  handler : Handler
  /-- The handler is of the form that the scope asks for. -/
  fits : handler.takesEntity = scope.takesEntity := by rfl

namespace Attachment

def ofProcedure (name : String) (d : Description) (work : InputWork) : Attachment where
  scope := .provider
  name := name
  description := d
  handler := .inputOnly work

def ofEntityProcedure (kind name : String) (d : Description) (work : EntityWork) :
    Attachment where
  scope := .entity kind
  name := name
  description := d
  handler := .withEntity work

def ofKindProcedure (kind name : String) (d : Description) (work : InputWork) : Attachment where
  scope := .kind kind
  name := name
  description := d
  handler := .inputOnly work

def ofHook (kind path : String) (work : EntityWork) : Attachment where
  scope := .hook kind
  name := path
  description := Catalogue.hookDescription
  handler := .withEntity work

def path (a : Attachment) : String :=
  routePath a.name a.scope.kind?

/-- What is served on the route. -/
def procedure (a : Attachment) : Procedure :=
  ⟨operationName a.name a.scope.kind?, a.handler⟩

end Attachment

/-- The failures with which a call of the assembly is rejected. -/
inductive Failure.IsRejection : Failure → Prop where
  | schema (fault : SchemaFault) : IsRejection (.schema fault)
  | emptyKind : IsRejection .emptyKind
  | invalidErrorCode (procedure code : String) : IsRejection (.invalidErrorCode procedure code)
  | invalidName (name : String) (fault : NameFault) : IsRejection (.invalidName name fault)
  | missingMetadataExtension (task : String) : IsRejection (.missingMetadataExtension task)

namespace Provider

/-- What a single step of the assembly does. -/
inductive Change where
  | addKind (k : Kind)
  | removeKind (name : String)
  | setRetryExponent (name : String) (exponent : Option UInt32)
  | attach (a : Attachment)

inductive Step (p : Provider) : Change → Provider → Prop where
  | addKind (k : Kind) (hk : k.signatures = []) (hfree : p.catalogue.kind? k.name = none) :
      Step p (.addKind k) { p with catalogue := (p.catalogue.addKind k).1 }
  | removeKind (name : String) :
      Step p (.removeKind name) { p with catalogue := (p.catalogue.removeKind name).1 }
  | setRetryExponent (name : String) (exponent : Option UInt32) :
      Step p (.setRetryExponent name exponent)
        { p with catalogue := p.catalogue.setRetryExponent name exponent }
  | attach (a : Attachment) {s : Signature} {c : Catalogue}
      (hs : p.catalogue.signature a.name a.scope.kind? a.description = .ok s)
      (hc : a.scope.insert s p.catalogue = .ok c) :
      Step p (.attach a)
        { p with catalogue := c, server := p.server.register a.path a.procedure }

/-- The provider that some changes have led to, the oldest of them first. -/
inductive Built (p : Provider) : List Change → Provider → Prop where
  | refl : Built p [] p
  | step {changes : List Change} {change : Change} {q r : Provider} :
      Built p changes q → Step q change r → Built p (changes ++ [change]) r

end Provider

namespace Assembly

open IntentProvider.Json
open IntentProvider.Provider

/-- A part of the assembly changes nothing if it is rejected, and makes its changes if not. -/
def Proper {α : Type} (x : Assembly α) (changes : Catalogue → List Change) : Prop :=
  ∀ p, (∃ f, f.IsRejection ∧ x p = .error f p) ∨
    ∃ a p', x p = .ok a p' ∧ Built p (changes p.catalogue) p'

def attach (a : Attachment) : Assembly Unit := do
  let s ← consult fun c => c.signature a.name a.scope.kind? a.description
  record (a.scope.insert s)
  serve a.name a.scope.kind? a.handler

theorem attachProcedure_eq (name : String) (d : Description) (work : InputWork) :
    attachProcedure name d work = attach (.ofProcedure name d work) := rfl

theorem attachEntityProcedure_eq (kind name : String) (d : Description) (work : EntityWork) :
    attachEntityProcedure kind name d work = attach (.ofEntityProcedure kind name d work) := rfl

theorem attachKindProcedure_eq (kind name : String) (d : Description) (work : InputWork) :
    attachKindProcedure kind name d work = attach (.ofKindProcedure kind name d work) := rfl

section Bind

variable {α β : Type} {x : Assembly α} {p p' : Provider}

theorem bind_of_ok {a : α} (h : x p = .ok a p') (f : α → Assembly β) : (x >>= f) p = f a p' := by
  change EStateM.bind x f p = f a p'
  rw [EStateM.bind, h]

theorem bind_of_error {e : Failure} (h : x p = .error e p') (f : α → Assembly β) :
    (x >>= f) p = .error e p' := by
  change EStateM.bind x f p = .error e p'
  rw [EStateM.bind, h]

theorem discard_of_ok {a : α} (h : x p = .ok a p') : discard x p = .ok () p' := by
  change EStateM.map _ x p = .ok () p'
  rw [EStateM.map, h]

theorem discard_of_error {e : Failure} (h : x p = .error e p') : discard x p = .error e p' := by
  change EStateM.map _ x p = .error e p'
  rw [EStateM.map, h]

theorem consult_of_ok {f : Catalogue → Except Failure α} {a : α} (h : f p.catalogue = .ok a) :
    consult f p = .ok a p := by
  rw [consult, h]

theorem consult_of_error {f : Catalogue → Except Failure α} {e : Failure}
    (h : f p.catalogue = .error e) : consult f p = .error e p := by
  rw [consult, h]

end Bind

theorem attachHook_eq (kind path : String) (work : EntityWork) :
    attachHook kind path work = attach (.ofHook kind path work) := by
  funext p
  cases hs : p.catalogue.signature path (some kind) Catalogue.hookDescription with
  | error e =>
      have hhook : p.catalogue.hook path kind = .error e := by
        rw [Catalogue.hook_eq, hs]
        rfl
      rw [attachHook, attach, bind_of_error (consult_of_error hhook)]
      exact (bind_of_error (consult_of_error hs) _).symm
  | ok s =>
      have hhook : p.catalogue.hook path kind = .ok ⟨path, s⟩ := by
        rw [Catalogue.hook_eq, hs]
        rfl
      have hname : s.name = path := by
        rw [(Catalogue.signature_eq_ok hs).2.2]
      rw [attachHook, bind_of_ok (consult_of_ok hhook)]
      refine Eq.trans ?_ (bind_of_ok (consult_of_ok hs) _).symm
      rw [← hname]
      rfl

theorem isRejection_of_signature {c : Catalogue} {name : String} {kind : Option String}
    {d : Description} {f : Failure} (h : c.signature name kind d = .error f) : f.IsRejection := by
  unfold Catalogue.signature ProcedureName.validate ErrorCode.validate at h
  split at h
  · cases h
    exact .invalidName _ _
  · split at h
    · cases h
      exact .invalidErrorCode _ _
    · cases h

theorem isRejection_of_insert {scope : Scope} {s : Signature} {c : Catalogue} {f : Failure}
    (h : scope.insert s c = .error f) : f.IsRejection := by
  have honKind : ∀ name g, c.onKind name g = .error f → f.IsRejection := by
    intro name g hg
    unfold Catalogue.onKind at hg
    split at hg
    · cases hg
    · cases hg
      exact .schema _
  cases scope with
  | provider => cases h
  | kind name => exact honKind _ _ h
  | entity name => exact honKind _ _ h
  | hook name => exact honKind _ _ h

theorem isRejection_of_declare {declaration : Value} {f : Failure}
    (h : Kind.declare declaration = .error f) : f.IsRejection := by
  unfold Kind.declare at h
  split at h
  · cases h
    exact .emptyKind
  · split at h
    · cases h
      exact .schema _
    · split at h
      · cases h
      · cases h
        exact .schema _
  · cases h
    exact .schema _

theorem attach_of_ok {p : Provider} {a : Attachment} {s : Signature} {c : Catalogue}
    (hs : p.catalogue.signature a.name a.scope.kind? a.description = .ok s)
    (hc : a.scope.insert s p.catalogue = .ok c) :
    attach a p =
      .ok () { p with catalogue := c, server := p.server.register a.path a.procedure } := by
  have hrecord : record (a.scope.insert s) p = .ok () { p with catalogue := c } := by
    rw [record, hc]
  rw [attach, bind_of_ok (consult_of_ok hs), bind_of_ok hrecord]
  rfl

/-- A procedure is attached as a whole or not at all. -/
theorem attach_cases (a : Attachment) (p : Provider) :
    (∃ f, f.IsRejection ∧ attach a p = .error f p) ∨
      ∃ s c, p.catalogue.signature a.name a.scope.kind? a.description = .ok s ∧
        a.scope.insert s p.catalogue = .ok c ∧
        attach a p =
          .ok () { p with catalogue := c, server := p.server.register a.path a.procedure } := by
  cases hs : p.catalogue.signature a.name a.scope.kind? a.description with
  | error e =>
      exact .inl ⟨e, isRejection_of_signature hs, bind_of_error (consult_of_error hs) _⟩
  | ok s =>
      cases hc : a.scope.insert s p.catalogue with
      | error e =>
          have hrecord : record (a.scope.insert s) p = .error e p := by
            rw [record, hc]
          refine .inl ⟨e, isRejection_of_insert hc, ?_⟩
          rw [attach, bind_of_ok (consult_of_ok hs), bind_of_error hrecord]
      | ok c => exact .inr ⟨s, c, rfl, hc, attach_of_ok hs hc⟩

theorem proper_attach (a : Attachment) : Proper (attach a) fun _ => [.attach a] := by
  intro p
  rcases attach_cases a p with ⟨f, hf, h⟩ | ⟨s, c, hs, hc, h⟩
  · exact .inl ⟨f, hf, h⟩
  · exact .inr ⟨(), _, h, .step .refl (.attach a hs hc)⟩

theorem proper_discard {α : Type} {x : Assembly α} {changes : Catalogue → List Change}
    (hx : Proper x changes) : Proper (discard x) changes := by
  intro p
  rcases hx p with ⟨f, hf, h⟩ | ⟨a, p', h, hbuilt⟩
  · exact .inl ⟨f, hf, discard_of_error h⟩
  · exact .inr ⟨(), p', discard_of_ok h, hbuilt⟩

/-- The changes of a call that adds a kind, which are none if the kind is there. -/
def additions (k : Kind) (c : Catalogue) : List Change :=
  match c.kind? k.name with
  | some _ => []
  | none => [.addKind k]

theorem proper_addKind {k : Kind} (hk : k.signatures = []) : Proper (addKind k) (additions k) := by
  intro p
  cases hfind : p.catalogue.kind? k.name with
  | some other =>
      refine .inr ⟨false, p, ?_, ?_⟩
      · simp [addKind, Catalogue.addKind, hfind]
      · rw [additions, hfind]
        exact .refl
  | none =>
      have hchanges : additions k p.catalogue = [.addKind k] := by
        rw [additions, hfind]
      refine .inr ⟨_, _, rfl, ?_⟩
      rw [hchanges]
      exact .step .refl (.addKind k hk hfind)

theorem proper_removeKind (name : String) :
    Proper (removeKind name) fun _ => [.removeKind name] :=
  fun _ => .inr ⟨_, _, rfl, .step .refl (.removeKind name)⟩

theorem proper_setRetryExponent (kind : String) (exponent : Option UInt32) :
    Proper (setRetryExponent kind exponent) fun _ => [.setRetryExponent kind exponent] :=
  fun _ => .inr ⟨_, _, rfl, .step .refl (.setRetryExponent kind exponent)⟩

theorem declareKind_cases (declaration : Value) (p : Provider) :
    (∃ f, f.IsRejection ∧ declareKind declaration p = .error f p) ∨
      ∃ k, Kind.declare declaration = .ok k ∧ p.catalogue.kind? k.name = none ∧
        declareKind declaration p =
          .ok k.name { p with catalogue := (p.catalogue.addKind k).1 } := by
  cases hk : Kind.declare declaration with
  | error f =>
      exact .inl ⟨f, isRejection_of_declare hk, bind_of_error (consult_of_error hk) _⟩
  | ok k =>
      have hdeclare : declareKind declaration p = (do
          if ← addKind k then return k.name else throw (.schema (.alreadyDeclared k.name))
          : Assembly String) p :=
        bind_of_ok (consult_of_ok hk) _
      cases hfind : p.catalogue.kind? k.name with
      | none =>
          have hadd : addKind k p = .ok true { p with catalogue := (p.catalogue.addKind k).1 } := by
            simp [addKind, Catalogue.addKind, hfind]
          refine .inr ⟨k, rfl, hfind, ?_⟩
          rw [hdeclare, bind_of_ok hadd]
          rfl
      | some other =>
          have hadd : addKind k p = .ok false p := by
            simp [addKind, Catalogue.addKind, hfind]
          refine .inl ⟨.schema (.alreadyDeclared k.name), .schema _, ?_⟩
          rw [hdeclare, bind_of_ok hadd]
          rfl

/-- The changes that follow from a declaration if it makes a kind. -/
def declared (declaration : Value) (changes : Kind → List Change) : List Change :=
  match Kind.declare declaration with
  | .ok k => changes k
  | .error _ => []

theorem declared_of_ok {declaration : Value} {k : Kind} (h : Kind.declare declaration = .ok k)
    (changes : Kind → List Change) : declared declaration changes = changes k := by
  rw [declared, h]

theorem proper_declareKind (declaration : Value) :
    Proper (declareKind declaration) fun _ => declared declaration fun k => [.addKind k] := by
  intro p
  rcases declareKind_cases declaration p with ⟨f, hf, h⟩ | ⟨k, hk, hfree, h⟩
  · exact .inl ⟨f, hf, h⟩
  · refine .inr ⟨_, _, h, ?_⟩
    rw [declared_of_ok hk]
    exact .step .refl (.addKind k (Kind.signatures_of_declare hk) hfree)

/-- The description of a constructor, with the schema of the kind as the one of the input unless
another schema is given. -/
def describedConstructor (kind : String) (d : Description) (c : Catalogue) : Description :=
  { d with input := d.input.or ((c.kind? kind).map (·.schema)) }

theorem constructorDescription_cases (kind : String) (d : Description) (p : Provider) :
    (∃ f, f.IsRejection ∧ constructorDescription kind d p = .error f p) ∨
      constructorDescription kind d p = .ok (describedConstructor kind d p.catalogue) p := by
  unfold constructorDescription describedConstructor
  rcases d with ⟨input, output, errors, text⟩
  cases input with
  | some schema => exact .inr rfl
  | none =>
      cases hk : p.catalogue.kind? kind with
      | none =>
          have hschema : schemaOf kind p.catalogue = .error (.schema (.unknownKind kind)) := by
            rw [schemaOf, hk]
          exact .inl ⟨_, .schema _, bind_of_error (consult_of_error hschema) _⟩
      | some k =>
          have hschema : schemaOf kind p.catalogue = .ok k.schema := by
            rw [schemaOf, hk]
          exact .inr (bind_of_ok (consult_of_ok hschema) _)

def attachedConstructor (kind : String) (d : Description)
    (work : Callback → Value → Activity (Outcome Construction)) (c : Catalogue) : Attachment :=
  .ofKindProcedure kind (constructorName kind) (describedConstructor kind d c) (.constructing work)

theorem proper_attachConstructor (kind : String) (d : Description)
    (work : Callback → Value → Activity (Outcome Construction)) :
    Proper (attachConstructor kind d work) fun c =>
      [.attach (attachedConstructor kind d work c)] := by
  intro p
  rcases constructorDescription_cases kind d p with ⟨f, hf, h⟩ | h
  · exact .inl ⟨f, hf, bind_of_error h _⟩
  · rw [attachConstructor, bind_of_ok h, attachKindProcedure_eq]
    exact proper_attach _ p

theorem kind?_addKind_self {c : Catalogue} {k : Kind} (h : c.kind? k.name = none) :
    (c.addKind k).1.kind? k.name = some k := by
  rw [Catalogue.kind?_addKind, h, if_pos rfl]
  rfl

/-- The hook of a task can be attached as soon as there is the kind of the task. -/
theorem attachHook_stateField {p : Provider} {k : Kind} {kind : String}
    (hk : p.catalogue.kind? kind = some k) (work : EntityWork) :
    ∃ p', attachHook kind Task.stateField work p = .ok () p' ∧
      Step p (.attach (.ofHook kind Task.stateField work)) p' := by
  have hname : ProcedureName.validate Task.stateField (some kind) = .ok () := by
    have hfault : ProcedureName.fault? Task.stateField (some kind) = none := by
      rw [ProcedureName.fault?, if_neg (by decide), if_neg (by decide), if_neg (by simp)]
    rw [ProcedureName.validate, hfault]
  obtain ⟨s, hs⟩ : ∃ s, p.catalogue.signature Task.stateField (some kind)
      Catalogue.hookDescription = .ok s := by
    rw [Catalogue.signature, hname]
    exact ⟨_, rfl⟩
  obtain ⟨c, hc⟩ : ∃ c, (Scope.hook kind).insert s p.catalogue = .ok c := by
    rw [Scope.insert, Catalogue.insertHook, Catalogue.onKind, hk]
    exact ⟨_, rfl⟩
  rw [attachHook_eq]
  exact ⟨_, attach_of_ok hs hc, .attach (.ofHook kind Task.stateField work) hs hc⟩

theorem name_of_declare_schema {name : String} {payload : Option Value} {k : Kind}
    (h : Kind.declare (Task.schema name payload) = .ok k) : k.name = name := by
  unfold Kind.declare Task.schema at h
  dsimp only at h
  split at h
  · cases h
  · split at h
    · cases h
      rfl
    · cases h

def attachedTask (name : String) (interval : Nat)
    (work : Callback → Value → Activity (Outcome Unit)) : Attachment :=
  .ofHook name Task.stateField (.observing interval work)

def taskSchema (name : String) (payload : Option Value) : Value :=
  Task.schema name (payload.map Task.markStatusOnly)

/-- A task is attached as a whole or not at all: its kind is declared, and the hook is attached to
that kind. -/
theorem attachTask_cases (name : String) (interval : Nat)
    (work : Callback → Value → Activity (Outcome Unit)) (extension : Option Document)
    (payload : Option Value) (p : Provider) :
    (∃ f, f.IsRejection ∧ attachTask name interval work extension payload p = .error f p) ∨
      ∃ k p', Kind.declare (taskSchema name payload) = .ok k ∧ p.catalogue.kind? name = none ∧
        attachTask name interval work extension payload p =
          .ok { name, extension := extension.getD {} } p' ∧
        Step p (.addKind k) { p with catalogue := (p.catalogue.addKind k).1 } ∧
        Step { p with catalogue := (p.catalogue.addKind k).1 }
          (.attach (attachedTask name interval work)) p' := by
  have hget : (get : Assembly Provider) p = .ok p p := rfl
  by_cases hwants : p.wantsExtension && extension.isNone
  · refine .inl ⟨.missingMetadataExtension name, .missingMetadataExtension name, ?_⟩
    rw [attachTask, bind_of_ok hget, if_pos hwants]
    rfl
  · have hattach : attachTask name interval work extension payload p = (do
        let kind ← declareKind (taskSchema name payload)
        attachHook kind Task.stateField (.observing interval work)
        return { name, extension := extension.getD {} } : Assembly Task) p := by
      rw [attachTask, bind_of_ok hget, if_neg hwants]
      rfl
    rw [hattach]
    rcases declareKind_cases (taskSchema name payload) p with ⟨f, hf, h⟩ | ⟨k, hk, hfree, h⟩
    · exact .inl ⟨f, hf, bind_of_error h _⟩
    -- the kind is there now, so that the hook cannot be refused any more
    · have hkind : (p.catalogue.addKind k).1.kind? k.name = some k := kind?_addKind_self hfree
      obtain ⟨p', hhook, hstep⟩ := attachHook_stateField
        (p := { p with catalogue := (p.catalogue.addKind k).1 }) hkind (.observing interval work)
      have hadd := Step.addKind k (Kind.signatures_of_declare hk) hfree
      rw [bind_of_ok h, bind_of_ok hhook]
      obtain rfl : k.name = name := name_of_declare_schema hk
      exact .inr ⟨k, p', hk, hfree, rfl, hadd, hstep⟩

theorem proper_attachTask (name : String) (interval : Nat)
    (work : Callback → Value → Activity (Outcome Unit)) (extension : Option Document)
    (payload : Option Value) :
    Proper (attachTask name interval work extension payload) fun _ =>
      declared (taskSchema name payload) fun k =>
        [.addKind k, .attach (attachedTask name interval work)] := by
  intro p
  rcases attachTask_cases name interval work extension payload p with
    hreject | ⟨k, p', hk, -, h, hadd, hattach⟩
  · exact .inl hreject
  · refine .inr ⟨_, p', h, ?_⟩
    rw [declared_of_ok hk]
    exact .step (.step .refl hadd) hattach

end Assembly

end IntentProvider
