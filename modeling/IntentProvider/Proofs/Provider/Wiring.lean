import IntentProvider.Proofs.Catalogue.Address
import IntentProvider.Proofs.Provider.Served

/-!
Which handler serves a signature. Signatures are kept apart by their scope, but routes only by the
name and the kind, so that a signature is served by the handler of the last procedure that has been
attached under its name to its kind, in whatever scope.
-/

namespace IntentProvider

namespace Attachment

/-- Whether a procedure has been attached in a scope under a name. -/
def isIn (scope : Scope) (name : String) (a : Attachment) : Bool :=
  a.scope == scope && a.name == name

def isOn (path : String) (a : Attachment) : Bool :=
  a.path == path

theorem isIn_iff {scope : Scope} {name : String} {a : Attachment} :
    a.isIn scope name = true ↔ a.scope = scope ∧ a.name = name := by
  simp [isIn]

theorem isOn_iff {path : String} {a : Attachment} : a.isOn path = true ↔ a.path = path := by
  simp [isOn]

/-- The last of some attachments that pass a test. -/
def last? (test : Attachment → Bool) (made : List Attachment) : Option Attachment :=
  made.reverse.find? test

variable {test other : Attachment → Bool} {made : List Attachment} {a b : Attachment}

theorem last?_snoc : last? test (made ++ [a]) = if test a then some a else last? test made := by
  rw [last?, List.reverse_append, List.reverse_singleton, List.singleton_append, List.find?_cons]
  cases test a <;> rfl

theorem last?_eq_some (h : last? test made = some a) : a ∈ made ∧ test a = true :=
  ⟨List.mem_reverse.mp (List.mem_of_find?_eq_some h), List.find?_some h⟩

theorem exists_last? (ha : a ∈ made) (htest : test a = true) : ∃ b, last? test made = some b := by
  apply Option.isSome_iff_exists.mp
  rw [last?, List.find?_isSome]
  exact ⟨a, List.mem_reverse.mpr ha, htest⟩

/-- The last that passes a test is also the last that passes a stronger one, if it passes this. -/
theorem last?_of_imp (himp : ∀ a, other a = true → test a = true) (h : last? test made = some a)
    (ha : other a = true) : last? other made = some a := by
  induction made using List.reverseRecOn with
  | nil => cases h
  | append_singleton made b ih =>
      rw [last?_snoc] at h ⊢
      cases hother : other b with
      | true =>
          rw [himp b hother] at h
          exact h
      | false =>
          cases htest : test b with
          | true =>
              rw [htest] at h
              cases h
              rw [ha] at hother
              cases hother
          | false =>
              rw [htest] at h
              exact ih h

end Attachment

namespace Provider

open IntentProvider.Attachment
open IntentProvider.Provider.Operation

def attachments (changes : List Change) : List Attachment :=
  changes.filterMap Change.attachment?

theorem attachments_snoc (changes : List Change) (change : Change) :
    attachments (changes ++ [change]) = attachments changes ++ change.attachment?.toList := by
  rw [attachments, List.filterMap_append, attachments]
  cases change <;> rfl

/-- What is stored comes from the last attachment in its scope, and what is served on a route from
the last attachment of all that have the route. -/
structure FromLast (c : Config) (made : List Attachment) (p : Provider) : Prop where
  address : p.catalogue.address = addressOf c
  valid : ∀ a ∈ made, ProcedureName.validate a.name a.scope.kind? = .ok ()
  stored : ∀ scope key s, p.catalogue.Stores scope key s →
    ∃ a, last? (isIn scope key) made = some a ∧
      (fresh c).catalogue.signature key scope.kind? a.description = .ok s
  served : ∀ path, p.server.table.routes.get? path = (last? (isOn path) made).map (·.procedure)

variable {c : Config} {made : List Attachment} {change : Change} {p q : Provider}

theorem fromLast_fresh (c : Config) : FromLast c [] (fresh c) where
  address := rfl
  valid _ ha := nomatch ha
  stored _ _ _ h := absurd h (Catalogue.not_stores_empty (addressOf c))
  served _ := rfl

theorem fromLast_mono (h : FromLast c made p) (haddress : q.catalogue.address = p.catalogue.address)
    (hstored : ∀ scope key s, q.catalogue.Stores scope key s → p.catalogue.Stores scope key s)
    (htable : q.server.table = p.server.table) : FromLast c made q := by
  refine ⟨haddress.trans h.address, h.valid, ?_, ?_⟩
  · intro scope key s hs
    exact h.stored scope key s (hstored scope key s hs)
  · intro path
    rw [htable]
    exact h.served path

theorem fromLast_alike (h : FromLast c made p) (halike : Alike p q) : FromLast c made q := by
  refine fromLast_mono h (congrArg Catalogue.address halike.catalogue) ?_ halike.table
  intro scope key s hs
  rw [← halike.catalogue]
  exact hs

theorem signature_congr {b c : Catalogue} (h : b.address = c.address) (name : String)
    (kind : Option String) (d : Description) :
    b.signature name kind d = c.signature name kind d := by
  rw [Catalogue.signature, Catalogue.signature, h]

theorem fromLast_attach {a : Attachment} {s : Signature} {c' : Catalogue}
    (h : FromLast c made p)
    (hs : p.catalogue.signature a.name a.scope.kind? a.description = .ok s)
    (hc : a.scope.insert s p.catalogue = .ok c') :
    FromLast c (made ++ [a])
      { p with catalogue := c', server := p.server.register a.path a.procedure } := by
  refine ⟨(Catalogue.address_insert hc).trans h.address, ?_, ?_, ?_⟩
  · intro b hb
    rcases List.mem_append.mp hb with hb | hb
    · exact h.valid b hb
    · rw [List.mem_singleton.mp hb]
      exact (Catalogue.signature_eq_ok hs).1
  · intro scope key t ht
    rw [last?_snoc]
    have hname : s.name = a.name := by
      rw [(Catalogue.signature_eq_ok hs).2.2]
    rcases Catalogue.stores_insert hc ht with ⟨rfl, rfl, rfl⟩ | ⟨ht, hother⟩
    · refine ⟨a, ?_, ?_⟩
      · rw [if_pos (isIn_iff.mpr ⟨rfl, hname.symm⟩)]
      · rw [hname, ← hs]
        exact signature_congr h.address.symm _ _ _
    · have hnot : ¬ a.isIn scope key = true := by
        intro hin
        obtain ⟨rfl, rfl⟩ := isIn_iff.mp hin
        exact hother ⟨rfl, hname.symm⟩
      rw [if_neg hnot]
      exact h.stored scope key t ht
  · intro path
    show (p.server.table.routes.insert a.path a.procedure).get? path = _
    rw [SortedMap.get?_insert, last?_snoc, h.served]
    by_cases hpath : path = a.path
    · rw [if_pos hpath, if_pos (isOn_iff.mpr hpath.symm)]
      rfl
    · rw [if_neg hpath, if_neg fun hon => hpath (isOn_iff.mp hon).symm]

theorem fromLast_step (h : FromLast c made p) (hstep : Step p change q) :
    FromLast c (made ++ change.attachment?.toList) q := by
  rcases step_cases hstep with ⟨hnone, haddress, hstored, hserver⟩ | ⟨a, s, c', rfl, hs, hc, rfl⟩
  · rw [hnone, Option.toList_none, List.append_nil]
    exact fromLast_mono h haddress hstored (congrArg Server.table hserver)
  · exact fromLast_attach h hs hc

theorem fromLast_after {σ : Type} (world : World σ) (c : Config) (ops : List Operation) (x : σ) :
    FromLast c (attachments (history world ops (fresh c, x)))
      (after world ops (fresh c, x)).1 := by
  have hstep : ∀ changes change p q, FromLast c (attachments changes) p → Step p change q →
      FromLast c (attachments (changes ++ [change])) q := by
    intro changes change p q h hstep
    rw [attachments_snoc]
    exact fromLast_step h hstep
  have halike : ∀ changes p q, FromLast c (attachments changes) p → Alike p q →
      FromLast c (attachments changes) q := fun _ _ _ => fromLast_alike
  exact invariant_after hstep halike world ops [] (fromLast_fresh c) x

theorem stores_of_descriptor {d : Descriptor} (hd : p.descriptor = .ok d) {scope : Scope}
    {key : String} {s : Signature} (h : d.Stores scope key s) : p.catalogue.Stores scope key s := by
  rw [Descriptor.Stores, (descriptor_eq_ok hd).1, (descriptor_eq_ok hd).2.1] at h
  exact h

/-- Of the attachments under a name, `a` is the last one in a scope and `last` the last one to its
kind, whose handler is served. -/
structure ServedByLast (made : List Attachment) (p : Provider) (scope : Scope) (key : String)
    (a last : Attachment) : Prop where
  recorded : last? (isIn scope key) made = some a
  wired : last? (isOn (routePath key scope.kind?)) made = some last
  name : last.name = key
  kind : last.scope.kind? = scope.kind?
  served : p.server.table.routes.get? (routePath key scope.kind?) = some last.procedure

theorem servedByLast_of_stores (h : FromLast c made p) {scope : Scope} {key : String}
    {s : Signature} (hs : p.catalogue.Stores scope key s) :
    ∃ a last, ServedByLast made p scope key a last ∧
      (fresh c).catalogue.signature key scope.kind? a.description = .ok s := by
  obtain ⟨a, hrecorded, hsignature⟩ := h.stored scope key s hs
  obtain ⟨hmade, hin⟩ := last?_eq_some hrecorded
  obtain ⟨rfl, rfl⟩ := isIn_iff.mp hin
  obtain ⟨last, hwired⟩ := exists_last? hmade (isOn_iff.mpr rfl)
  obtain ⟨hlast, hon⟩ := last?_eq_some hwired
  -- names have no slash, so that a route tells which name and which kind it is for
  obtain ⟨hname, hkind⟩ := routePath_inj
    (ProcedureName.slash_notMem (h.valid last hlast))
    (ProcedureName.slash_notMem (h.valid a hmade)) (isOn_iff.mp hon)
  refine ⟨a, last, ⟨hrecorded, hwired, hname, hkind, ?_⟩, hsignature⟩
  rw [h.served]
  exact congrArg (Option.map Attachment.procedure) hwired

namespace ServedByLast

variable {scope : Scope} {key : String} {a last : Attachment}

theorem eq_of_scope (h : ServedByLast made p scope key a last) (hscope : last.scope = scope) :
    last = a := by
  have himp : ∀ b, isIn scope key b = true → isOn (routePath key scope.kind?) b = true := by
    intro b hb
    obtain ⟨rfl, rfl⟩ := isIn_iff.mp hb
    exact isOn_iff.mpr rfl
  have hlast : last? (isIn scope key) made = some last :=
    last?_of_imp himp h.wired (isIn_iff.mpr ⟨hscope, h.name⟩)
  rw [h.recorded] at hlast
  cases hlast
  rfl

theorem served_iff (h : ServedByLast made p scope key a last) :
    p.server.table.routes.get? (routePath key scope.kind?) = some a.procedure ↔
      last.handler = a.handler := by
  obtain ⟨rfl, rfl⟩ := isIn_iff.mp (last?_eq_some h.recorded).2
  have hoperation : last.procedure.operation = a.procedure.operation := by
    show operationName last.name last.scope.kind? = operationName a.name a.scope.kind?
    rw [h.name, h.kind]
  rw [h.served, Option.some.injEq]
  constructor
  · intro hprocedure
    exact congrArg Procedure.handler hprocedure
  · intro hhandler
    calc last.procedure = ⟨last.procedure.operation, last.handler⟩ := rfl
      _ = ⟨a.procedure.operation, a.handler⟩ := by rw [hoperation, hhandler]

end ServedByLast

/-- A signature that the engine would be told of has been recorded by the last attachment under its
name in its scope, and is served by the handler of the last attachment under its name to its kind.
These are the same if the latter has been made in the same scope. Otherwise the handler is the
wanted one only if both have been given the same, and it takes an entity as the scope asks for only
if both scopes agree on that. -/
theorem served_by_last {σ : Type} (world : World σ) (c : Config) (x : σ) (ops : List Operation)
    {d : Descriptor} (hd : (after world ops (fresh c, x)).1.descriptor = .ok d) {scope : Scope}
    {key : String} {s : Signature} (hs : d.Stores scope key s) :
    ∃ a last,
      ServedByLast (attachments (history world ops (fresh c, x)))
        (after world ops (fresh c, x)).1 scope key a last ∧
      (fresh c).catalogue.signature key scope.kind? a.description = .ok s ∧
      (last.scope = scope → last = a) ∧
      ((after world ops (fresh c, x)).1.server.table.routes.get? (routePath key scope.kind?) =
          some a.procedure ↔ last.handler = a.handler) ∧
      (last.handler.takesEntity = scope.takesEntity ↔
        last.scope.takesEntity = scope.takesEntity) := by
  obtain ⟨a, last, hserved, hsignature⟩ :=
    servedByLast_of_stores (fromLast_after world c ops x) (stores_of_descriptor hd hs)
  refine ⟨a, last, hserved, hsignature, hserved.eq_of_scope, hserved.served_iff, ?_⟩
  rw [last.fits]

/-- Operations that attach two procedures to a kind under one name, one to its entities and one to
the kind as a whole. -/
def doubled : List Operation :=
  prepared ++
    [.build (.attachEntityProcedure "Bucket" "resize" {} fun _ _ input => .done (.value input)),
      .build (.attachKindProcedure "Bucket" "resize" {} fun _ input => .done (.value input))]

def postsFor (kind name : String) : Except Failure Descriptor → Bool
  | .ok d => d.kinds.any fun k =>
      k.name == kind && k.entityProcedures.entries.any fun e => e.1 == name
  | .error _ => false

theorem exists_stores_of_postsFor {answer : Except Failure Descriptor} {kind name : String}
    (h : postsFor kind name answer) : ∃ d s, answer = .ok d ∧ d.Stores (.entity kind) name s := by
  cases answer with
  | error f => cases h
  | ok d =>
      obtain ⟨k, hk, hboth⟩ := List.any_eq_true.mp h
      obtain ⟨hname, hentries⟩ := Bool.and_eq_true_iff.mp hboth
      obtain ⟨⟨key, s⟩, he, hkey⟩ := List.any_eq_true.mp hentries
      obtain rfl := beq_iff_eq.mp hkey
      exact ⟨d, s, rfl, k, hk, beq_iff_eq.mp hname, he⟩

theorem served_by_last_doubled :
    ∃ d s, (after agreeable doubled (fresh nearby, ())).1.descriptor = .ok d ∧
      d.Stores (.entity "Bucket") "resize" s ∧
      ∃ a last, ServedByLast (attachments (history agreeable doubled (fresh nearby, ())))
        (after agreeable doubled (fresh nearby, ())).1 (.entity "Bucket") "resize" a last := by
  obtain ⟨d, s, hd, hs⟩ := exists_stores_of_postsFor
    (show postsFor "Bucket" "resize"
      (after agreeable doubled (fresh nearby, ())).1.descriptor by decide +kernel)
  obtain ⟨a, last, hserved, -⟩ := served_by_last agreeable nearby () doubled hd hs
  exact ⟨d, s, hd, hs, a, last, hserved⟩

/-- The procedure of an entity is served by a handler that takes none, once a procedure of the kind
has been given the same name. -/
theorem not_served_when_attached_twice :
    ¬ ∀ (world : World Unit) (c : Config) (ops : List Operation) (d : Descriptor),
      (after world ops (fresh c, ())).1.descriptor = .ok d →
        ∀ scope key s, d.Stores scope key s → ∃ a,
          last? (isIn scope key) (attachments (history world ops (fresh c, ()))) = some a ∧
          (after world ops (fresh c, ())).1.server.table.routes.get?
            (routePath key scope.kind?) = some a.procedure := by
  intro h
  obtain ⟨d, s, hd, hs⟩ := exists_stores_of_postsFor
    (show postsFor "Bucket" "resize"
      (after agreeable doubled (fresh nearby, ())).1.descriptor by decide +kernel)
  obtain ⟨a, hrecorded, hserved⟩ := h agreeable nearby doubled d hd _ _ s hs
  have hscope := (isIn_iff.mp (last?_eq_some hrecorded).2).1
  have htakes : a.handler.takesEntity = true := by
    rw [a.fits, hscope]
    rfl
  have hnone : ((after agreeable doubled (fresh nearby, ())).1.server.table.routes.get?
      "/Bucket/resize").all fun procedure => !procedure.handler.takesEntity := by decide +kernel
  change (after agreeable doubled (fresh nearby, ())).1.server.table.routes.get?
    "/Bucket/resize" = some a.procedure at hserved
  rw [hserved] at hnone
  change (!a.handler.takesEntity) = true at hnone
  rw [htakes] at hnone
  cases hnone

end Provider

end IntentProvider
