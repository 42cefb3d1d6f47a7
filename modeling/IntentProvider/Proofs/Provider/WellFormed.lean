import IntentProvider.Proofs.Catalogue.ErrorCode
import IntentProvider.Proofs.Catalogue.Kinds
import IntentProvider.Proofs.Provider.Operation

/-!
The representation invariant of a provider. Whatever is done to a provider, and whether or not it
succeeds, the kinds are those whose declarations have survived, in their order, and every signature
is stored under its name, agrees with the settings and has a route.
-/

namespace IntentProvider

theorem CallbackAddress.base_addressOf (c : Config) :
    (Provider.addressOf c).base = c.callbackBaseUrl := by
  simp [base, Provider.addressOf, Config.callbackBaseUrl, Config.withPort, String.append_assoc]

namespace Provider

open IntentProvider.Provider.Operation

namespace Change

def declares? : Change → Option String
  | addKind k => some k.name
  | removeKind _ => none
  | setRetryExponent _ _ => none
  | attach _ => none

def removes (name : String) : Change → Bool
  | addKind _ => false
  | removeKind other => other == name
  | setRetryExponent _ _ => false
  | attach _ => false

/-- The kinds that have been declared and not been removed since, in the order of these
declarations. -/
def surviving : List Change → List String
  | [] => []
  | change :: later =>
      match change.declares? with
      | none => surviving later
      | some name => if later.any (removes name) then surviving later else name :: surviving later

theorem surviving_snoc_addKind (changes : List Change) (k : Kind) :
    surviving (changes ++ [addKind k]) = surviving changes ++ [k.name] := by
  induction changes with
  | nil => rfl
  | cons change later ih =>
      rw [List.cons_append, surviving, surviving, ih]
      cases change.declares? with
      | none => rfl
      | some name =>
          have hkeeps : (later ++ [addKind k]).any (removes name) = later.any (removes name) := by
            simp [removes]
          simp only [hkeeps]
          split <;> rfl

theorem surviving_snoc_removeKind (changes : List Change) (name : String) :
    surviving (changes ++ [removeKind name]) = (surviving changes).filter (· != name) := by
  induction changes with
  | nil => rfl
  | cons change later ih =>
      rw [List.cons_append, surviving, surviving, ih]
      cases change.declares? with
      | none => rfl
      | some other =>
          have hremoves : (later ++ [removeKind name]).any (removes other) =
              (later.any (removes other) || name == other) := by
            simp [removes]
          simp only [hremoves]
          cases later.any (removes other) with
          | true => rfl
          | false =>
              by_cases hname : name = other
              · simp [hname]
              · have hother : other ≠ name := fun h => hname h.symm
                simp [hname, hother]

theorem surviving_snoc_of_keeps {change : Change} (hdeclares : change.declares? = none)
    (hremoves : ∀ name, removes name change = false) (changes : List Change) :
    surviving (changes ++ [change]) = surviving changes := by
  induction changes with
  | nil => simp [surviving, hdeclares]
  | cons first later ih =>
      rw [List.cons_append, surviving, surviving, ih]
      cases first.declares? with
      | none => rfl
      | some name =>
          have hkeeps : (later ++ [change]).any (removes name) = later.any (removes name) := by
            simp [hremoves]
          simp only [hkeeps]

end Change

/-- A signature that is stored under a key agrees with the settings, and its route is there. -/
structure WellMade (c : Config) (server : Server Procedure) (kind : Option String) (key : String)
    (s : Signature) : Prop where
  name : s.name = key
  valid : ProcedureName.validate key kind = .ok ()
  codes : ∀ code ∈ s.errors.keys,
    ∃ n, Text.Radix.read? 10 65536 code.toList = some n ∧ 400 ≤ n ∧ n ≤ 599
  base : s.baseCallback = c.callbackBaseUrl
  callback : s.procedureCallback = c.callbackBaseUrl ++ routePath key kind
  routed : server.hasRoute (routePath key kind) = true

structure WellFormed (c : Config) (changes : List Change) (p : Provider) : Prop where
  address : p.catalogue.address = addressOf c
  names : p.catalogue.names = Change.surviving changes
  nodup : p.catalogue.names.Nodup
  hooks : ∀ k ∈ p.catalogue.kinds, k.DistinctHooks
  stored : ∀ scope key s, p.catalogue.Stores scope key s →
    WellMade c p.server scope.kind? key s

variable {c : Config} {changes : List Change} {change : Change} {p q : Provider}

theorem wellMade_of_signature {name : String} {kind : Option String} {d : Description}
    {s : Signature} (haddress : p.catalogue.address = addressOf c)
    (hs : p.catalogue.signature name kind d = .ok s) {server : Server Procedure}
    (hroute : server.hasRoute (routePath name kind) = true) : WellMade c server kind name s := by
  obtain ⟨hvalid, herrors, rfl⟩ := Catalogue.signature_eq_ok hs
  refine ⟨rfl, hvalid, ?_, ?_, ?_, hroute⟩
  · intro code hcode
    exact ErrorCode.isValid_iff.mp (ErrorCode.validate_eq_ok_iff.mp herrors _ hcode)
  · show p.catalogue.address.base = c.callbackBaseUrl
    rw [haddress, CallbackAddress.base_addressOf]
  · show p.catalogue.address.base ++ routePath name kind = c.callbackBaseUrl ++ routePath name kind
    rw [haddress, CallbackAddress.base_addressOf]

theorem wellMade_mono {server server' : Server Procedure} {kind : Option String} {key : String}
    {s : Signature} (h : WellMade c server kind key s)
    (hkeeps : ∀ path, server.hasRoute path = true → server'.hasRoute path = true) :
    WellMade c server' kind key s :=
  { h with routed := hkeeps _ h.routed }

theorem wellFormed_fresh (c : Config) : WellFormed c [] (fresh c) where
  address := rfl
  names := rfl
  nodup := List.nodup_nil
  hooks _ hk := nomatch hk
  stored _ _ _ h := absurd h (Catalogue.not_stores_empty (addressOf c))

theorem wellFormed_alike (h : WellFormed c changes p) (halike : Alike p q) :
    WellFormed c changes q := by
  constructor
  · rw [halike.catalogue]
    exact h.address
  · rw [halike.catalogue]
    exact h.names
  · rw [halike.catalogue]
    exact h.nodup
  · rw [halike.catalogue]
    exact h.hooks
  · intro scope key s hs
    rw [halike.catalogue] at hs
    apply wellMade_mono (h.stored scope key s hs)
    intro path hroute
    rw [Server.hasRoute, halike.table]
    exact hroute

theorem wellFormed_addKind {k : Kind} (h : WellFormed c changes p) (hk : k.signatures = [])
    (hfree : p.catalogue.kind? k.name = none) :
    WellFormed c (changes ++ [.addKind k])
      { p with catalogue := (p.catalogue.addKind k).1 } := by
  constructor
  · exact (Catalogue.address_addKind _ k).trans h.address
  · rw [Catalogue.names_addKind hfree, h.names, Change.surviving_snoc_addKind]
  · rw [Catalogue.names_addKind hfree]
    refine List.nodup_append.mpr ⟨h.nodup, by simp, ?_⟩
    rintro name hname other hother rfl
    rw [List.mem_singleton.mp hother] at hname
    exact Catalogue.notMem_names_of_kind? hfree hname
  · rw [Catalogue.addKind, hfree]
    intro k' hk'
    rcases List.mem_append.mp hk' with hk' | hk'
    · exact h.hooks k' hk'
    · rw [List.mem_singleton.mp hk']
      exact Kind.distinctHooks_of_signatures hk
  · intro scope key s hs
    exact h.stored scope key s (Catalogue.stores_addKind hk hs)

theorem wellFormed_removeKind (h : WellFormed c changes p) (name : String) :
    WellFormed c (changes ++ [.removeKind name])
      { p with catalogue := (p.catalogue.removeKind name).1 } := by
  constructor
  · exact h.address
  · rw [Catalogue.names_removeKind, h.names, Change.surviving_snoc_removeKind]
  · rw [Catalogue.names_removeKind]
    exact h.nodup.filter _
  · intro k hk
    exact h.hooks k (List.mem_filter.mp hk).1
  · intro scope key s hs
    exact h.stored scope key s (Catalogue.stores_removeKind hs)

theorem wellFormed_setRetryExponent (h : WellFormed c changes p) (name : String)
    (exponent : Option UInt32) :
    WellFormed c (changes ++ [.setRetryExponent name exponent])
      { p with catalogue := p.catalogue.setRetryExponent name exponent } := by
  have hnames : (p.catalogue.setRetryExponent name exponent).names = p.catalogue.names :=
    Catalogue.names_modifyKind fun _ => rfl
  constructor
  · exact h.address
  · rw [hnames, h.names, Change.surviving_snoc_of_keeps rfl fun _ => rfl]
  · rw [hnames]
    exact h.nodup
  · exact Catalogue.distinctHooks_modifyKind (fun _ hk => hk) h.hooks
  · intro scope key s hs
    exact h.stored scope key s (Catalogue.stores_setRetryExponent hs)

theorem wellFormed_attach {a : Attachment} {s : Signature} {c' : Catalogue}
    (h : WellFormed c changes p)
    (hs : p.catalogue.signature a.name a.scope.kind? a.description = .ok s)
    (hc : a.scope.insert s p.catalogue = .ok c') :
    WellFormed c (changes ++ [.attach a])
      { p with catalogue := c', server := p.server.register a.path a.procedure } := by
  constructor
  · exact (Catalogue.address_insert hc).trans h.address
  · rw [Catalogue.names_insert hc, h.names, Change.surviving_snoc_of_keeps rfl fun _ => rfl]
  · rw [Catalogue.names_insert hc]
    exact h.nodup
  · exact Catalogue.distinctHooks_insert hc h.hooks
  · intro scope key t ht
    rcases Catalogue.stores_insert hc ht with ⟨rfl, rfl, rfl⟩ | ⟨ht, -⟩
    · have hname : t.name = a.name := by
        rw [(Catalogue.signature_eq_ok hs).2.2]
      rw [hname]
      apply wellMade_of_signature h.address hs
      rw [hasRoute_register, Attachment.path, beq_self_eq_true, Bool.true_or]
    · apply wellMade_mono (h.stored scope key t ht)
      intro path hroute
      rw [hasRoute_register, hroute, Bool.or_true]

theorem wellFormed_step (h : WellFormed c changes p) (hstep : Step p change q) :
    WellFormed c (changes ++ [change]) q := by
  cases hstep with
  | addKind k hk hfree => exact wellFormed_addKind h hk hfree
  | removeKind name => exact wellFormed_removeKind h name
  | setRetryExponent name exponent => exact wellFormed_setRetryExponent h name exponent
  | attach a hs hc => exact wellFormed_attach h hs hc

theorem name_of_hook (h : WellFormed c changes p) {k : Kind} (hk : k ∈ p.catalogue.kinds)
    {hook : Hook} (hhook : hook ∈ k.hooks) : hook.procedure.name = hook.signature := by
  have hstored : p.catalogue.Stores (.hook k.name) hook.signature hook.procedure :=
    ⟨k, hk, rfl, List.mem_map.mpr ⟨hook, hhook, rfl⟩⟩
  exact (h.stored _ _ _ hstored).name

/-- Whatever has been done to a new provider, in whatever world, it is well-formed. -/
theorem wellFormed_after {σ : Type} (world : World σ) (c : Config) (ops : List Operation) (x : σ) :
    WellFormed c (history world ops (fresh c, x)) (after world ops (fresh c, x)).1 ∧
      ∀ k ∈ (after world ops (fresh c, x)).1.catalogue.kinds, ∀ hook ∈ k.hooks,
        hook.procedure.name = hook.signature := by
  have hstep : ∀ changes change p q, WellFormed c changes p → Step p change q →
      WellFormed c (changes ++ [change]) q := fun _ _ _ _ => wellFormed_step
  have halike : ∀ changes p q, WellFormed c changes p → Alike p q → WellFormed c changes q :=
    fun _ _ _ => wellFormed_alike
  have hafter := invariant_after hstep halike world ops [] (wellFormed_fresh c) x
  exact ⟨hafter, fun _ hk _ hhook => name_of_hook hafter hk hhook⟩

end Provider

end IntentProvider
