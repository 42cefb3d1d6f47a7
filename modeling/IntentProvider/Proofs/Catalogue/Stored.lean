import IntentProvider.Proofs.Catalogue.Advertised
import IntentProvider.Proofs.Map.Ordered
import IntentProvider.Proofs.Map.Sorted

/-!
What a catalogue stores in each scope, and under which key. Recording a signature stores it under
its name in its scope, in place of what the scope held there, and changes nothing else; when kinds
come and go, nothing new is stored.
-/

namespace IntentProvider

namespace SortedMap

variable {α : Type}

theorem mem_entries_iff {m : SortedMap α} {key : String} {value : α} :
    (key, value) ∈ m.entries ↔ m.get? key = some value :=
  (OrderedMap.lookup_eq_some_iff_mem m.nodup_keys).symm

theorem mem_entries_insert {m : SortedMap α} {key : String} {value : α} {e : String × α} :
    e ∈ (m.insert key value).entries ↔ e = (key, value) ∨ e ∈ m.entries ∧ e.1 ≠ key := by
  rcases e with ⟨k, v⟩
  rw [mem_entries_iff, get?_insert, mem_entries_iff]
  by_cases hk : k = key
  · simp [hk, eq_comm]
  · simp [hk]

end SortedMap

/-- What a kind holds for a scope, with the keys. -/
def Kind.entries (k : Kind) : Scope → List (String × Signature)
  | .provider => []
  | .kind _ => k.kindProcedures.entries
  | .entity _ => k.entityProcedures.entries
  | .hook _ => k.hooks.map fun h => (h.signature, h.procedure)

theorem Kind.entries_of_signatures {k : Kind} (h : k.signatures = []) (scope : Scope) :
    k.entries scope = [] := by
  rw [signatures, List.append_eq_nil_iff, List.append_eq_nil_iff] at h
  obtain ⟨⟨hentity, hkind⟩, hhook⟩ := h
  cases scope with
  | provider => rfl
  | kind name => exact List.map_eq_nil_iff.mp hkind
  | entity name => exact List.map_eq_nil_iff.mp hentity
  | hook name => rw [entries, List.map_eq_nil_iff.mp hhook, List.map_nil]

theorem Kind.mem_signatures_iff {k : Kind} {name : String} {s : Signature} :
    s ∈ k.signatures ↔ ∃ scope key, scope.kind? = some name ∧ (key, s) ∈ k.entries scope := by
  rw [signatures, List.mem_append, List.mem_append]
  constructor
  · rintro ((h | h) | h)
    · obtain ⟨⟨key, t⟩, he, rfl⟩ := List.mem_map.mp h
      exact ⟨.entity name, key, rfl, he⟩
    · obtain ⟨⟨key, t⟩, he, rfl⟩ := List.mem_map.mp h
      exact ⟨.kind name, key, rfl, he⟩
    · obtain ⟨hook, hhook, rfl⟩ := List.mem_map.mp h
      exact ⟨.hook name, hook.signature, rfl, List.mem_map.mpr ⟨hook, hhook, rfl⟩⟩
  · rintro ⟨scope, key, -, he⟩
    cases scope with
    | provider => cases he
    | kind other => exact .inl (.inr (List.mem_map_of_mem he))
    | entity other => exact .inl (.inl (List.mem_map_of_mem he))
    | hook other =>
        obtain ⟨hook, hhook, h⟩ := List.mem_map.mp he
        cases h
        exact .inr (List.mem_map_of_mem hhook)

/-- Whether kinds, or the procedures that belong to none, hold a signature in a scope. -/
def Stores (kinds : List Kind) (procedures : SortedMap Signature) (scope : Scope) (key : String)
    (s : Signature) : Prop :=
  match scope.kind? with
  | none => (key, s) ∈ procedures.entries
  | some name => ∃ k ∈ kinds, k.name = name ∧ (key, s) ∈ k.entries scope

def Descriptor.Stores (d : Descriptor) : Scope → String → Signature → Prop :=
  IntentProvider.Stores d.kinds d.procedures

namespace Scope

theorem eq_provider {scope : Scope} (h : scope.kind? = none) : scope = provider := by
  cases scope <;> first | rfl | cases h

/-- The change of a kind in which a signature is recorded. -/
def record (scope : Scope) (s : Signature) (k : Kind) : Kind :=
  match scope with
  | provider => k
  | kind _ => { k with kindProcedures := k.kindProcedures.insert s.name s }
  | entity _ => { k with entityProcedures := k.entityProcedures.insert s.name s }
  | hook _ => { k with hooks := k.hooks.filter (fun h => h.signature != s.name) ++ [⟨s.name, s⟩] }

theorem record_name (scope : Scope) (s : Signature) (k : Kind) :
    (scope.record s k).name = k.name := by
  cases scope <;> rfl

theorem insert_eq_onKind {scope : Scope} {name : String} (h : scope.kind? = some name)
    (s : Signature) (c : Catalogue) : scope.insert s c = c.onKind name (scope.record s) := by
  cases scope <;> cases h <;> rfl

theorem insert_eq_ok {scope : Scope} {s : Signature} {c c' : Catalogue}
    (h : scope.insert s c = .ok c') :
    scope = provider ∧ c' = c.insertProcedure s ∨
      ∃ name, scope.kind? = some name ∧ (c.kind? name).isSome ∧
        c' = c.modifyKind name (scope.record s) := by
  cases hkind : scope.kind? with
  | none =>
      obtain rfl := eq_provider hkind
      cases h
      exact .inl ⟨rfl, rfl⟩
  | some name =>
      rw [insert_eq_onKind hkind] at h
      exact .inr ⟨name, rfl, Catalogue.onKind_eq_ok h⟩

theorem mem_entries_record_self {scope : Scope} {name : String} (h : scope.kind? = some name)
    (s : Signature) (k : Kind) : (s.name, s) ∈ (scope.record s k).entries scope := by
  cases scope with
  | provider => cases h
  | kind other => exact SortedMap.mem_entries_insert.mpr (.inl rfl)
  | entity other => exact SortedMap.mem_entries_insert.mpr (.inl rfl)
  | hook other => simp [record, Kind.entries]

/-- In its own scope a signature takes the place of what has its name; the other scopes of the kind
keep what they hold. -/
theorem mem_entries_record {scope other : Scope} {s : Signature} {k : Kind}
    {e : String × Signature} (hkind : other.kind? = scope.kind?)
    (h : e ∈ (scope.record s k).entries other) :
    other = scope ∧ e = (s.name, s) ∨ e ∈ k.entries other ∧ ¬ (other = scope ∧ e.1 = s.name) := by
  cases scope with
  | provider =>
      cases other with
      | provider => cases h
      | kind name => cases hkind
      | entity name => cases hkind
      | hook name => cases hkind
  | kind name =>
      cases other with
      | provider => cases hkind
      | kind name' =>
          cases hkind
          rcases SortedMap.mem_entries_insert.mp h with he | ⟨he, hne⟩
          · exact .inl ⟨rfl, he⟩
          · exact .inr ⟨he, fun hsame => hne hsame.2⟩
      | entity name' => exact .inr ⟨h, nofun⟩
      | hook name' => exact .inr ⟨h, nofun⟩
  | entity name =>
      cases other with
      | provider => cases hkind
      | kind name' => exact .inr ⟨h, nofun⟩
      | entity name' =>
          cases hkind
          rcases SortedMap.mem_entries_insert.mp h with he | ⟨he, hne⟩
          · exact .inl ⟨rfl, he⟩
          · exact .inr ⟨he, fun hsame => hne hsame.2⟩
      | hook name' => exact .inr ⟨h, nofun⟩
  | hook name =>
      cases other with
      | provider => cases hkind
      | kind name' => exact .inr ⟨h, nofun⟩
      | entity name' => exact .inr ⟨h, nofun⟩
      | hook name' =>
          cases hkind
          obtain ⟨hook, hmem, rfl⟩ := List.mem_map.mp h
          rcases List.mem_append.mp hmem with hmem | hmem
          · obtain ⟨hold, hne⟩ := List.mem_filter.mp hmem
            refine .inr ⟨List.mem_map_of_mem hold, ?_⟩
            rintro ⟨-, heq⟩
            exact bne_iff_ne.mp hne heq
          · rw [List.mem_singleton.mp hmem]
            exact .inl ⟨rfl, rfl⟩

end Scope

namespace Catalogue

def Stores (c : Catalogue) : Scope → String → Signature → Prop :=
  IntentProvider.Stores c.kinds c.procedures

variable {c c' : Catalogue} {scope other : Scope} {key name : String} {s t : Signature} {k : Kind}

theorem name_of_kind? (h : c.kind? name = some k) : k.name = name := by
  simpa using List.find?_some h

theorem address_addKind (c : Catalogue) (k : Kind) : (c.addKind k).1.address = c.address := by
  unfold addKind
  split <;> rfl

theorem address_insert (hc : scope.insert s c = .ok c') : c'.address = c.address := by
  rcases Scope.insert_eq_ok hc with ⟨-, rfl⟩ | ⟨name, -, -, rfl⟩ <;> rfl

theorem stores_iff (hkind : scope.kind? = some name) :
    c.Stores scope key s ↔ ∃ k ∈ c.kinds, k.name = name ∧ (key, s) ∈ k.entries scope := by
  unfold Stores IntentProvider.Stores
  rw [hkind]

theorem not_stores_empty (address : CallbackAddress) :
    ¬ ({ address } : Catalogue).Stores scope key s := by
  intro h
  cases hkind : scope.kind? with
  | none =>
      obtain rfl := Scope.eq_provider hkind
      cases h
  | some name =>
      obtain ⟨k, hk, -⟩ := (stores_iff hkind).mp h
      cases hk

theorem stores_mono (h : c'.Stores scope key s) (hprocedures : c'.procedures = c.procedures)
    (hkinds : ∀ k ∈ c'.kinds, ∀ e ∈ k.entries scope,
      ∃ k' ∈ c.kinds, k'.name = k.name ∧ e ∈ k'.entries scope) :
    c.Stores scope key s := by
  cases hkind : scope.kind? with
  | none =>
      obtain rfl := Scope.eq_provider hkind
      change (key, s) ∈ c'.procedures.entries at h
      rw [hprocedures] at h
      exact h
  | some name =>
      obtain ⟨k, hk, hname, hs⟩ := (stores_iff hkind).mp h
      obtain ⟨k', hk', hsame, hs'⟩ := hkinds k hk _ hs
      exact (stores_iff hkind).mpr ⟨k', hk', hsame.trans hname, hs'⟩

theorem stores_addKind (hk : k.signatures = []) (h : (c.addKind k).1.Stores scope key s) :
    c.Stores scope key s := by
  unfold addKind at h
  split at h
  · exact h
  · refine stores_mono h rfl ?_
    intro k' hmem e he
    rcases List.mem_append.mp hmem with hmem | hmem
    · exact ⟨k', hmem, rfl, he⟩
    · rw [List.mem_singleton.mp hmem, Kind.entries_of_signatures hk] at he
      cases he

theorem stores_removeKind (h : (c.removeKind name).1.Stores scope key s) :
    c.Stores scope key s := by
  refine stores_mono h rfl ?_
  intro k hmem e he
  exact ⟨k, (List.mem_filter.mp hmem).1, rfl, he⟩

theorem mem_modifyKind {f : Kind → Kind} (h : k ∈ (c.modifyKind name f).kinds) :
    ∃ k' ∈ c.kinds, k'.name = name ∧ k = f k' ∨ k'.name ≠ name ∧ k = k' := by
  obtain ⟨k', hk', rfl⟩ := List.mem_map.mp h
  refine ⟨k', hk', ?_⟩
  by_cases hname : k'.name = name
  · rw [if_pos hname]
    exact .inl ⟨hname, rfl⟩
  · rw [if_neg hname]
    exact .inr ⟨hname, rfl⟩

theorem stores_setRetryExponent {exponent : Option UInt32}
    (h : (c.setRetryExponent name exponent).Stores scope key s) : c.Stores scope key s := by
  refine stores_mono h rfl ?_
  intro k hk e he
  obtain ⟨k', hk', ⟨-, rfl⟩ | ⟨-, rfl⟩⟩ := mem_modifyKind hk
  · refine ⟨k', hk', rfl, ?_⟩
    cases scope <;> exact he
  · exact ⟨k, hk', rfl, he⟩

theorem stores_insert_self (hc : scope.insert t c = .ok c') : c'.Stores scope t.name t := by
  rcases Scope.insert_eq_ok hc with ⟨rfl, rfl⟩ | ⟨name, hkind, hsome, rfl⟩
  · exact SortedMap.mem_entries_insert.mpr (.inl rfl)
  · obtain ⟨k, hk⟩ := Option.isSome_iff_exists.mp hsome
    have hname := name_of_kind? hk
    refine (stores_iff hkind).mpr ⟨scope.record t k, ?_, ?_, ?_⟩
    · refine List.mem_map.mpr ⟨k, List.mem_of_find?_eq_some hk, ?_⟩
      rw [if_pos hname]
    · rw [Scope.record_name, hname]
    · exact Scope.mem_entries_record_self hkind t k

/-- What a catalogue stores once a signature has been recorded is that signature, or has been stored
before in another scope or under another key. -/
theorem stores_insert (hc : scope.insert t c = .ok c') (h : c'.Stores other key s) :
    other = scope ∧ key = t.name ∧ s = t ∨
      c.Stores other key s ∧ ¬ (other = scope ∧ key = t.name) := by
  cases hother : other.kind? with
  | none =>
      obtain rfl := Scope.eq_provider hother
      rcases Scope.insert_eq_ok hc with ⟨rfl, rfl⟩ | ⟨name, hkind, -, rfl⟩
      · rcases SortedMap.mem_entries_insert.mp h with he | ⟨he, hne⟩
        · cases he
          exact .inl ⟨rfl, rfl, rfl⟩
        · exact .inr ⟨he, fun hsame => hne hsame.2⟩
      · refine .inr ⟨h, ?_⟩
        rintro ⟨rfl, -⟩
        cases hkind
  | some name' =>
      obtain ⟨k, hk, hname, hs⟩ := (stores_iff hother).mp h
      rcases Scope.insert_eq_ok hc with ⟨rfl, rfl⟩ | ⟨name, hkind, -, rfl⟩
      · refine .inr ⟨(stores_iff hother).mpr ⟨k, hk, hname, hs⟩, ?_⟩
        rintro ⟨rfl, -⟩
        cases hother
      · obtain ⟨k', hk', ⟨hsame, rfl⟩ | ⟨hdiffers, rfl⟩⟩ := mem_modifyKind hk
        · rw [Scope.record_name] at hname
          have hscope : other.kind? = scope.kind? := by
            rw [hother, hkind, ← hname, hsame]
          rcases Scope.mem_entries_record hscope hs with ⟨rfl, he⟩ | ⟨he, hne⟩
          · cases he
            exact .inl ⟨rfl, rfl, rfl⟩
          · exact .inr ⟨(stores_iff hother).mpr ⟨k', hk', hname, he⟩, hne⟩
        · refine .inr ⟨(stores_iff hother).mpr ⟨k, hk', hname, hs⟩, ?_⟩
          rintro ⟨rfl, -⟩
          rw [hkind] at hother
          cases hother
          exact hdiffers hname

/-- What is advertised for a kind, or for none, is what is stored in its scopes. -/
theorem advertises_iff {kind : Option String} :
    c.Advertises kind s ↔ ∃ scope key, scope.kind? = kind ∧ c.Stores scope key s := by
  cases kind with
  | none =>
      constructor
      · intro h
        obtain ⟨⟨key, t⟩, he, rfl⟩ := List.mem_map.mp h
        exact ⟨.provider, key, rfl, he⟩
      · rintro ⟨scope, key, hkind, h⟩
        obtain rfl := Scope.eq_provider hkind
        exact List.mem_map_of_mem h
  | some name =>
      constructor
      · rintro ⟨k, hk, hname, h⟩
        obtain ⟨scope, key, hkind, he⟩ := Kind.mem_signatures_iff.mp h
        exact ⟨scope, key, hkind, (stores_iff hkind).mpr ⟨k, hk, hname, he⟩⟩
      · rintro ⟨scope, key, hkind, h⟩
        obtain ⟨k, hk, hname, he⟩ := (stores_iff hkind).mp h
        exact ⟨k, hk, hname, Kind.mem_signatures_iff.mpr ⟨scope, key, hkind, he⟩⟩

theorem advertises_of_insert {kind : Option String} (hc : scope.insert t c = .ok c')
    (h : c'.Advertises kind s) : s = t ∧ kind = scope.kind? ∨ c.Advertises kind s := by
  obtain ⟨other, key, rfl, hnew⟩ := advertises_iff.mp h
  rcases stores_insert hc hnew with ⟨rfl, -, rfl⟩ | ⟨hold, -⟩
  · exact .inl ⟨rfl, rfl⟩
  · exact .inr (advertises_iff.mpr ⟨other, key, rfl, hold⟩)

end Catalogue

end IntentProvider
