import IntentProvider.Proofs.Catalogue.Stored

/-!
The kinds of a catalogue as its changes leave them: their names, in the order in which the kinds
were added, and that none of them has two hooks for one path.
-/

namespace IntentProvider

def Kind.DistinctHooks (k : Kind) : Prop :=
  (k.hooks.map (·.signature)).Nodup

theorem Kind.distinctHooks_of_signatures {k : Kind} (h : k.signatures = []) :
    k.DistinctHooks := by
  have hhooks : k.hooks.map (·.procedure) = [] := (List.append_eq_nil_iff.mp h).2
  rw [DistinctHooks, List.map_eq_nil_iff.mp hhooks]
  exact List.nodup_nil

theorem Scope.distinctHooks_record (scope : Scope) (s : Signature) {k : Kind}
    (h : k.DistinctHooks) : (scope.record s k).DistinctHooks := by
  cases scope with
  | provider => exact h
  | kind name => exact h
  | entity name => exact h
  | hook name =>
      -- the hook that is added is the only one for its path, since the others are taken out
      have hothers :
          s.name ∉ (k.hooks.filter fun h => h.signature != s.name).map (·.signature) := by
        intro hmem
        obtain ⟨hook, hhook, hname⟩ := List.mem_map.mp hmem
        exact bne_iff_ne.mp (List.mem_filter.mp hhook).2 hname
      have hkept : ((k.hooks.filter fun h => h.signature != s.name).map (·.signature)).Nodup :=
        h.sublist (List.filter_sublist.map _)
      rw [Kind.DistinctHooks, record, List.map_append]
      refine List.nodup_append.mpr ⟨hkept, by simp, ?_⟩
      rintro path hpath other hother rfl
      rw [List.mem_singleton.mp hother] at hpath
      exact hothers hpath

namespace Catalogue

variable {c c' : Catalogue} {k : Kind} {name : String}

def names (c : Catalogue) : List String :=
  c.kinds.map (·.name)

theorem notMem_names_of_kind? (h : c.kind? name = none) : name ∉ c.names := by
  intro hmem
  obtain ⟨k, hk, hname⟩ := List.mem_map.mp hmem
  exact List.find?_eq_none.mp h k hk (beq_iff_eq.mpr hname)

theorem names_addKind (h : c.kind? k.name = none) :
    (c.addKind k).1.names = c.names ++ [k.name] := by
  simp [addKind, h, names]

theorem names_removeKind : (c.removeKind name).1.names = c.names.filter (· != name) := by
  rw [names, names, List.filter_map]
  rfl

theorem names_modifyKind {f : Kind → Kind} (hf : ∀ k, (f k).name = k.name) :
    (c.modifyKind name f).names = c.names := by
  rw [names, modifyKind, List.map_map, names]
  apply List.map_congr_left
  intro k _
  by_cases hk : k.name = name
  · simp [hk, hf]
  · simp [hk]

theorem names_insert {scope : Scope} {s : Signature} (hc : scope.insert s c = .ok c') :
    c'.names = c.names := by
  rcases Scope.insert_eq_ok hc with ⟨-, rfl⟩ | ⟨name, -, -, rfl⟩
  · rfl
  · exact names_modifyKind (scope.record_name s)

theorem distinctHooks_modifyKind {f : Kind → Kind} (hf : ∀ k, k.DistinctHooks → (f k).DistinctHooks)
    (h : ∀ k ∈ c.kinds, k.DistinctHooks) : ∀ k ∈ (c.modifyKind name f).kinds, k.DistinctHooks := by
  intro k hk
  obtain ⟨k', hk', ⟨-, rfl⟩ | ⟨-, rfl⟩⟩ := mem_modifyKind hk
  · exact hf k' (h k' hk')
  · exact h k hk'

theorem distinctHooks_insert {scope : Scope} {s : Signature} (hc : scope.insert s c = .ok c')
    (h : ∀ k ∈ c.kinds, k.DistinctHooks) : ∀ k ∈ c'.kinds, k.DistinctHooks := by
  rcases Scope.insert_eq_ok hc with ⟨-, rfl⟩ | ⟨name, -, -, rfl⟩
  · exact h
  · exact distinctHooks_modifyKind (fun k => scope.distinctHooks_record s) h

end Catalogue

end IntentProvider
