import IntentProvider.Proofs.Map.Ordered

/-!
Maps under merging. Merging is associative, the empty map is neutral and every map is idempotent,
all of it including the order of the keys: a key keeps the place at which it came first and takes
the value that came last.
-/

namespace IntentProvider

variable {α : Type}

section Entries

variable {key : String} {value : α} {entries more : List (String × α)}

/-- A key that is present keeps its place, so that its value can be put before that of another. -/
theorem putEntry_comm_of_mem {other : String} (hother : other ≠ key)
    (h : key ∈ entries.map (·.1)) (v : α) :
    putEntry key value (putEntry other v entries) =
      putEntry other v (putEntry key value entries) := by
  induction entries with
  | nil => cases h
  | cons e rest ih =>
      rcases e with ⟨k, u⟩
      by_cases hk : k = key
      · subst hk
        simp [putEntry, hother.symm]
      · have hrest : key ∈ rest.map (·.1) := (List.mem_cons.mp h).resolve_left (Ne.symm hk)
        by_cases ho : k = other
        · subst ho
          simp [putEntry, hk]
        · simp [putEntry, hk, ho, ih hrest]

theorem putEntry_putEntries_of_mem (hmore : key ∉ more.map (·.1))
    (h : key ∈ entries.map (·.1)) :
    putEntry key value (putEntries entries more) =
      putEntries (putEntry key value entries) more := by
  induction more generalizing entries with
  | nil => rfl
  | cons e rest ih =>
      rcases e with ⟨k, v⟩
      rw [List.map_cons, List.mem_cons, not_or] at hmore
      have hkeys : key ∈ (putEntry k v entries).map (·.1) := mem_keys_putEntry.mpr (.inr h)
      change putEntry key value (putEntries (putEntry k v entries) rest) =
        putEntries (putEntry k v (putEntry key value entries)) rest
      rw [ih hmore.2 hkeys, putEntry_comm_of_mem (Ne.symm hmore.1) h]

theorem putEntry_putEntries (h : (more.map (·.1)).Nodup) :
    putEntry key value (putEntries entries more) =
      putEntries entries (putEntry key value more) := by
  induction more generalizing entries with
  | nil => rfl
  | cons e rest ih =>
      rcases e with ⟨k, v⟩
      rw [List.map_cons, List.nodup_cons] at h
      change putEntry key value (putEntries (putEntry k v entries) rest) = _
      by_cases hk : k = key
      · subst hk
        have hmem : k ∈ (putEntry k v entries).map (·.1) := mem_keys_putEntry.mpr (.inl rfl)
        rw [putEntry_putEntries_of_mem h.1 hmem, OrderedMap.putEntry_putEntry, putEntry,
          if_pos rfl]
        rfl
      · rw [ih h.2, putEntry, if_neg hk]
        rfl

theorem putEntries_putEntries {last : List (String × α)} (h : (more.map (·.1)).Nodup) :
    putEntries (putEntries entries more) last = putEntries entries (putEntries more last) := by
  induction last generalizing more with
  | nil => rfl
  | cons e rest ih =>
      change putEntries (putEntry e.1 e.2 (putEntries entries more)) rest = _
      rw [putEntry_putEntries h, ih (nodup_keys_putEntry h)]
      rfl

theorem putEntry_of_mem (hdistinct : (entries.map (·.1)).Nodup) (h : (key, value) ∈ entries) :
    putEntry key value entries = entries := by
  induction entries with
  | nil => cases h
  | cons e rest ih =>
      rcases e with ⟨k, v⟩
      rw [List.map_cons, List.nodup_cons] at hdistinct
      by_cases hk : k = key
      · subst hk
        have hv : (k, value) = (k, v) := (List.mem_cons.mp h).resolve_right fun hrest =>
          hdistinct.1 (List.mem_map.mpr ⟨_, hrest, rfl⟩)
        cases hv
        rw [putEntry, if_pos rfl]
      · have hrest : (key, value) ∈ rest := by
          refine (List.mem_cons.mp h).resolve_left ?_
          rintro ⟨⟩
          exact hk rfl
        rw [putEntry, if_neg hk, ih hdistinct.2 hrest]

theorem putEntries_of_subset (hdistinct : (entries.map (·.1)).Nodup)
    (h : ∀ e ∈ more, e ∈ entries) : putEntries entries more = entries := by
  induction more with
  | nil => rfl
  | cons e rest ih =>
      have hsame := putEntry_of_mem hdistinct (h e List.mem_cons_self)
      change putEntries (putEntry e.1 e.2 entries) rest = entries
      rw [hsame, ih fun d hd => h d (List.mem_cons_of_mem _ hd)]

theorem keys_prefix_putEntry :
    entries.map (·.1) <+: (putEntry key value entries).map (·.1) := by
  by_cases h : key ∈ entries.map (·.1)
  · exact ⟨[], by rw [List.append_nil, OrderedMap.keys_putEntry_of_mem h]⟩
  · rw [OrderedMap.putEntry_of_notMem h, List.map_append]
    exact List.prefix_append _ _

theorem keys_prefix_putEntries :
    entries.map (·.1) <+: (putEntries entries more).map (·.1) := by
  induction more generalizing entries with
  | nil => exact List.prefix_refl _
  | cons e rest ih => exact keys_prefix_putEntry.trans ih

end Entries

namespace OrderedMap

def keys (m : OrderedMap α) : List String :=
  m.entries.map (·.1)

theorem keys_prefix_merge (m n : OrderedMap α) : m.keys <+: (m.merge n).keys :=
  keys_prefix_putEntries

theorem merge_assoc (l m n : OrderedMap α) : (l.merge m).merge n = l.merge (m.merge n) :=
  ext_entries (putEntries_putEntries m.distinct)

@[simp] theorem merge_empty (m : OrderedMap α) : m.merge {} = m := rfl

@[simp] theorem merge_self (m : OrderedMap α) : m.merge m = m :=
  ext_entries (putEntries_of_subset m.distinct fun _ h => h)

theorem insert_of_get? {m : OrderedMap α} {key : String} {value : α}
    (h : m.get? key = some value) : m.insert key value = m :=
  ext_entries (putEntry_of_mem m.distinct (get?_eq_some_iff.mp h))

/-- Maps without a common key can be merged in either order, up to the order of the keys. -/
theorem get?_merge_merge_of_disjoint {n o : OrderedMap α} (m : OrderedMap α)
    (h : ∀ key, n.get? key = none ∨ o.get? key = none) (key : String) :
    ((m.merge n).merge o).get? key = ((m.merge o).merge n).get? key := by
  simp only [get?_merge]
  rcases h key with hnone | hnone
  · simp [hnone]
  · simp [hnone]

/-! Several maps merged one after the other. -/

def mergeAll (m : OrderedMap α) (ns : List (OrderedMap α)) : OrderedMap α :=
  ns.foldl merge m

theorem mergeAll_append (m : OrderedMap α) (ns os : List (OrderedMap α)) :
    m.mergeAll (ns ++ os) = (m.mergeAll ns).mergeAll os :=
  List.foldl_append

theorem keys_prefix_mergeAll (m : OrderedMap α) (ns : List (OrderedMap α)) :
    m.keys <+: (m.mergeAll ns).keys := by
  induction ns generalizing m with
  | nil => exact List.prefix_refl _
  | cons n ns ih => exact (keys_prefix_merge m n).trans (ih (m.merge n))

/-- The last map that has a key decides about its value. -/
theorem get?_mergeAll (m : OrderedMap α) (ns : List (OrderedMap α)) (key : String) :
    (m.mergeAll ns).get? key = (ns.reverse.findSome? (·.get? key)).or (m.get? key) := by
  induction ns generalizing m with
  | nil => rfl
  | cons n ns ih =>
      rw [List.reverse_cons, List.findSome?_append, Option.or_assoc]
      refine (ih (m.merge n)).trans ?_
      rw [get?_merge]
      cases hn : n.get? key <;> simp [hn]

end OrderedMap

end IntentProvider
