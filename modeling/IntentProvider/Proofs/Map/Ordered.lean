import Mathlib.Data.List.Nodup
import IntentProvider.Map.Ordered

/-!
Insertion into an ordered map and removal from it, as seen on the list of its entries. A key that
is not there comes last, and taking it out again undoes the insertion.
-/

namespace IntentProvider.OrderedMap

variable {α : Type}

theorem notMem_keys_of_get?_eq_none {m : OrderedMap α} {key : String} (h : m.get? key = none) :
    key ∉ m.entries.map (·.1) := by
  intro hmem
  obtain ⟨e, he, rfl⟩ := List.mem_map.mp hmem
  rw [get?, List.lookup_eq_none_iff] at h
  have hne := h e he
  simp at hne

theorem putEntry_of_notMem {key : String} {value : α} {entries : List (String × α)}
    (h : key ∉ entries.map (·.1)) : putEntry key value entries = entries ++ [(key, value)] := by
  induction entries with
  | nil => rfl
  | cons e rest ih =>
      rcases e with ⟨k, v⟩
      rw [List.map_cons, List.mem_cons, not_or] at h
      rw [putEntry, if_neg (Ne.symm h.1), ih h.2, List.cons_append]

theorem entries_insert_of_get?_eq_none {m : OrderedMap α} {key : String} (h : m.get? key = none)
    (value : α) : (m.insert key value).entries = m.entries ++ [(key, value)] :=
  putEntry_of_notMem (notMem_keys_of_get?_eq_none h)

theorem get?_insert_self (m : OrderedMap α) (key : String) (value : α) :
    (m.insert key value).get? key = some value := by
  rw [get?_insert, if_pos rfl]

theorem get?_insert_of_ne (m : OrderedMap α) {key k : String} (value : α) (h : k ≠ key) :
    (m.insert key value).get? k = m.get? k := by
  rw [get?_insert, if_neg h]

/-- The second of two values under one key takes the place of the first. -/
theorem putEntry_putEntry (key : String) (first second : α) (entries : List (String × α)) :
    putEntry key second (putEntry key first entries) = putEntry key second entries := by
  induction entries with
  | nil => simp [putEntry]
  | cons e rest ih =>
      rcases e with ⟨k, v⟩
      by_cases hk : k = key
      · simp [putEntry, hk]
      · simp only [putEntry, hk, if_false, ih]

theorem insert_insert (m : OrderedMap α) (key : String) (first second : α) :
    (m.insert key first).insert key second = m.insert key second :=
  ext_entries (putEntry_putEntry key first second m.entries)

/-- An entry can be put in before or after all values are changed. -/
theorem map_putEntry (f : String → α → α) (key : String) (value : α)
    (entries : List (String × α)) :
    (putEntry key value entries).map (fun e => (e.1, f e.1 e.2)) =
      putEntry key (f key value) (entries.map fun e => (e.1, f e.1 e.2)) := by
  induction entries with
  | nil => rfl
  | cons e rest ih =>
      rcases e with ⟨k, v⟩
      by_cases hk : k = key
      · simp [putEntry, hk]
      · simp only [putEntry, hk, if_false, List.map_cons, ih]

theorem filter_ne_putEntry (key : String) (value : α) (entries : List (String × α)) :
    (putEntry key value entries).filter (fun e => e.1 != key) =
      entries.filter fun e => e.1 != key := by
  induction entries with
  | nil => simp [putEntry]
  | cons e rest ih =>
      rcases e with ⟨k, v⟩
      by_cases hk : k = key
      · simp [putEntry, hk]
      · simp only [putEntry, hk, if_false, List.filter_cons, ih]

theorem erase_insert (m : OrderedMap α) (key : String) (value : α) :
    (m.insert key value).erase key = m.erase key :=
  ext_entries (filter_ne_putEntry key value m.entries)

theorem erase_insert_of_get?_eq_none {m : OrderedMap α} {key : String} (h : m.get? key = none)
    (value : α) : (m.insert key value).erase key = m := by
  apply ext_entries
  change (m.insert key value).entries.filter (fun e => e.1 != key) = m.entries
  have hkeep : m.entries.filter (fun e => e.1 != key) = m.entries := by
    apply List.filter_eq_self.mpr
    intro e he
    have hmem : e.1 ∈ m.entries.map (·.1) := List.mem_map_of_mem he
    simpa using fun heq : e.1 = key => notMem_keys_of_get?_eq_none h (heq ▸ hmem)
  rw [entries_insert_of_get?_eq_none h, List.filter_append, hkeep]
  simp

theorem putEntries_of_nodup {entries more : List (String × α)}
    (h : ((entries ++ more).map (·.1)).Nodup) : putEntries entries more = entries ++ more := by
  induction more generalizing entries with
  | nil => simp [putEntries]
  | cons e more ih =>
      have hnew : e.1 ∉ entries.map (·.1) := by
        rw [List.map_append, List.map_cons, List.nodup_append] at h
        exact fun hmem => h.2.2 e.1 hmem e.1 List.mem_cons_self rfl
      have hput : putEntries entries (e :: more) = putEntries (entries ++ [e]) more :=
        congrArg (putEntries · more) (putEntry_of_notMem hnew)
      have hsame : entries ++ [e] ++ more = entries ++ e :: more := by simp
      rw [hput, ih (hsame ▸ h), hsame]

theorem mem_of_mem_putEntry {key : String} {value : α} {entries : List (String × α)}
    {e : String × α} (h : e ∈ putEntry key value entries) : e = (key, value) ∨ e ∈ entries := by
  induction entries with
  | nil => exact .inl (List.mem_singleton.mp h)
  | cons d rest ih =>
      rcases d with ⟨k, v⟩
      rw [putEntry] at h
      split at h
      · rename_i hk
        subst hk
        rcases List.mem_cons.mp h with h | h
        · exact .inl h
        · exact .inr (List.mem_cons_of_mem _ h)
      · rcases List.mem_cons.mp h with rfl | h
        · exact .inr List.mem_cons_self
        · exact (ih h).imp_right (List.mem_cons_of_mem _)

theorem mem_of_mem_putEntries {entries more : List (String × α)} {e : String × α}
    (h : e ∈ putEntries entries more) : e ∈ entries ∨ e ∈ more := by
  induction more generalizing entries with
  | nil => exact .inl h
  | cons d more ih =>
      rcases ih h with h | h
      · rcases mem_of_mem_putEntry h with rfl | h
        · exact .inr List.mem_cons_self
        · exact .inl h
      · exact .inr (List.mem_cons_of_mem _ h)

theorem lookup_eq_some_iff_mem {entries : List (String × α)} (h : (entries.map (·.1)).Nodup)
    {key : String} {value : α} :
    entries.lookup key = some value ↔ (key, value) ∈ entries := by
  induction entries with
  | nil => simp
  | cons e rest ih =>
      rcases e with ⟨k, v⟩
      obtain ⟨hnew, hrest⟩ := List.nodup_cons.mp h
      by_cases hk : key = k
      · subst hk
        have habsent : (key, value) ∉ rest := fun hmem =>
          hnew (List.mem_map.mpr ⟨(key, value), hmem, rfl⟩)
        simp [habsent, eq_comm]
      · rw [List.lookup_cons, beq_false_of_ne hk]
        simp [ih hrest, hk]

theorem get?_eq_some_iff {m : OrderedMap α} {key : String} {value : α} :
    m.get? key = some value ↔ (key, value) ∈ m.entries :=
  lookup_eq_some_iff_mem m.distinct

theorem mem_values_iff {m : OrderedMap α} {value : α} :
    value ∈ m.values ↔ ∃ key, m.get? key = some value := by
  simp [values, get?_eq_some_iff]

theorem keys_putEntry_of_mem {key : String} {entries : List (String × α)}
    (h : key ∈ entries.map (·.1)) (value : α) :
    (putEntry key value entries).map (·.1) = entries.map (·.1) := by
  induction entries with
  | nil => cases h
  | cons e rest ih =>
      rcases e with ⟨k, v⟩
      by_cases hk : k = key
      · simp [putEntry, hk]
      · have hrest : key ∈ rest.map (·.1) := (List.mem_cons.mp h).resolve_left (Ne.symm hk)
        simp [putEntry, hk, ih hrest]

section Size

variable {m : OrderedMap α} {key : String} {value : α}

theorem mem_keys_of_get? (h : m.get? key = some value) : key ∈ m.entries.map (·.1) :=
  List.mem_map_of_mem (get?_eq_some_iff.mp h)

theorem size_insert_of_get? (h : m.get? key = some value) (other : α) :
    (m.insert key other).size = m.size := by
  have hkeys := congrArg List.length (keys_putEntry_of_mem (mem_keys_of_get? h) other)
  rw [List.length_map, List.length_map] at hkeys
  exact hkeys

theorem size_insert_of_get?_eq_none (h : m.get? key = none) (value : α) :
    (m.insert key value).size = m.size + 1 := by
  rw [size, entries_insert_of_get?_eq_none h, List.length_append]
  rfl

theorem size_erase_of_get? (h : m.get? key = some value) : (m.erase key).size + 1 = m.size := by
  have hkeys : (m.erase key).entries.map (·.1) = (m.entries.map (·.1)).erase key := by
    rw [m.distinct.erase_eq_filter, List.filter_map]
    rfl
  have hlength := List.length_erase_add_one (mem_keys_of_get? h)
  rw [← hkeys, List.length_map, List.length_map] at hlength
  exact hlength

end Size

end IntentProvider.OrderedMap
