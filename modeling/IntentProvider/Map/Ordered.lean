/-!
Maps with text keys that keep the order in which their keys first came. Inserting under a key that
is present replaces the value and leaves the key where it is.
-/

namespace IntentProvider

/-- The entries with the value under `key` replaced, or a new last entry. -/
def putEntry {α : Type} (key : String) (value : α) : List (String × α) → List (String × α)
  | [] => [(key, value)]
  | (k, v) :: rest => if k = key then (k, value) :: rest else (k, v) :: putEntry key value rest

/-- Entries put one after the other into `entries`. -/
def putEntries {α : Type} (entries : List (String × α)) (more : List (String × α)) :
    List (String × α) :=
  more.foldl (fun es e => putEntry e.1 e.2 es) entries

theorem mem_keys_putEntry {α : Type} {key k : String} {value : α} {entries : List (String × α)} :
    k ∈ (putEntry key value entries).map (·.1) ↔ k = key ∨ k ∈ entries.map (·.1) := by
  induction entries with
  | nil => simp [putEntry]
  | cons e rest ih =>
      rcases e with ⟨k', v⟩
      by_cases h : k' = key
      · simp [putEntry, h]
      · simp only [putEntry, h, if_false, List.map_cons, List.mem_cons, ih]
        constructor
        · rintro (h | h | h) <;> simp [h]
        · rintro (h | h | h) <;> simp [h]

theorem nodup_keys_putEntry {α : Type} {key : String} {value : α} {entries : List (String × α)}
    (h : (entries.map (·.1)).Nodup) : ((putEntry key value entries).map (·.1)).Nodup := by
  induction entries with
  | nil => simp [putEntry]
  | cons e rest ih =>
      rcases e with ⟨k, v⟩
      simp only [List.map_cons, List.nodup_cons] at h
      by_cases hk : k = key
      · subst hk
        simpa only [putEntry, if_true, List.map_cons, List.nodup_cons] using h
      · simp only [putEntry, hk, if_false, List.map_cons, List.nodup_cons]
        refine ⟨fun hm => ?_, ih h.2⟩
        rcases mem_keys_putEntry.1 hm with hm | hm
        · exact hk hm
        · exact h.1 hm

theorem nodup_keys_putEntries {α : Type} {entries more : List (String × α)}
    (h : (entries.map (·.1)).Nodup) : ((putEntries entries more).map (·.1)).Nodup := by
  induction more generalizing entries with
  | nil => exact h
  | cons e more ih => exact ih (nodup_keys_putEntry h)

/-- A map with text keys in the order of their first insertion. -/
structure OrderedMap (α : Type) where
  /-- The keys with their values, oldest key first. -/
  entries : List (String × α)
  /-- No key comes twice. -/
  distinct : (entries.map (·.1)).Nodup

namespace OrderedMap

variable {α : Type}

theorem ext_entries {m n : OrderedMap α} (h : m.entries = n.entries) : m = n := by
  cases m; cases n; simp_all

/-- The map without entries. -/
def empty : OrderedMap α where
  entries := []
  distinct := List.nodup_nil

instance : EmptyCollection (OrderedMap α) := ⟨empty⟩

instance : Inhabited (OrderedMap α) := ⟨empty⟩

/-- Whether a map has no entries. -/
def isEmpty (m : OrderedMap α) : Bool :=
  m.entries.isEmpty

/-- The value under a key. -/
def get? (m : OrderedMap α) (key : String) : Option α :=
  m.entries.lookup key

/-- Puts a value under a key: in place if the key is present, else as the last entry. -/
def insert (m : OrderedMap α) (key : String) (value : α) : OrderedMap α where
  entries := putEntry key value m.entries
  distinct := nodup_keys_putEntry m.distinct

/-- Takes a key out of a map. -/
def erase (m : OrderedMap α) (key : String) : OrderedMap α where
  entries := m.entries.filter fun e => e.1 != key
  distinct := m.distinct.sublist (List.filter_sublist.map _)

/-- How many entries a map has. -/
def size (m : OrderedMap α) : Nat :=
  m.entries.length

/-- The values, oldest key first. -/
def values (m : OrderedMap α) : List α :=
  m.entries.map (·.2)

/-- Puts every entry of `n` into `m`, in order. -/
def merge (m n : OrderedMap α) : OrderedMap α where
  entries := putEntries m.entries n.entries
  distinct := nodup_keys_putEntries m.distinct

/-- The map that results from inserting entries one after the other. -/
def ofList (entries : List (String × α)) : OrderedMap α where
  entries := putEntries [] entries
  distinct := nodup_keys_putEntries List.nodup_nil

/-- The map with one entry. -/
def singleton (key : String) (value : α) : OrderedMap α :=
  empty.insert key value

theorem lookup_putEntry {key k : String} {value : α} {entries : List (String × α)} :
    (putEntry key value entries).lookup k =
      if k = key then some value else entries.lookup k := by
  induction entries with
  | nil =>
      by_cases h : k = key
      · simp [putEntry, h]
      · simp [putEntry, List.lookup_cons, beq_false_of_ne h, h]
  | cons e rest ih =>
      rcases e with ⟨k', v⟩
      by_cases h : k' = key
      · subst h
        by_cases hk : k = k'
        · simp [putEntry, hk]
        · simp [putEntry, List.lookup_cons, beq_false_of_ne hk, hk]
      · by_cases hk : k = k'
        · subst hk
          simp [putEntry, h]
        · simp [putEntry, h, List.lookup_cons, beq_false_of_ne hk, ih]

theorem get?_insert (m : OrderedMap α) (key k : String) (value : α) :
    (m.insert key value).get? k = if k = key then some value else m.get? k :=
  lookup_putEntry

theorem lookup_filter_ne {key k : String} {entries : List (String × α)} :
    (entries.filter fun e => e.1 != key).lookup k =
      if k = key then none else entries.lookup k := by
  induction entries with
  | nil => simp
  | cons e rest ih =>
      rcases e with ⟨k', v⟩
      by_cases h : k' = key
      · subst h
        have hdrop : ((k', v) :: rest).filter (fun e => e.1 != k') =
            rest.filter fun e => e.1 != k' := List.filter_cons_of_neg (by simp)
        rw [hdrop, ih]
        by_cases hk : k = k'
        · simp [hk]
        · simp [List.lookup_cons, beq_false_of_ne hk, hk]
      · have hkeep : ((k', v) :: rest).filter (fun e => e.1 != key) =
            (k', v) :: rest.filter fun e => e.1 != key := List.filter_cons_of_pos (by simpa using h)
        rw [hkeep]
        by_cases hk : k = k'
        · subst hk
          simp [h]
        · simp only [List.lookup_cons, beq_false_of_ne hk, ih]

theorem get?_erase (m : OrderedMap α) (key k : String) :
    (m.erase key).get? k = if k = key then none else m.get? k :=
  lookup_filter_ne

theorem lookup_eq_none_of_notMem {key : String} {entries : List (String × α)}
    (h : key ∉ entries.map (·.1)) : entries.lookup key = none := by
  induction entries with
  | nil => rfl
  | cons e rest ih =>
      rw [List.map_cons, List.mem_cons, not_or] at h
      rw [List.lookup_cons, beq_false_of_ne h.1]
      exact ih h.2

theorem lookup_putEntries {k : String} {entries more : List (String × α)}
    (h : (more.map (·.1)).Nodup) :
    (putEntries entries more).lookup k = (more.lookup k).or (entries.lookup k) := by
  induction more generalizing entries with
  | nil => simp [putEntries]
  | cons e more ih =>
      rcases e with ⟨key, v⟩
      rw [List.map_cons, List.nodup_cons] at h
      have hput : putEntries entries ((key, v) :: more) =
          putEntries (putEntry key v entries) more := rfl
      rw [hput, ih h.2, lookup_putEntry]
      by_cases hk : k = key
      · subst hk
        rw [lookup_eq_none_of_notMem h.1]
        simp
      · simp [List.lookup_cons, beq_false_of_ne hk, hk]

/-- What is put in comes before what was there. -/
theorem get?_merge (m n : OrderedMap α) (key : String) :
    (m.merge n).get? key = (n.get? key).or (m.get? key) :=
  lookup_putEntries n.distinct

end OrderedMap

end IntentProvider
