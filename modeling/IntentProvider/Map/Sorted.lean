/-!
Maps with text keys in ascending order of the keys. The order is that of code points, which is also
the order of the UTF-8 bytes.
-/

namespace IntentProvider

/-- The entries with `value` under `key`: at the place where the order wants it, or instead of the
value that the key had. -/
def placeEntry {α : Type} (key : String) (value : α) : List (String × α) → List (String × α)
  | [] => [(key, value)]
  | (k, v) :: rest =>
    if key < k then (key, value) :: (k, v) :: rest
    else if k = key then (k, value) :: rest
    else (k, v) :: placeEntry key value rest

/-- Entries come in strictly ascending order of their keys. -/
def Ascending {α : Type} (entries : List (String × α)) : Prop :=
  entries.Pairwise (fun a b => a.1 < b.1)

theorem fst_of_mem_placeEntry {α : Type} {key : String} {value : α} {entries : List (String × α)}
    {e : String × α} (h : e ∈ placeEntry key value entries) :
    e.1 = key ∨ ∃ e' ∈ entries, e'.1 = e.1 := by
  induction entries with
  | nil =>
      simp only [placeEntry, List.mem_singleton] at h
      simp [h]
  | cons d rest ih =>
      rcases d with ⟨k, v⟩
      simp only [placeEntry] at h
      split at h
      · rcases List.mem_cons.1 h with h | h
        · simp [h]
        · exact Or.inr ⟨e, h, rfl⟩
      · split at h
        · rename_i hk
          rcases List.mem_cons.1 h with h | h
          · simp [h, hk]
          · exact Or.inr ⟨e, by simp [h], rfl⟩
        · rcases List.mem_cons.1 h with h | h
          · exact Or.inr ⟨(k, v), by simp, by simp [h]⟩
          · rcases ih h with h | ⟨e', he', h⟩
            · exact Or.inl h
            · exact Or.inr ⟨e', by simp [he'], h⟩

theorem ascending_placeEntry {α : Type} {key : String} {value : α} {entries : List (String × α)}
    (h : Ascending entries) : Ascending (placeEntry key value entries) := by
  induction entries with
  | nil => simp [placeEntry, Ascending]
  | cons d rest ih =>
      rcases d with ⟨k, v⟩
      have hd := List.pairwise_cons.1 h
      simp only [placeEntry]
      split
      · rename_i hlt
        refine List.pairwise_cons.2 ⟨fun e he => ?_, h⟩
        rcases List.mem_cons.1 he with he | he
        · simpa [he] using hlt
        · exact String.lt_trans hlt (hd.1 e he)
      · rename_i hnlt
        split
        · exact List.pairwise_cons.2 ⟨fun e he => hd.1 e he, hd.2⟩
        · rename_i hne
          refine List.pairwise_cons.2 ⟨fun e he => ?_, ih hd.2⟩
          rcases fst_of_mem_placeEntry he with he | ⟨e', he', heq⟩
          · have hle : k ≤ key := String.not_lt.1 hnlt
            rw [he]
            exact Decidable.byContradiction fun hn =>
              hne (String.le_antisymm hle (String.not_lt.1 hn))
          · exact heq ▸ hd.1 e' he'

/-- A map with text keys in ascending order. -/
structure SortedMap (α : Type) where
  /-- The keys with their values, least key first. -/
  entries : List (String × α)
  /-- Every key is below the next one. -/
  ascending : Ascending entries

namespace SortedMap

variable {α β : Type}

/-- The map without entries. -/
def empty : SortedMap α where
  entries := []
  ascending := List.Pairwise.nil

instance : EmptyCollection (SortedMap α) := ⟨empty⟩

instance : Inhabited (SortedMap α) := ⟨empty⟩

/-- Whether a map has no entries. -/
def isEmpty (m : SortedMap α) : Bool :=
  m.entries.isEmpty

/-- How many entries a map has. -/
def size (m : SortedMap α) : Nat :=
  m.entries.length

/-- The keys, least first. -/
def keys (m : SortedMap α) : List String :=
  m.entries.map (·.1)

/-- The value under a key. -/
def get? (m : SortedMap α) (key : String) : Option α :=
  m.entries.lookup key

/-- Whether a key is present. -/
def contains (m : SortedMap α) (key : String) : Bool :=
  (m.get? key).isSome

/-- Puts a value under a key, in place of the one that it had. -/
def insert (m : SortedMap α) (key : String) (value : α) : SortedMap α where
  entries := placeEntry key value m.entries
  ascending := ascending_placeEntry m.ascending

/-- The map that results from inserting entries one after the other. -/
def ofList (entries : List (String × α)) : SortedMap α :=
  entries.foldl (fun m e => m.insert e.1 e.2) empty

/-- The map with one entry. -/
def singleton (key : String) (value : α) : SortedMap α :=
  empty.insert key value

theorem lookup_placeEntry {key k : String} {value : α} {entries : List (String × α)} :
    (placeEntry key value entries).lookup k =
      if k = key then some value else entries.lookup k := by
  induction entries with
  | nil =>
      by_cases h : k = key
      · simp [placeEntry, h]
      · simp [placeEntry, List.lookup_cons, beq_false_of_ne h, h]
  | cons e rest ih =>
      rcases e with ⟨k', v⟩
      simp only [placeEntry]
      split
      · by_cases h : k = key
        · simp [h]
        · simp [List.lookup_cons, beq_false_of_ne h, h]
      · split
        · rename_i _ h
          subst h
          by_cases hk : k = k'
          · simp [hk]
          · simp [List.lookup_cons, beq_false_of_ne hk, hk]
        · rename_i _ h
          by_cases hk : k = k'
          · subst hk
            simp [h]
          · simp [List.lookup_cons, beq_false_of_ne hk, ih]

theorem get?_insert (m : SortedMap α) (key k : String) (value : α) :
    (m.insert key value).get? k = if k = key then some value else m.get? k :=
  lookup_placeEntry

theorem contains_insert (m : SortedMap α) (key k : String) (value : α) :
    (m.insert key value).contains k = (k == key || m.contains k) := by
  rw [contains, get?_insert]
  by_cases h : k = key <;> simp [h, contains]

end SortedMap

end IntentProvider
