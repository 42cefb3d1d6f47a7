import IntentProvider.Map.Sorted

/-!
Entries in ascending order are inserted at the end one after the other, so that a sorted map is what
its entries give.
-/

namespace IntentProvider.SortedMap

variable {α : Type}

theorem ext_entries {m n : SortedMap α} (h : m.entries = n.entries) : m = n := by
  cases m
  cases n
  cases h
  rfl

theorem placeEntry_of_forall_lt {key : String} {value : α} {entries : List (String × α)}
    (h : ∀ e ∈ entries, e.1 < key) : placeEntry key value entries = entries ++ [(key, value)] := by
  induction entries with
  | nil => rfl
  | cons d rest ih =>
      rcases d with ⟨k, v⟩
      have hlt : k < key := h (k, v) List.mem_cons_self
      rw [placeEntry, if_neg (String.lt_asymm hlt), if_neg (String.ne_of_lt hlt),
        ih fun e he => h e (List.mem_cons_of_mem _ he), List.cons_append]

theorem entries_foldl_insert {m : SortedMap α} {more : List (String × α)}
    (h : Ascending (m.entries ++ more)) :
    (more.foldl (fun m e => m.insert e.1 e.2) m).entries = m.entries ++ more := by
  induction more generalizing m with
  | nil => simp
  | cons e more ih =>
      have hlast : (m.insert e.1 e.2).entries = m.entries ++ [e] :=
        placeEntry_of_forall_lt fun d hd =>
          (List.pairwise_append.mp h).2.2 d hd e List.mem_cons_self
      have hsame : m.entries ++ e :: more = (m.insert e.1 e.2).entries ++ more := by
        rw [hlast, List.append_assoc, List.singleton_append]
      rw [hsame] at h ⊢
      exact ih h

theorem ofList_entries (m : SortedMap α) : ofList m.entries = m :=
  ext_entries (entries_foldl_insert m.ascending)

theorem mem_of_mem_placeEntry {key : String} {value : α} {entries : List (String × α)}
    {e : String × α} (h : e ∈ placeEntry key value entries) :
    e = (key, value) ∨ e ∈ entries := by
  induction entries with
  | nil => exact .inl (List.mem_singleton.mp h)
  | cons d rest ih =>
      rcases d with ⟨k, v⟩
      rw [placeEntry] at h
      split at h
      · rcases List.mem_cons.mp h with rfl | h
        · exact .inl rfl
        · exact .inr h
      · split at h
        · rename_i hk
          subst hk
          rcases List.mem_cons.mp h with h | h
          · exact .inl h
          · exact .inr (List.mem_cons_of_mem _ h)
        · rcases List.mem_cons.mp h with rfl | h
          · exact .inr List.mem_cons_self
          · exact (ih h).imp_right (List.mem_cons_of_mem _)

theorem mem_of_mem_foldl_insert {m : SortedMap α} {more : List (String × α)} {e : String × α}
    (h : e ∈ (more.foldl (fun m e => m.insert e.1 e.2) m).entries) :
    e ∈ m.entries ∨ e ∈ more := by
  induction more generalizing m with
  | nil => exact .inl h
  | cons d more ih =>
      rcases ih h with h | h
      · rcases mem_of_mem_placeEntry h with rfl | h
        · exact .inr List.mem_cons_self
        · exact .inl h
      · exact .inr (List.mem_cons_of_mem _ h)

theorem mem_of_mem_ofList {entries : List (String × α)} {e : String × α}
    (h : e ∈ (ofList entries).entries) : e ∈ entries :=
  (mem_of_mem_foldl_insert h).resolve_left List.not_mem_nil

theorem pairwise_keys (m : SortedMap α) : m.keys.Pairwise (· < ·) :=
  List.pairwise_map.mpr m.ascending

theorem nodup_keys (m : SortedMap α) : (m.entries.map (·.1)).Nodup := by
  have hne : m.entries.Pairwise fun a b => a.1 ≠ b.1 :=
    m.ascending.imp fun hlt => String.ne_of_lt hlt
  exact List.pairwise_map.mpr hne

end IntentProvider.SortedMap
