import IntentProvider.Json.Tree
import IntentProvider.Proofs.Map.Ordered

/-!
Values of documents whose numbers are integers. The value of a document is written as a document
that has the same value again, and that opens no more levels.
-/

namespace IntentProvider.Json

/-- A number that is spelled as an integer. Minus zero is one, though it is held as a double. -/
inductive Number.Whole : Number → Prop where
  | int (value : Int) (fits : FitsWord value) : Whole (.int value fits)
  | minusZero : Whole (.real 0x8000000000000000)

/-- A value whose numbers are integers. -/
inductive Value.Whole : Value → Prop where
  | null : Whole .null
  | bool (b : Bool) : Whole (.bool b)
  | number {n : Number} (h : n.Whole) : Whole (.number n)
  | string (s : String) : Whole (.string s)
  | array {items : List Value} (h : ∀ v ∈ items, Whole v) : Whole (.array items)
  | object {members : List (String × Value)} (h : ∀ m ∈ members, Whole m.2) :
      Whole (.object members)

/-- A document whose numbers are integers. -/
inductive Tree.Whole : Tree → Prop where
  | null : Whole .null
  | bool (b : Bool) : Whole (.bool b)
  | number {n : Number} (h : n.Whole) : Whole (.number (some n))
  | string (s : Option String) : Whole (.string s)
  | array {items : List Tree} (h : ∀ t ∈ items, Whole t) : Whole (.array items)
  | object {members : List (Option String × Tree)} (h : ∀ m ∈ members, Whole m.2) :
      Whole (.object members)

namespace Tree

theorem ofValues_eq_map (items : List Value) : ofValues items = items.map ofValue := by
  induction items with
  | nil => rfl
  | cons v vs ih => rw [ofValues, ih, List.map_cons]

theorem ofMembers_eq_map (members : List (String × Value)) :
    ofMembers members = members.map fun m => (some m.1, ofValue m.2) := by
  induction members with
  | nil => rfl
  | cons m ms ih => rw [ofMembers, ih, List.map_cons]

theorem whole_ofValue {v : Value} (h : v.Whole) : (ofValue v).Whole := by
  induction h with
  | null => exact .null
  | bool b => exact .bool b
  | number hn => exact .number hn
  | string s => exact .string (some s)
  | array _ ih =>
      rw [ofValue, ofValues_eq_map]
      exact .array (List.forall_mem_map.mpr ih)
  | object _ ih =>
      rw [ofValue, ofMembers_eq_map]
      exact .object (List.forall_mem_map.mpr ih)

/-- A value that is read again from what is written for it. -/
def Holds (depth : Nat) (v : Value) : Prop :=
  (ofValue v).value? depth = some v

theorem values?_ofValues {depth : Nat} {vs : List Value} (h : ∀ v ∈ vs, Holds depth v) :
    values? depth (ofValues vs) = some vs := by
  induction vs with
  | nil => rfl
  | cons v vs ih =>
      have hv : (ofValue v).value? depth = some v := h v List.mem_cons_self
      rw [ofValues, values?, hv, ih fun v hv => h v (List.mem_cons_of_mem _ hv)]
      rfl

theorem memberValues?_ofMembers {depth : Nat} {ms : List (String × Value)}
    (h : ∀ m ∈ ms, Holds depth m.2) : memberValues? depth (ofMembers ms) = some ms := by
  induction ms with
  | nil => rfl
  | cons m ms ih =>
      obtain ⟨k, v⟩ := m
      have hv : (ofValue v).value? depth = some v := h (k, v) List.mem_cons_self
      rw [ofMembers, memberValues?, hv, ih fun m hm => h m (List.mem_cons_of_mem _ hm)]
      rfl

theorem holds_array {depth : Nat} {vs : List Value} (hdepth : depth ≠ 0)
    (h : ∀ v ∈ vs, Holds (depth - 1) v) : Holds depth (.array vs) := by
  rw [Holds, ofValue, value?, if_neg hdepth, values?_ofValues h]
  rfl

theorem holds_object {depth : Nat} {ms : List (String × Value)} (hdepth : depth ≠ 0)
    (hkeys : (ms.map (·.1)).Nodup) (h : ∀ m ∈ ms, Holds (depth - 1) m.2) :
    Holds depth (.object ms) := by
  have hput : putEntries [] ms = ms := OrderedMap.putEntries_of_nodup hkeys
  rw [Holds, ofValue, value?, if_neg hdepth, memberValues?_ofMembers h, Option.map_some, hput]

theorem forall_values? {depth : Nat} {items : List Tree} {P : Value → Prop}
    (h : ∀ t ∈ items, ∀ v, t.value? depth = some v → P v) {vs : List Value}
    (hvs : values? depth items = some vs) : ∀ v ∈ vs, P v := by
  induction items generalizing vs with
  | nil =>
      cases hvs
      exact fun v hv => absurd hv List.not_mem_nil
  | cons t ts ih =>
      rw [values?] at hvs
      obtain ⟨v, hv, hvs⟩ := Option.bind_eq_some_iff.mp hvs
      obtain ⟨rest, hrest, hvs⟩ := Option.bind_eq_some_iff.mp hvs
      cases hvs
      intro v' hv'
      rcases List.mem_cons.mp hv' with rfl | hv'
      · exact h t List.mem_cons_self v' hv
      · exact ih (fun t ht => h t (List.mem_cons_of_mem _ ht)) hrest v' hv'

theorem forall_memberValues? {depth : Nat} {members : List (Option String × Tree)}
    {P : Value → Prop} (h : ∀ m ∈ members, ∀ v, m.2.value? depth = some v → P v)
    {ms : List (String × Value)} (hms : memberValues? depth members = some ms) :
    ∀ m ∈ ms, P m.2 := by
  induction members generalizing ms with
  | nil =>
      cases hms
      exact fun m hm => absurd hm List.not_mem_nil
  | cons m members ih =>
      obtain ⟨key, t⟩ := m
      rw [memberValues?] at hms
      obtain ⟨k, -, hms⟩ := Option.bind_eq_some_iff.mp hms
      obtain ⟨v, hv, hms⟩ := Option.bind_eq_some_iff.mp hms
      obtain ⟨rest, hrest, hms⟩ := Option.bind_eq_some_iff.mp hms
      cases hms
      intro m' hm'
      rcases List.mem_cons.mp hm' with rfl | hm'
      · exact h (key, t) List.mem_cons_self v hv
      · exact ih (fun m hm => h m (List.mem_cons_of_mem _ hm)) hrest m' hm'

/-- The value of a document is that of what is written for it. -/
theorem holds_of_value? {t : Tree} (ht : t.Whole) {depth : Nat} {v : Value}
    (h : t.value? depth = some v) : Holds depth v ∧ v.Whole := by
  induction ht generalizing depth v with
  | null =>
      cases h
      exact ⟨rfl, .null⟩
  | bool b =>
      cases h
      exact ⟨rfl, .bool b⟩
  | number hn =>
      cases h
      exact ⟨rfl, .number hn⟩
  | string s =>
      obtain ⟨s, -, rfl⟩ := Option.map_eq_some_iff.mp h
      exact ⟨rfl, .string s⟩
  | array _ ih =>
      rw [value?] at h
      split at h
      · cases h
      · rename_i hdepth
        obtain ⟨vs, hvs, rfl⟩ := Option.map_eq_some_iff.mp h
        have hall := forall_values? (fun t ht v hv => ih t ht hv) hvs
        exact ⟨holds_array hdepth fun v hv => (hall v hv).1, .array fun v hv => (hall v hv).2⟩
  | object _ ih =>
      rw [value?] at h
      split at h
      · cases h
      · rename_i hdepth
        obtain ⟨ms, hms, rfl⟩ := Option.map_eq_some_iff.mp h
        have hall := forall_memberValues? (fun m hm v hv => ih m hm hv) hms
        -- Of a repeated key one entry is left, so that what is written has each key once.
        have hmem : ∀ m ∈ putEntries [] ms, m ∈ ms := fun m hm =>
          (OrderedMap.mem_of_mem_putEntries hm).resolve_left List.not_mem_nil
        exact ⟨holds_object hdepth (nodup_keys_putEntries List.nodup_nil) fun m hm =>
          (hall m (hmem m hm)).1, .object fun m hm => (hall m (hmem m hm)).2⟩

theorem nodup_keys_of_value? {t : Tree} {depth : Nat} {ms : List (String × Value)}
    (h : t.value? depth = some (.object ms)) : (ms.map (·.1)).Nodup := by
  cases t with
  | object members =>
      rw [value?] at h
      split at h
      · cases h
      · obtain ⟨ms', -, hms⟩ := Option.map_eq_some_iff.mp h
        cases hms
        exact nodup_keys_putEntries List.nodup_nil
  | array items =>
      rw [value?] at h
      split at h
      · cases h
      · obtain ⟨vs, -, hvs⟩ := Option.map_eq_some_iff.mp h
        cases hvs
  | null => cases h
  | bool b => cases h
  | number n =>
      obtain ⟨n', -, hn⟩ := Option.map_eq_some_iff.mp h
      cases hn
  | string s =>
      obtain ⟨s', -, hs⟩ := Option.map_eq_some_iff.mp h
      cases hs

end Tree

end IntentProvider.Json
