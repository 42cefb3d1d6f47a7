import IntentProvider.Proofs.Json.Value

/-!
Places in a value. The keys that lead through objects name a place, and a text can be put under one
key into the objects at some places while everything else stays as it is.
-/

namespace IntentProvider.Json.Value

/-- A value in which no object has a key twice, as the value of any document. -/
inductive Distinct : Value → Prop where
  | null : Distinct .null
  | bool (b : Bool) : Distinct (.bool b)
  | number (n : Number) : Distinct (.number n)
  | string (s : String) : Distinct (.string s)
  | array {items : List Value} (h : ∀ v ∈ items, Distinct v) : Distinct (.array items)
  | object {members : List (String × Value)} (hkeys : (members.map (·.1)).Nodup)
      (h : ∀ m ∈ members, Distinct m.2) : Distinct (.object members)

/-- The value at a place. -/
def at? (v : Value) : List String → Option Value
  | [] => some v
  | key :: path => (v.get? key).bind (at? · path)

mutual

/-- A value with a text put under a key of every object at a place that is selected. -/
def putWhere (select : List String → Bool) (key text : String) : Value → Value
  | .object members =>
      .object
        (if select [] then putEntry key (.string text) (putMembersWhere select key text members)
        else putMembersWhere select key text members)
  | v => v

/-- Members with a text put under a key of every object at a place that is selected. -/
def putMembersWhere (select : List String → Bool) (key text : String) :
    List (String × Value) → List (String × Value)
  | [] => []
  | (k, v) :: rest =>
      (k, putWhere (fun path => select (k :: path)) key text v) ::
        putMembersWhere select key text rest

end

section PutWhere

variable {select : List String → Bool} {key text : String}

theorem putMembersWhere_eq_map (members : List (String × Value)) :
    putMembersWhere select key text members =
      members.map fun m => (m.1, m.2.putWhere (fun path => select (m.1 :: path)) key text) := by
  induction members with
  | nil => rfl
  | cons m rest ih => rw [putMembersWhere, ih, List.map_cons]

theorem putMembersWhere_eq_self {members : List (String × Value)}
    (h : ∀ m ∈ members, m.2.putWhere (fun path => select (m.1 :: path)) key text = m.2) :
    putMembersWhere select key text members = members := by
  rw [putMembersWhere_eq_map]
  refine (List.map_congr_left fun m hm => ?_).trans (List.map_id members)
  exact Prod.ext rfl (h m hm)

/-- Where nothing is selected, nothing changes. -/
theorem putWhere_of_forall_false {v : Value} (h : v.Distinct)
    (hselect : ∀ path, select path = false) : v.putWhere select key text = v := by
  induction h generalizing select with
  | object hkeys hmembers ih =>
      rw [putWhere, hselect, putMembersWhere_eq_self fun m hm => ih m hm fun path => hselect _]
      rfl
  | _ => rfl

end PutWhere

end IntentProvider.Json.Value

namespace IntentProvider.Json

/-- Of a repeated key in a document one entry is left, so that its value has each key once. -/
theorem Tree.distinct_of_value? {depth : Nat} {v : Value} :
    (t : Tree) → t.value? depth = some v → v.Distinct
  | null, h => by
      cases h
      exact .null
  | bool b, h => by
      cases h
      exact .bool b
  | number n, h => by
      obtain ⟨n, -, rfl⟩ := Option.map_eq_some_iff.mp h
      exact .number n
  | string s, h => by
      obtain ⟨s, -, rfl⟩ := Option.map_eq_some_iff.mp h
      exact .string s
  | array items, h => by
      rw [value?] at h
      split at h
      · cases h
      · obtain ⟨vs, hvs, rfl⟩ := Option.map_eq_some_iff.mp h
        exact .array (forall_values? (fun t ht v hv => distinct_of_value? t hv) hvs)
  | object members, h => by
      rw [value?] at h
      split at h
      · cases h
      · obtain ⟨ms, hms, rfl⟩ := Option.map_eq_some_iff.mp h
        have hall := forall_memberValues? (fun m hm v hv => distinct_of_value? m.2 hv) hms
        refine .object (nodup_keys_putEntries List.nodup_nil) fun m hm => hall m ?_
        exact (OrderedMap.mem_of_mem_putEntries hm).resolve_left List.not_mem_nil
termination_by t => t
decreasing_by
  · have hsize := List.sizeOf_lt_of_mem ht
    rw [array.sizeOf_spec]
    omega
  · obtain ⟨key, t⟩ := m
    have hsize := List.sizeOf_lt_of_mem hm
    rw [Prod.mk.sizeOf_spec] at hsize
    rw [object.sizeOf_spec]
    dsimp only
    omega

end IntentProvider.Json
