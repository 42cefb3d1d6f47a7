import IntentProvider.Proofs.Map.Ordered
import IntentProvider.Store.Memory

/-!
What each call does to a store in memory. A call on an entity that the store holds is described by
one equation, and a call of which nothing is known by the ways in which it can end.
-/

namespace IntentProvider

open IntentProvider.Json

/-- The stamp with a UUID at the first instant of 1970. -/
def Stamp.epoch (uuid : String) : Stamp where
  uuid := uuid
  createdAt := ⟨⟨1970, 1, 1⟩, 0, 0, by decide, by decide, by decide, by decide⟩

namespace MemoryStore

/-- The store has an entity under its own UUID. -/
def Holds (m : MemoryStore) (e : Entity) : Prop :=
  m.entities.get? e.metadata.uuid = some e

/-- Every entity stands under its own UUID. -/
def Keyed (m : MemoryStore) : Prop :=
  ∀ uuid e, m.entities.get? uuid = some e → e.metadata.uuid = uuid

theorem keyed_empty : Keyed {} := by
  intro uuid e h
  cases h

theorem holds_put (m : MemoryStore) (e : Entity) : (m.put e).Holds e :=
  m.entities.get?_insert_self e.metadata.uuid e

theorem put_put (m : MemoryStore) (e e' : Entity) (h : e'.metadata.uuid = e.metadata.uuid) :
    (m.put e).put e' = m.put e' := by
  unfold put
  rw [h, OrderedMap.insert_insert]

theorem put_withStatus (m : MemoryStore) (e : Entity) (status : Document) :
    (m.put e).put (withStatus e status) = m.put (withStatus e status) :=
  put_put m e (withStatus e status) rfl

theorem lookup_eq_ok_iff {m : MemoryStore} {r : Reference} {e : Entity} :
    m.lookup r = .ok e ↔ m.entities.get? r.uuid = some e ∧ e.metadata.kind = r.kind := by
  have hfind : m.find? r = some e ↔
      m.entities.get? r.uuid = some e ∧ e.metadata.kind = r.kind := by
    rw [find?, Option.filter_eq_some_iff, beq_iff_eq]
  rw [← hfind, lookup]
  cases m.find? r with
  | none => simp
  | some e' => simp

theorem lookup_of_holds {m : MemoryStore} {e : Entity} (h : m.Holds e) :
    m.lookup e.reference = .ok e :=
  lookup_eq_ok_iff.mpr ⟨h, rfl⟩

theorem lookup_cases (m : MemoryStore) (r : Reference) :
    (∃ e, m.lookup r = .ok e) ∨ m.lookup r = .error (.notFound (nameOf r)) := by
  rw [lookup]
  cases m.find? r with
  | none => exact .inr rfl
  | some e => exact .inl ⟨e, rfl⟩

theorem reference_of_lookup {m : MemoryStore} (hm : m.Keyed) {r : Reference} {e : Entity}
    (he : m.lookup r = .ok e) : e.reference = r := by
  obtain ⟨hget, hkind⟩ := lookup_eq_ok_iff.mp he
  rcases r with ⟨uuid, kind⟩
  exact congr (congrArg Reference.mk (hm uuid e hget)) hkind

theorem holds_of_lookup {m : MemoryStore} (hm : m.Keyed) {r : Reference} {e : Entity}
    (he : m.lookup r = .ok e) : m.Holds e := by
  obtain ⟨hget, -⟩ := lookup_eq_ok_iff.mp he
  rw [Holds, hm r.uuid e hget]
  exact hget

theorem answer_of_missing {m : MemoryStore} {r : Reference} {call : StoreCall}
    (htarget : call.target? = some r) (hl : m.lookup r = .error (.notFound (nameOf r)))
    (stamp : Stamp) : m.answer stamp call = (call.refuse (.notFound (nameOf r)), m) := by
  cases call <;> cases htarget
  all_goals
    rw [answer, hl]
    rfl

/-! Calls on an entity that the store holds. -/

section Held

variable {m : MemoryStore} {e : Entity} (stamp : Stamp)

theorem answer_get_of_holds (h : m.Holds e) :
    m.answer stamp (.get e.reference) = (.ok e, m) := by
  rw [answer, lookup_of_holds h]

theorem answer_updateSpec_of_holds (h : m.Holds e) {presented : Metadata}
    (hr : presented.reference = e.reference)
    (hv : presented.specVersion = e.metadata.specVersion) (spec : Document) :
    m.answer stamp (.updateSpec presented spec) = (.ok (), m.put (withSpec e spec)) := by
  have hu : presented.uuid = e.metadata.uuid := congrArg Reference.uuid hr
  simp [answer, hr, lookup_of_holds h, hv, hu, put, withSpec]

theorem answer_updateSpec_of_stale (h : m.Holds e) {presented : Metadata}
    (hr : presented.reference = e.reference)
    (hv : presented.specVersion ≠ e.metadata.specVersion) (spec : Document) :
    m.answer stamp (.updateSpec presented spec) =
      (.error (.versionConflict presented.uuid
        (staleText presented.specVersion e.metadata.specVersion)), m) := by
  simp [answer, hr, lookup_of_holds h, Ne.symm hv]

theorem answer_updateStatus_of_holds (h : m.Holds e) {presented : Metadata}
    (hr : presented.reference = e.reference) (status : Document) :
    m.answer stamp (.updateStatus presented status) = (.ok (), m.put (withStatus e status)) := by
  have hu : presented.uuid = e.metadata.uuid := congrArg Reference.uuid hr
  simp [answer, hr, lookup_of_holds h, hu, put, withStatus]

theorem answer_delete_of_holds (h : m.Holds e) :
    m.answer stamp (.delete e.reference) = (.ok (), ⟨m.entities.erase e.metadata.uuid⟩) := by
  rw [answer, lookup_of_holds h]
  rfl

end Held

/-! Calls of which nothing is known. -/

theorem answer_updateSpec_cases (stamp : Stamp) (m : MemoryStore) (presented : Metadata)
    (spec : Document) :
    (∃ f, m.answer stamp (.updateSpec presented spec) = (.error f, m)) ∨
    ∃ e, m.lookup presented.reference = .ok e ∧
      e.metadata.specVersion = presented.specVersion ∧
      m.answer stamp (.updateSpec presented spec) =
        (.ok (), ⟨m.entities.insert presented.uuid (withSpec e spec)⟩) := by
  cases hl : m.lookup presented.reference with
  | error f => exact .inl ⟨f, by simp [answer, hl]⟩
  | ok e =>
      by_cases hv : e.metadata.specVersion = presented.specVersion
      · exact .inr ⟨e, rfl, hv, by simp [answer, hl, hv]⟩
      · refine .inl ⟨.versionConflict presented.uuid
          (staleText presented.specVersion e.metadata.specVersion), ?_⟩
        simp [answer, hl, hv]

theorem answer_updateStatus_cases (stamp : Stamp) (m : MemoryStore) (presented : Metadata)
    (status : Document) :
    (∃ f, m.answer stamp (.updateStatus presented status) = (.error f, m)) ∨
    ∃ e, m.lookup presented.reference = .ok e ∧
      m.answer stamp (.updateStatus presented status) =
        (.ok (), ⟨m.entities.insert presented.uuid (withStatus e status)⟩) := by
  cases hl : m.lookup presented.reference with
  | error f => exact .inl ⟨f, by simp [answer, hl]⟩
  | ok e => exact .inr ⟨e, rfl, by simp [answer, hl]⟩

theorem answer_delete_cases (stamp : Stamp) (m : MemoryStore) (r : Reference) :
    (∃ f, m.answer stamp (.delete r) = (.error f, m)) ∨
    ∃ e, m.lookup r = .ok e ∧
      m.answer stamp (.delete r) = (.ok (), ⟨m.entities.erase r.uuid⟩) := by
  cases hl : m.lookup r with
  | error f => exact .inl ⟨f, by simp [answer, hl]⟩
  | ok e => exact .inr ⟨e, rfl, by simp [answer, hl]⟩

theorem keyed_insert {m : MemoryStore} (hm : m.Keyed) {uuid : String} {e : Entity}
    (he : e.metadata.uuid = uuid) : Keyed ⟨m.entities.insert uuid e⟩ := by
  intro other found h
  change (m.entities.insert uuid e).get? other = some found at h
  rw [OrderedMap.get?_insert] at h
  split at h
  · rename_i hother
    cases h
    rw [he, hother]
  · exact hm other found h

theorem keyed_answer {m : MemoryStore} (hm : m.Keyed) (stamp : Stamp) (call : StoreCall) :
    (m.answer stamp call).2.Keyed := by
  cases call with
  | create kind spec extension => exact keyed_insert hm rfl
  | get r => exact hm
  | updateSpec presented spec =>
      rcases answer_updateSpec_cases stamp m presented spec with ⟨f, h⟩ | ⟨e, hl, hv, h⟩
      · rw [h]
        exact hm
      · rw [h]
        exact keyed_insert hm (hm _ e (lookup_eq_ok_iff.mp hl).1)
  | updateStatus presented status =>
      rcases answer_updateStatus_cases stamp m presented status with ⟨f, h⟩ | ⟨e, hl, h⟩
      · rw [h]
        exact hm
      · rw [h]
        exact keyed_insert hm (hm _ e (lookup_eq_ok_iff.mp hl).1)
  | delete r =>
      rcases answer_delete_cases stamp m r with ⟨f, h⟩ | ⟨e, hl, h⟩
      · rw [h]
        exact hm
      · rw [h]
        intro uuid found hfound
        change (m.entities.erase r.uuid).get? uuid = some found at hfound
        rw [OrderedMap.get?_erase] at hfound
        split at hfound
        · cases hfound
        · exact hm uuid found hfound

end MemoryStore

end IntentProvider
