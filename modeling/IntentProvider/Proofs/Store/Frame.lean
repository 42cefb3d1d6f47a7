import Mathlib.Data.List.Induction
import IntentProvider.Proofs.Store.History

/-!
What the calls to a store in memory leave alone. A call that fails changes nothing, and one that
succeeds changes only the entity with the identity that it presents, and of this entity only what
the call is there for. Main statement: this holds of every call after every run, and at any time the
lists of all kinds together have each entity once.
-/

namespace IntentProvider.MemoryStore

open IntentProvider.Json

def SameElsewhere (uuid : String) (m m' : MemoryStore) : Prop :=
  ∀ other, other ≠ uuid → m'.entities.get? other = m.entities.get? other

/-- The changes that a call makes when it succeeds. -/
inductive Changes (stamp : Stamp) (m m' : MemoryStore) : StoreCall → Prop where
  | created {kind : String} {spec extension : Document}
      (new : m.entities.get? stamp.uuid = none)
      (held : m'.Holds
        { metadata := { uuid := stamp.uuid, kind, specVersion := 1, createdAt := stamp.createdAt,
                        extension }
          spec })
      (elsewhere : SameElsewhere stamp.uuid m m') (size : m'.size = m.size + 1) :
      Changes stamp m m' (.create kind spec extension)
  | read {r : Reference} {e : Entity} (found : m.Holds e) (identity : e.reference = r)
      (same : m' = m) : Changes stamp m m' (.get r)
  | written {presented : Metadata} {spec : Document} {e : Entity} (found : m.Holds e)
      (identity : e.reference = presented.reference)
      (current : e.metadata.specVersion = presented.specVersion)
      (held : m'.Holds
        { e with
          spec := spec
          metadata := { e.metadata with specVersion := e.metadata.specVersion + 1 } })
      (elsewhere : SameElsewhere e.metadata.uuid m m') (size : m'.size = m.size) :
      Changes stamp m m' (.updateSpec presented spec)
  | merged {presented : Metadata} {status : Document} {e : Entity} (found : m.Holds e)
      (identity : e.reference = presented.reference)
      (held : m'.Holds { e with status := e.status.merge status })
      (elsewhere : SameElsewhere e.metadata.uuid m m') (size : m'.size = m.size) :
      Changes stamp m m' (.updateStatus presented status)
  | deleted {r : Reference} {e : Entity} (found : m.Holds e) (identity : e.reference = r)
      (gone : m'.entities.get? r.uuid = none) (elsewhere : SameElsewhere r.uuid m m')
      (size : m'.size + 1 = m.size) : Changes stamp m m' (.delete r)

/-- What a call does to a store and what it leaves alone. -/
structure Framed (m : MemoryStore) (stamp : Stamp) (call : StoreCall) : Prop where
  failed : (m.answer stamp call).1.isOk = false → (m.answer stamp call).2 = m
  succeeded : (m.answer stamp call).1.isOk = true → Changes stamp m (m.answer stamp call).2 call
  /-- Only a write of a spec can be refused for an entity that is there. -/
  accepted : ∀ e, m.Holds e → call.target? = some e.reference →
    (∀ presented spec, call = .updateSpec presented spec →
      presented.specVersion = e.metadata.specVersion) →
    (m.answer stamp call).1.isOk = true
  absent : ∀ r, call.target? = some r → m.entities.get? r.uuid = none →
    m.answer stamp call = (call.refuse (.notFound (r.kind ++ "/" ++ r.uuid)), m)
  /-- An entity of another kind is as good as none. -/
  foreign : ∀ r e, call.target? = some r → m.entities.get? r.uuid = some e →
    e.metadata.kind ≠ r.kind →
    m.answer stamp call = (call.refuse (.notFound (r.kind ++ "/" ++ r.uuid)), m)

section Call

variable {m : MemoryStore} {stamp : Stamp} {call : StoreCall}

theorem lookup_of_absent {r : Reference} (h : m.entities.get? r.uuid = none) :
    m.lookup r = .error (.notFound (nameOf r)) := by
  rw [lookup, find?, h]
  rfl

theorem lookup_of_foreign {r : Reference} {e : Entity} (h : m.entities.get? r.uuid = some e)
    (hkind : e.metadata.kind ≠ r.kind) : m.lookup r = .error (.notFound (nameOf r)) := by
  rw [lookup, find?, h, Option.filter_some, if_neg]
  simpa using hkind

theorem holds_insert {uuid : String} {e : Entity} (h : e.metadata.uuid = uuid) :
    Holds ⟨m.entities.insert uuid e⟩ e := by
  subst h
  exact OrderedMap.get?_insert_self _ _ _

theorem sameElsewhere_insert (m : MemoryStore) (uuid : String) (e : Entity) :
    SameElsewhere uuid m ⟨m.entities.insert uuid e⟩ :=
  fun _ h => OrderedMap.get?_insert_of_ne _ _ h

theorem isOk_of_holds {e : Entity} (he : m.Holds e) (htarget : call.target? = some e.reference)
    (hversion : ∀ presented spec, call = .updateSpec presented spec →
      presented.specVersion = e.metadata.specVersion) :
    (m.answer stamp call).1.isOk = true := by
  cases call with
  | create kind spec extension => rfl
  | get r =>
      cases htarget
      rw [answer_get_of_holds stamp he]
      rfl
  | updateSpec presented spec =>
      have hreference : presented.reference = e.reference := Option.some.inj htarget
      rw [answer_updateSpec_of_holds stamp he hreference (hversion presented spec rfl)]
      rfl
  | updateStatus presented status =>
      have hreference : presented.reference = e.reference := Option.some.inj htarget
      rw [answer_updateStatus_of_holds stamp he hreference]
      rfl
  | delete r =>
      cases htarget
      rw [answer_delete_of_holds stamp he]
      rfl

theorem answer_of_not_isOk (h : (m.answer stamp call).1.isOk = false) :
    (m.answer stamp call).2 = m := by
  cases call with
  | create kind spec extension => cases h
  | get r => rfl
  | updateSpec presented spec =>
      rcases answer_updateSpec_cases stamp m presented spec with ⟨f, ha⟩ | ⟨e, -, -, ha⟩
      · rw [ha]
      · rw [ha] at h
        cases h
  | updateStatus presented status =>
      rcases answer_updateStatus_cases stamp m presented status with ⟨f, ha⟩ | ⟨e, -, ha⟩
      · rw [ha]
      · rw [ha] at h
        cases h
  | delete r =>
      rcases answer_delete_cases stamp m r with ⟨f, ha⟩ | ⟨e, -, ha⟩
      · rw [ha]
      · rw [ha] at h
        cases h

theorem changes_of_isOk (hm : m.Keyed)
    (hnew : ∀ uuid, made? (stamp, call) = some uuid → m.entities.get? uuid = none)
    (h : (m.answer stamp call).1.isOk = true) : Changes stamp m (m.answer stamp call).2 call := by
  cases call with
  | create kind spec extension =>
      have hnone := hnew stamp.uuid rfl
      exact .created hnone (holds_put m (newEntity stamp kind spec extension))
        (sameElsewhere_insert m _ _) (OrderedMap.size_insert_of_get?_eq_none hnone _)
  | get r =>
      rcases lookup_cases m r with ⟨e, hl⟩ | hl
      · exact .read (holds_of_lookup hm hl) (reference_of_lookup hm hl) rfl
      · rw [answer, hl] at h
        cases h
  | updateSpec presented spec =>
      rcases answer_updateSpec_cases stamp m presented spec with ⟨f, ha⟩ | ⟨e, hl, hv, ha⟩
      · rw [ha] at h
        cases h
      · have hidentity := reference_of_lookup hm hl
        have huuid : e.metadata.uuid = presented.uuid := congrArg Reference.uuid hidentity
        rw [ha]
        exact .written (holds_of_lookup hm hl) hidentity hv (holds_insert huuid)
          (huuid ▸ sameElsewhere_insert m _ _)
          (OrderedMap.size_insert_of_get? (lookup_eq_ok_iff.mp hl).1 _)
  | updateStatus presented status =>
      rcases answer_updateStatus_cases stamp m presented status with ⟨f, ha⟩ | ⟨e, hl, ha⟩
      · rw [ha] at h
        cases h
      · have hidentity := reference_of_lookup hm hl
        have huuid : e.metadata.uuid = presented.uuid := congrArg Reference.uuid hidentity
        rw [ha]
        exact .merged (holds_of_lookup hm hl) hidentity (holds_insert huuid)
          (huuid ▸ sameElsewhere_insert m _ _)
          (OrderedMap.size_insert_of_get? (lookup_eq_ok_iff.mp hl).1 _)
  | delete r =>
      rcases answer_delete_cases stamp m r with ⟨f, ha⟩ | ⟨e, hl, ha⟩
      · rw [ha] at h
        cases h
      · rw [ha]
        refine .deleted (holds_of_lookup hm hl) (reference_of_lookup hm hl) ?_ ?_ ?_
        · exact (OrderedMap.get?_erase _ _ _).trans (if_pos rfl)
        · exact fun _ hne => (OrderedMap.get?_erase _ _ _).trans (if_neg hne)
        · exact OrderedMap.size_erase_of_get? (lookup_eq_ok_iff.mp hl).1

theorem framed_answer (hm : m.Keyed)
    (hnew : ∀ uuid, made? (stamp, call) = some uuid → m.entities.get? uuid = none) :
    Framed m stamp call where
  failed := answer_of_not_isOk
  succeeded := changes_of_isOk hm hnew
  accepted _ := isOk_of_holds
  absent _ htarget h := answer_of_missing htarget (lookup_of_absent h) stamp
  foreign _ _ htarget h hkind :=
    answer_of_missing htarget (lookup_of_foreign h hkind) stamp

end Call

/-! The lists of the kinds. -/

theorem flatMap_filter_perm {α β : Type} [BEq β] [LawfulBEq β] (f : α → β) {keys : List β}
    {l : List α} (hkeys : keys.Nodup) (h : ∀ a ∈ l, f a ∈ keys) :
    (keys.flatMap fun k => l.filter (f · == k)).Perm l := by
  induction keys generalizing l with
  | nil =>
      have hnil : l = [] := List.eq_nil_iff_forall_not_mem.mpr fun a ha => by simpa using h a ha
      simp [hnil]
  | cons k rest ih =>
      obtain ⟨hk, hrest⟩ := List.nodup_cons.mp hkeys
      let others := l.filter fun a => !(f a == k)
      have hother : ∀ a ∈ others, f a ∈ rest := by
        intro a ha
        obtain ⟨ha, hne⟩ := List.mem_filter.mp ha
        refine (List.mem_cons.mp (h a ha)).resolve_left ?_
        rintro heq
        simp [heq] at hne
      have hsame : (rest.flatMap fun k' => others.filter (f · == k')) =
          rest.flatMap fun k' => l.filter (f · == k') := by
        apply List.flatMap_congr
        intro k' hk'
        have hne : k' ≠ k := by
          rintro rfl
          exact hk hk'
        rw [List.filter_filter]
        apply List.filter_congr
        intro a _
        by_cases ha : f a = k'
        · simp [ha, hne]
        · simp [ha]
      rw [List.flatMap_cons, ← hsame]
      exact ((ih hrest hother).append_left _).trans (List.filter_append_perm (f · == k) l)

/-- The lists of all kinds divide the entities of a store among them. -/
structure Partitioned (m : MemoryStore) : Prop where
  listed : ∀ kind e, e ∈ m.list kind ↔ m.Holds e ∧ e.metadata.kind = kind
  once : ∀ kind, ((m.list kind).map (·.metadata.uuid)).Nodup
  whole : ∀ kinds : List String, kinds.Nodup → (∀ e, m.Holds e → e.metadata.kind ∈ kinds) →
    (kinds.flatMap m.list).Perm m.entities.values

section List

variable {m : MemoryStore}

theorem mem_values_iff (hm : m.Keyed) {e : Entity} : e ∈ m.entities.values ↔ m.Holds e := by
  rw [OrderedMap.mem_values_iff]
  constructor
  · rintro ⟨uuid, h⟩
    rw [Holds, hm uuid e h]
    exact h
  · intro h
    exact ⟨e.metadata.uuid, h⟩

theorem nodup_uuids (hm : m.Keyed) : (m.entities.values.map (·.metadata.uuid)).Nodup := by
  have hkeys : m.entities.values.map (·.metadata.uuid) = m.entities.entries.map (·.1) := by
    rw [OrderedMap.values, List.map_map]
    apply List.map_congr_left
    rintro ⟨uuid, e⟩ hmem
    exact hm uuid e (OrderedMap.get?_eq_some_iff.mpr hmem)
  rw [hkeys]
  exact m.entities.distinct

theorem partitioned_of_keyed (hm : m.Keyed) : Partitioned m := by
  constructor
  · intro kind e
    rw [list, List.mem_filter, mem_values_iff hm, beq_iff_eq]
  · intro kind
    exact (nodup_uuids hm).sublist (List.filter_sublist.map _)
  · intro kinds hkinds hall
    apply flatMap_filter_perm (fun e : Entity => e.metadata.kind) hkinds
    intro e he
    exact hall e ((mem_values_iff hm).mp he)

end List

namespace Event

def isCreation (e : Event) : Bool :=
  (made? (e.stamp, e.call)).isSome

/-- Whether an event is a deletion that the store has not refused. -/
def isDeletion : Event → Bool
  | ⟨m, stamp, .delete r⟩ => (m.answer stamp (.delete r)).1.isOk
  | _ => false

theorem size_answer {m : MemoryStore} {stamp : Stamp} {call : StoreCall} (hm : m.Keyed)
    (hnew : ∀ uuid, made? (stamp, call) = some uuid → m.entities.get? uuid = none) :
    (m.answer stamp call).2.size + [Event.mk m stamp call].countP isDeletion =
      m.size + [Event.mk m stamp call].countP isCreation := by
  rw [List.countP_singleton, List.countP_singleton]
  cases hok : (m.answer stamp call).1.isOk with
  | false =>
      rw [answer_of_not_isOk hok]
      cases call with
      | create kind spec extension => cases hok
      | delete r => rw [isDeletion, hok]; rfl
      | get r => rfl
      | updateSpec presented spec => rfl
      | updateStatus presented status => rfl
  | true =>
      cases changes_of_isOk hm hnew hok with
      | created _ _ _ hsize => exact hsize
      | read _ _ hsame => exact congrArg size hsame
      | written _ _ _ _ _ hsize => exact hsize
      | merged _ _ _ _ hsize => exact hsize
      | deleted _ _ _ _ hsize =>
          rw [isDeletion, hok]
          exact hsize

end Event

/-! Runs from the empty store. -/

theorem SameOrigin.trans {a b c : Metadata} (h : SameOrigin a b) (h' : SameOrigin b c) :
    SameOrigin a c :=
  Eq.trans h (congrArg (fun d : Metadata => { d with specVersion := a.specVersion }) h')

/-- Nothing but the version of an entity's metadata has changed since it was made. -/
theorem exists_creation {steps : List (Stamp × StoreCall)} {uuid : String} {e : Entity}
    (h : (play {} steps).entities.get? uuid = some e) :
    ∃ stamp kind spec extension, (stamp, .create kind spec extension) ∈ steps ∧
      stamp.uuid = uuid ∧ SameOrigin e.metadata (newEntity stamp kind spec extension).metadata := by
  induction steps using List.reverseRecOn generalizing e with
  | nil => cases h
  | append_singleton steps step ih =>
      rw [play_snoc] at h
      rcases origin_of_get?_answer h with ⟨kind, spec, extension, hcall, hu, rfl⟩ | ⟨old, hold, hsame⟩
      · refine ⟨step.1, kind, spec, extension, ?_, hu, .refl _⟩
        rw [← hcall]
        exact List.mem_append_right _ (List.mem_singleton_self step)
      · obtain ⟨stamp, kind, spec, extension, hmem, hu, horigin⟩ := ih hold
        exact ⟨stamp, kind, spec, extension, List.mem_append_left _ hmem, hu, hsame.trans horigin⟩

section Run

variable {steps : List (Stamp × StoreCall)} {step : Stamp × StoreCall}

theorem get?_eq_none_of_made (hfresh : ((steps ++ [step]).filterMap made?).Nodup) {uuid : String}
    (hmade : made? step = some uuid) : (play {} steps).entities.get? uuid = none := by
  apply Option.eq_none_iff_forall_ne_some.mpr
  intro e he
  obtain ⟨stamp, kind, spec, extension, hmem, hu, -⟩ := exists_creation he
  have hbefore : uuid ∈ steps.filterMap made? :=
    List.mem_filterMap.mpr ⟨_, hmem, congrArg some hu⟩
  rw [List.filterMap_append] at hfresh
  refine (List.nodup_append.mp hfresh).2.2 uuid hbefore uuid ?_ rfl
  exact List.mem_filterMap.mpr ⟨step, List.mem_singleton_self step, hmade⟩

theorem size_play (hfresh : (steps.filterMap made?).Nodup) :
    (play {} steps).size + (history {} steps).countP Event.isDeletion =
      (history {} steps).countP Event.isCreation := by
  induction steps using List.reverseRecOn with
  | nil => rfl
  | append_singleton steps step ih =>
      have hprefix : (steps.filterMap made?).Nodup := by
        rw [List.filterMap_append] at hfresh
        exact (List.nodup_append.mp hfresh).1
      have hbefore := ih hprefix
      have hstep := Event.size_answer (keyed_play keyed_empty steps)
        fun uuid hmade => get?_eq_none_of_made hfresh hmade
      rw [play_snoc, history_snoc, List.countP_append, List.countP_append]
      change ((play {} steps).answer step.1 step.2).2.size + _ = _
      omega

end Run

/-- The entities of a store after a run. -/
structure Accounted (steps : List (Stamp × StoreCall)) (m : MemoryStore) : Prop where
  keyed : ∀ uuid e, m.entities.get? uuid = some e → e.metadata.uuid = uuid
  /-- An entity has the metadata with which it was made, but for the version. -/
  origin : ∀ e, m.Holds e → ∃ stamp kind spec extension,
    (stamp, .create kind spec extension) ∈ steps ∧
    e.metadata = { uuid := stamp.uuid, kind, specVersion := e.metadata.specVersion,
                   createdAt := stamp.createdAt, extension }
  size : m.size + (history {} steps).countP Event.isDeletion =
    (history {} steps).countP Event.isCreation
  partitioned : Partitioned m

/-- After every run from the empty store in which no UUID is drawn twice. -/
theorem framed_of_run (steps : List (Stamp × StoreCall)) (stamp : Stamp) (call : StoreCall)
    (hfresh : ((steps ++ [(stamp, call)]).filterMap made?).Nodup) :
    Framed (play {} steps) stamp call ∧ Accounted steps (play {} steps) := by
  have hkeyed : (play {} steps).Keyed := keyed_play keyed_empty steps
  constructor
  · apply framed_answer hkeyed
    intro uuid hmade
    exact get?_eq_none_of_made hfresh hmade
  · constructor
    · exact hkeyed
    · intro e he
      obtain ⟨made, kind, spec, extension, hmem, -, horigin⟩ := exists_creation he
      exact ⟨made, kind, spec, extension, hmem, horigin⟩
    · apply size_play
      rw [List.filterMap_append] at hfresh
      exact (List.nodup_append.mp hfresh).1
    · exact partitioned_of_keyed hkeyed

/-- A write with metadata that are not the entity's own, and a deletion under the kind of another. -/
theorem framed_of_run_foreign :
    let presented : Metadata :=
      { uuid := "a", kind := "Task", specVersion := 1, extension := .singleton "owner" .null }
    let steps : List (Stamp × StoreCall) :=
      [(.epoch "a", .create "Task" {} {}), (.epoch "b", .create "Location" {} {}),
        (.epoch "c", .updateSpec presented (.singleton "state" .null)),
        (.epoch "d", .delete ⟨"b", "Task"⟩), (.epoch "e", .delete ⟨"b", "Location"⟩)]
    let next : StoreCall := .updateStatus presented (.singleton "state" .null)
    ((steps ++ [(Stamp.epoch "f", next)]).filterMap made?).Nodup ∧
      Framed (play {} steps) (.epoch "f") next ∧ Accounted steps (play {} steps) ∧
      (play {} steps).size = 1 ∧ ((play {} steps).list "Task").length = 1 ∧
      ((play {} steps).list "Location").length = 0 := by
  intro presented steps next
  have hfresh : ((steps ++ [(Stamp.epoch "f", next)]).filterMap made?).Nodup := by decide
  obtain ⟨hframed, haccounted⟩ := framed_of_run steps (.epoch "f") next hfresh
  exact ⟨hfresh, hframed, haccounted, rfl, rfl, rfl⟩

end IntentProvider.MemoryStore
