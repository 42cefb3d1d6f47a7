import IntentProvider.Proofs.Map.Merge
import IntentProvider.Proofs.Store.Frame

/-!
Patches of the status of an entity. Two patches have the effect of one, in which the second one has
been merged into the first, and a patch touches nothing but the members that it has. Main statement:
whoever patches an entity in between, each member of its status has the value of the last patch that
has this member.
-/

namespace IntentProvider.MemoryStore

open IntentProvider.Json

/-- The patch that a call is for an entity. -/
def patch? (r : Reference) : StoreCall → Option Document
  | .updateStatus presented status => if presented.reference = r then some status else none
  | _ => none

theorem patch?_updateStatus {r : Reference} {presented : Metadata} (h : presented.reference = r)
    (status : Document) : patch? r (.updateStatus presented status) = some status :=
  if_pos h

theorem patch?_updateStatus_of_ne {r : Reference} {presented : Metadata}
    (h : presented.reference ≠ r) (status : Document) :
    patch? r (.updateStatus presented status) = none :=
  if_neg h

/-- What a call leaves of an entity that it neither deletes nor makes anew. -/
structure Left (r : Reference) (call : StoreCall) (e e' : Entity) : Prop where
  status : e'.status = e.status.mergeAll (patch? r call).toList
  rest : (∀ presented spec, call ≠ .updateSpec presented spec) →
    e'.metadata = e.metadata ∧ e'.spec = e.spec

theorem left_refl {r : Reference} {call : StoreCall} {e : Entity} (h : patch? r call = none) :
    Left r call e e := by
  constructor
  · rw [h]
    rfl
  · exact fun _ => ⟨rfl, rfl⟩

section Call

variable {m : MemoryStore} {r : Reference} {e : Entity}

theorem reference_eq_of_uuid_eq (he : m.lookup r = .ok e) {r' : Reference} {e' : Entity}
    (he' : m.lookup r' = .ok e') (huuid : r.uuid = r'.uuid) : r = r' ∧ e = e' := by
  obtain ⟨hget, hkind⟩ := lookup_eq_ok_iff.mp he
  obtain ⟨hget', hkind'⟩ := lookup_eq_ok_iff.mp he'
  rw [← huuid, hget, Option.some.injEq] at hget'
  subst hget'
  rcases r with ⟨uuid, kind⟩
  rcases r' with ⟨uuid', kind'⟩
  exact ⟨congr (congrArg Reference.mk huuid) (hkind.symm.trans hkind'), rfl⟩

theorem lookup_insert_self (he : m.lookup r = .ok e) {e' : Entity}
    (hkind : e'.metadata.kind = e.metadata.kind) :
    lookup ⟨m.entities.insert r.uuid e'⟩ r = .ok e' :=
  lookup_eq_ok_iff.mpr
    ⟨OrderedMap.get?_insert_self _ _ _, hkind.trans (lookup_eq_ok_iff.mp he).2⟩

theorem lookup_insert_of_ne (he : m.lookup r = .ok e) {uuid : String} (h : r.uuid ≠ uuid)
    (other : Entity) : lookup ⟨m.entities.insert uuid other⟩ r = .ok e := by
  obtain ⟨hget, hkind⟩ := lookup_eq_ok_iff.mp he
  exact lookup_eq_ok_iff.mpr ⟨(OrderedMap.get?_insert_of_ne _ _ h).trans hget, hkind⟩

theorem lookup_erase_of_ne (he : m.lookup r = .ok e) {uuid : String} (h : r.uuid ≠ uuid) :
    lookup ⟨m.entities.erase uuid⟩ r = .ok e := by
  obtain ⟨hget, hkind⟩ := lookup_eq_ok_iff.mp he
  refine lookup_eq_ok_iff.mpr ⟨?_, hkind⟩
  rw [OrderedMap.get?_erase, if_neg h]
  exact hget

theorem left_of_answer (he : m.lookup r = .ok e) {stamp : Stamp} {call : StoreCall}
    (hdelete : call ≠ .delete r) (hmade : made? (stamp, call) ≠ some r.uuid) :
    ∃ e', (m.answer stamp call).2.lookup r = .ok e' ∧ Left r call e e' := by
  cases call with
  | create kind spec extension =>
      have hne : r.uuid ≠ stamp.uuid := fun h => hmade (congrArg some h.symm)
      exact ⟨e, lookup_insert_of_ne he hne _, left_refl rfl⟩
  | get r' => exact ⟨e, he, left_refl rfl⟩
  | updateSpec presented spec =>
      rcases answer_updateSpec_cases stamp m presented spec with ⟨f, ha⟩ | ⟨old, hold, -, ha⟩
      · exact ⟨e, by rw [ha]; exact he, left_refl rfl⟩
      · rw [ha]
        by_cases huuid : r.uuid = presented.uuid
        · obtain ⟨rfl, rfl⟩ := reference_eq_of_uuid_eq he hold huuid
          exact ⟨withSpec e spec, lookup_insert_self he rfl, rfl, fun h => absurd rfl (h _ _)⟩
        · exact ⟨e, lookup_insert_of_ne he huuid _, left_refl rfl⟩
  | updateStatus presented status =>
      rcases answer_updateStatus_cases stamp m presented status with ⟨f, ha⟩ | ⟨old, hold, ha⟩
      · have hne : presented.reference ≠ r := by
          rintro rfl
          rw [answer, he] at ha
          cases ha
        exact ⟨e, by rw [ha]; exact he, left_refl (patch?_updateStatus_of_ne hne status)⟩
      · rw [ha]
        by_cases huuid : r.uuid = presented.uuid
        · obtain ⟨rfl, rfl⟩ := reference_eq_of_uuid_eq he hold huuid
          refine ⟨withStatus e status, lookup_insert_self he rfl, ?_, fun _ => ⟨rfl, rfl⟩⟩
          rw [patch?_updateStatus rfl]
          rfl
        · have hne : presented.reference ≠ r := fun h => huuid (congrArg Reference.uuid h.symm)
          exact ⟨e, lookup_insert_of_ne he huuid _,
            left_refl (patch?_updateStatus_of_ne hne status)⟩
  | delete r' =>
      rcases answer_delete_cases stamp m r' with ⟨f, ha⟩ | ⟨old, hold, ha⟩
      · exact ⟨e, by rw [ha]; exact he, left_refl rfl⟩
      · rw [ha]
        have hne : r.uuid ≠ r'.uuid := by
          intro huuid
          obtain ⟨rfl, -⟩ := reference_eq_of_uuid_eq he hold huuid
          exact hdelete rfl
        exact ⟨e, lookup_erase_of_ne he hne, left_refl rfl⟩

end Call

/-! Runs of calls, each made by one of any number of clients. -/

structure Turn where
  client : Nat
  stamp : Stamp
  call : StoreCall

namespace Turn

def step (t : Turn) : Stamp × StoreCall :=
  (t.stamp, t.call)

/-- The turn neither deletes an entity nor makes another one under its UUID. -/
structure Spares (r : Reference) (t : Turn) : Prop where
  delete : t.call ≠ .delete r
  made : made? t.step ≠ some r.uuid

end Turn

/-- The patches that are made of an entity, oldest first. -/
def patches (r : Reference) (turns : List Turn) : List Document :=
  turns.filterMap fun t => patch? r t.call

theorem patches_cons (r : Reference) (t : Turn) (turns : List Turn) :
    patches r (t :: turns) = (patch? r t.call).toList ++ patches r turns := by
  cases h : patch? r t.call <;> simp [patches, h]

theorem lookup_play {r : Reference} {turns : List Turn} (hspared : ∀ t ∈ turns, t.Spares r)
    {m : MemoryStore} {e : Entity} (he : m.lookup r = .ok e) :
    ∃ e', (m.play (turns.map Turn.step)).lookup r = .ok e' ∧
      e'.status = e.status.mergeAll (patches r turns) ∧
      ((∀ t ∈ turns, ∀ presented spec, t.call ≠ .updateSpec presented spec) →
        e'.metadata = e.metadata ∧ e'.spec = e.spec) := by
  induction turns generalizing m e with
  | nil => exact ⟨e, he, rfl, fun _ => ⟨rfl, rfl⟩⟩
  | cons t turns ih =>
      have ht := hspared t List.mem_cons_self
      obtain ⟨e₁, he₁, hleft⟩ := left_of_answer he ht.delete ht.made
      obtain ⟨e₂, he₂, hstatus, hrest⟩ :=
        ih (fun u hu => hspared u (List.mem_cons_of_mem _ hu)) he₁
      refine ⟨e₂, he₂, ?_, fun hspec => ?_⟩
      · rw [hstatus, hleft.status, patches_cons, OrderedMap.mergeAll_append]
      · obtain ⟨hmetadata₁, hspec₁⟩ := hleft.rest (hspec t List.mem_cons_self)
        obtain ⟨hmetadata₂, hspec₂⟩ := hrest fun u hu => hspec u (List.mem_cons_of_mem _ hu)
        exact ⟨hmetadata₂.trans hmetadata₁, hspec₂.trans hspec₁⟩

/-! The laws of patches. -/

/-- What a patch makes of an entity. Values are replaced as wholes, and no key loses its place. -/
structure Patched (patch : Document) (e e' : Entity) : Prop where
  metadata : e'.metadata = e.metadata
  spec : e'.spec = e.spec
  value : ∀ key, e'.status.get? key = (patch.get? key).or (e.status.get? key)
  order : e.status.keys <+: e'.status.keys

theorem patched_withStatus (e : Entity) (patch : Document) :
    Patched patch e (withStatus e patch) where
  metadata := rfl
  spec := rfl
  value := OrderedMap.get?_merge e.status patch
  order := OrderedMap.keys_prefix_merge e.status patch

/-- An entity after some turns, of which any number have patched it. -/
structure PatchedAll (r : Reference) (turns : List Turn) (e e' : Entity) : Prop where
  status : e'.status = e.status.mergeAll (patches r turns)
  value : ∀ key, e'.status.get? key =
    ((patches r turns).reverse.findSome? (·.get? key)).or (e.status.get? key)
  order : e.status.keys <+: e'.status.keys
  rest : (∀ t ∈ turns, ∀ presented spec, t.call ≠ .updateSpec presented spec) →
    e'.metadata = e.metadata ∧ e'.spec = e.spec
  /-- What only one client writes stands as if no other client had written. -/
  own : ∀ client key,
    (∀ t ∈ turns, t.client ≠ client → ∀ patch, patch? r t.call = some patch →
      patch.get? key = none) →
    e'.status.get? key =
      (e.status.mergeAll (patches r (turns.filter (·.client = client)))).get? key

theorem findSome?_own {r : Reference} {turns : List Turn} {client : Nat} {key : String}
    (h : ∀ t ∈ turns, t.client ≠ client → ∀ patch, patch? r t.call = some patch →
      patch.get? key = none) :
    (patches r (turns.filter (·.client = client))).reverse.findSome? (·.get? key) =
      (patches r turns).reverse.findSome? (·.get? key) := by
  induction turns with
  | nil => rfl
  | cons t turns ih =>
      have hrest := ih fun u hu => h u (List.mem_cons_of_mem _ hu)
      by_cases hclient : t.client = client
      · rw [List.filter_cons_of_pos (by simpa using hclient), patches_cons, patches_cons,
          List.reverse_append, List.reverse_append, List.findSome?_append, List.findSome?_append,
          hrest]
      · rw [List.filter_cons_of_neg (by simpa using hclient), patches_cons, List.reverse_append,
          List.findSome?_append, hrest]
        -- a turn of another client has nothing under the key
        cases hpatch : patch? r t.call with
        | none => simp
        | some patch => simp [h t List.mem_cons_self hclient patch hpatch]

theorem patchedAll_of_status {r : Reference} {turns : List Turn} {e e' : Entity}
    (hstatus : e'.status = e.status.mergeAll (patches r turns))
    (hrest : (∀ t ∈ turns, ∀ presented spec, t.call ≠ .updateSpec presented spec) →
      e'.metadata = e.metadata ∧ e'.spec = e.spec) : PatchedAll r turns e e' where
  status := hstatus
  value key := by rw [hstatus, OrderedMap.get?_mergeAll]
  order := by
    rw [hstatus]
    exact OrderedMap.keys_prefix_mergeAll _ _
  rest := hrest
  own client key h := by
    rw [hstatus, OrderedMap.get?_mergeAll, OrderedMap.get?_mergeAll, findSome?_own h]

/-- The laws of the patches of an entity, whatever metadata the patches present besides its
identity. Equal stores have equal entities, with the members of each status in the same order. -/
structure PatchLaws (m : MemoryStore) (r : Reference) (e : Entity) : Prop where
  patched : ∀ p, p.reference = r → ∀ s a, ∃ m' e',
    m.answer s (.updateStatus p a) = (.ok (), m') ∧ m'.lookup r = .ok e' ∧ Patched a e e' ∧
      SameElsewhere r.uuid m m'
  composed : ∀ p q, p.reference = r → q.reference = r → ∀ s t a b,
    (m.answer s (.updateStatus p a)).2.answer t (.updateStatus q b) =
      m.answer t (.updateStatus q (a.merge b))
  neutral : ∀ p, p.reference = r → ∀ s, m.answer s (.updateStatus p {}) = (.ok (), m)
  repeated : ∀ p q, p.reference = r → q.reference = r → ∀ s t a,
    (m.answer s (.updateStatus p a)).2.answer t (.updateStatus q a) =
      m.answer t (.updateStatus q a)
  commuting : ∀ p q, p.reference = r → q.reference = r → ∀ s t a b,
    (∀ key, a.get? key = none ∨ b.get? key = none) →
    ∃ e₁ e₂,
      ((m.answer s (.updateStatus p a)).2.answer t (.updateStatus q b)).2.lookup r = .ok e₁ ∧
      ((m.answer t (.updateStatus q b)).2.answer s (.updateStatus p a)).2.lookup r = .ok e₂ ∧
      e₁ = { e₂ with status := e₁.status } ∧
      ∀ key, e₁.status.get? key = e₂.status.get? key
  interleaved : ∀ turns, (∀ t ∈ turns, Turn.Spares r t) →
    ∃ e', (m.play (turns.map Turn.step)).lookup r = .ok e' ∧ PatchedAll r turns e e'

section Patch

variable {m : MemoryStore} {e : Entity}

theorem answer_updateStatus_of_lookup {p : Metadata} (he : m.lookup p.reference = .ok e)
    (s : Stamp) (patch : Document) :
    m.answer s (.updateStatus p patch) =
      (.ok (), ⟨m.entities.insert p.uuid (withStatus e patch)⟩) := by
  rw [answer, he]

theorem answer_answer_updateStatus {p q : Metadata} (he : m.lookup p.reference = .ok e)
    (hq : q.reference = p.reference) (s t : Stamp) (a b : Document) :
    (m.answer s (.updateStatus p a)).2.answer t (.updateStatus q b) =
      (.ok (), ⟨m.entities.insert q.uuid (withStatus e (a.merge b))⟩) := by
  have huuid : q.uuid = p.uuid := congrArg Reference.uuid hq
  have hpatched : lookup ⟨m.entities.insert p.uuid (withStatus e a)⟩ q.reference =
      .ok (withStatus e a) := by
    rw [hq]
    exact lookup_insert_self he rfl
  have htwice : withStatus (withStatus e a) b = withStatus e (a.merge b) := by
    simp only [withStatus, OrderedMap.merge_assoc]
  rw [answer_updateStatus_of_lookup he]
  dsimp only
  rw [answer_updateStatus_of_lookup hpatched, htwice, huuid]
  exact congrArg (fun entities => (Except.ok (), MemoryStore.mk entities))
    (OrderedMap.insert_insert _ _ _ _)

end Patch

/-- Patches of an entity act on its status like the documents that they merge. -/
theorem patchLaws_of_lookup {m : MemoryStore} {r : Reference} {e : Entity}
    (he : m.lookup r = .ok e) : PatchLaws m r e := by
  constructor
  · rintro p rfl s a
    exact ⟨_, withStatus e a, answer_updateStatus_of_lookup he s a, lookup_insert_self he rfl,
      patched_withStatus e a, sameElsewhere_insert m _ _⟩
  · rintro p q rfl hq s t a b
    rw [answer_answer_updateStatus he hq, answer_updateStatus_of_lookup (hq ▸ he)]
  · rintro p rfl s
    have hneutral : withStatus e {} = e := by
      rw [withStatus, OrderedMap.merge_empty]
    rw [answer_updateStatus_of_lookup he, hneutral]
    exact congrArg (fun entities => (Except.ok (), MemoryStore.mk entities))
      (OrderedMap.insert_of_get? (lookup_eq_ok_iff.mp he).1)
  · rintro p q rfl hq s t a
    rw [answer_answer_updateStatus he hq, answer_updateStatus_of_lookup (hq ▸ he),
      OrderedMap.merge_self]
  · rintro p q rfl hq s t a b hdisjoint
    have huuid : q.uuid = p.uuid := congrArg Reference.uuid hq
    refine ⟨withStatus e (a.merge b), withStatus e (b.merge a), ?_, ?_, rfl, fun key => ?_⟩
    · rw [answer_answer_updateStatus he hq, huuid]
      exact lookup_insert_self he rfl
    · rw [answer_answer_updateStatus (hq ▸ he) hq.symm]
      exact lookup_insert_self he rfl
    · have hcomm := OrderedMap.get?_merge_merge_of_disjoint e.status hdisjoint key
      rwa [OrderedMap.merge_assoc, OrderedMap.merge_assoc] at hcomm
  · intro turns hspared
    obtain ⟨e', he', hstatus, hrest⟩ := lookup_play hspared he
    exact ⟨e', he', patchedAll_of_status hstatus hrest⟩

/-- Two clients patch a task in turns while a third one writes its spec, one of them with the
metadata of an old version. -/
theorem patchLaws_of_lookup_contended :
    let beat : Metadata := { uuid := "a", kind := "Task", specVersion := 1 }
    let m : MemoryStore := play {} [(.epoch "a", .create "Task" {} {})]
    let turns : List Turn :=
      [⟨0, .epoch "b", .updateStatus beat (.ofList [("mode", .null), ("host", .null)])⟩,
        ⟨1, .epoch "c", .updateStatus beat (.singleton "load" .null)⟩,
        ⟨2, .epoch "d", .updateSpec beat (.singleton "mode" .null)⟩,
        ⟨0, .epoch "e", .updateStatus { beat with specVersion := 7 }
          (.singleton "host" (.bool true))⟩]
    ∃ e e', m.lookup beat.reference = .ok e ∧ PatchLaws m beat.reference e ∧
      PatchedAll beat.reference turns e e' ∧
      e'.status.entries = [("mode", .null), ("host", .bool true), ("load", .null)] ∧
      e'.status.get? "host" = (e.status.mergeAll
        (patches beat.reference (turns.filter (·.client = 0)))).get? "host" := by
  intro beat m turns
  have he : m.lookup beat.reference = .ok (newEntity (.epoch "a") "Task" {} {}) := rfl
  have hlaws := patchLaws_of_lookup he
  have hspared : ∀ t ∈ turns, Turn.Spares beat.reference t := by
    intro t ht
    simp only [turns, List.mem_cons, List.not_mem_nil, or_false] at ht
    rcases ht with rfl | rfl | rfl | rfl
    all_goals exact ⟨nofun, nofun⟩
  obtain ⟨e', he', hpatched⟩ := hlaws.interleaved turns hspared
  refine ⟨_, e', he, hlaws, hpatched, ?_, hpatched.own 0 "host" ?_⟩
  · rw [hpatched.status]
    rfl
  · intro t ht hclient patch hpatch
    simp only [turns, List.mem_cons, List.not_mem_nil, or_false] at ht
    rcases ht with rfl | rfl | rfl | rfl
    · exact absurd rfl hclient
    · cases hpatch
      rfl
    · cases hpatch
    · exact absurd rfl hclient

end IntentProvider.MemoryStore
