import Mathlib.Data.List.Nodup
import IntentProvider.Proofs.Store.Memory

/-!
Histories of a store in memory. A run lists the calls in the order in which the store performs
them, whoever issues them and whatever metadata they present. Main statement: the versions of an
entity count the writes of its spec, and name the specs that it has had, so that no write is lost.
-/

namespace IntentProvider.MemoryStore

open IntentProvider.Json

structure Event where
  before : MemoryStore
  stamp : Stamp
  call : StoreCall

structure SpecWrite where
  presented : UInt64
  spec : Document

def play (m : MemoryStore) : List (Stamp × StoreCall) → MemoryStore
  | [] => m
  | (stamp, call) :: rest => play (m.answer stamp call).2 rest

def history (m : MemoryStore) : List (Stamp × StoreCall) → List Event
  | [] => []
  | (stamp, call) :: rest => ⟨m, stamp, call⟩ :: history (m.answer stamp call).2 rest

def made? : Stamp × StoreCall → Option String
  | (stamp, .create ..) => some stamp.uuid
  | _ => none

namespace Event

def after (e : Event) : MemoryStore :=
  (e.before.answer e.stamp e.call).2

/-- The entity that an event shows to the client. -/
def shown? : Event → Option Entity
  | ⟨m, stamp, .create kind spec extension⟩ =>
      (m.answer stamp (.create kind spec extension)).1.toOption
  | ⟨m, stamp, .get r⟩ => (m.answer stamp (.get r)).1.toOption
  | _ => none

/-- The write of the spec of an entity that an event is, unless the store has refused it. -/
def write? (uuid : String) : Event → Option SpecWrite
  | ⟨m, stamp, .updateSpec presented spec⟩ =>
      if presented.uuid = uuid ∧ (m.answer stamp (.updateSpec presented spec)).1.isOk then
        some ⟨presented.specVersion, spec⟩
      else none
  | _ => none

/-- The spec that an event gives to an entity, be it the first one or another. -/
def given? (uuid : String) (e : Event) : Option Document :=
  match e.call with
  | .create _ spec _ => if e.stamp.uuid = uuid then some spec else none
  | _ => (e.write? uuid).map (·.spec)

end Event

def writes (uuid : String) (log : List Event) : List SpecWrite :=
  log.filterMap (·.write? uuid)

/-- The specs that an entity has had, the first one included, oldest first. -/
def specs (uuid : String) (log : List Event) : List Document :=
  log.filterMap (·.given? uuid)

theorem play_append (m : MemoryStore) (first second : List (Stamp × StoreCall)) :
    m.play (first ++ second) = (m.play first).play second := by
  induction first generalizing m with
  | nil => rfl
  | cons step rest ih => exact ih _

theorem history_append (m : MemoryStore) (first second : List (Stamp × StoreCall)) :
    m.history (first ++ second) = m.history first ++ (m.play first).history second := by
  induction first generalizing m with
  | nil => rfl
  | cons step rest ih =>
      simp only [List.cons_append, history, play, ih]

theorem keyed_play {m : MemoryStore} (hm : m.Keyed) (steps : List (Stamp × StoreCall)) :
    (m.play steps).Keyed := by
  induction steps generalizing m with
  | nil => exact hm
  | cons step rest ih => exact ih (keyed_answer hm step.1 step.2)

theorem exists_split_of_mem_history {m : MemoryStore} {steps : List (Stamp × StoreCall)}
    {e : Event} (he : e ∈ m.history steps) :
    ∃ first second, steps = first ++ (e.stamp, e.call) :: second ∧ e.before = m.play first := by
  induction steps generalizing m with
  | nil => cases he
  | cons step rest ih =>
      rcases List.mem_cons.mp he with rfl | he
      · exact ⟨[], rest, rfl, rfl⟩
      · obtain ⟨first, second, hsteps, hbefore⟩ := ih he
        exact ⟨step :: first, second, by rw [hsteps]; rfl, hbefore⟩

/-- Metadata that agree in all but the version. -/
def SameOrigin (a b : Metadata) : Prop :=
  a = { b with specVersion := a.specVersion }

theorem SameOrigin.refl (a : Metadata) : SameOrigin a a := rfl

theorem SameOrigin.reference_eq {a b : Metadata} (h : SameOrigin a b) :
    a.reference = b.reference := by
  rw [h]
  rfl

/-- What stands under a UUID after a call has been made by it, or has stood there before with the
same metadata but for the version. -/
theorem origin_of_get?_answer {m : MemoryStore} {stamp : Stamp} {call : StoreCall} {uuid : String}
    {e : Entity} (h : (m.answer stamp call).2.entities.get? uuid = some e) :
    (∃ kind spec extension, call = .create kind spec extension ∧ stamp.uuid = uuid ∧
        e = newEntity stamp kind spec extension) ∨
      ∃ old, m.entities.get? uuid = some old ∧ SameOrigin e.metadata old.metadata := by
  cases call with
  | create kind spec extension =>
      change (m.entities.insert stamp.uuid _).get? uuid = some e at h
      rw [OrderedMap.get?_insert] at h
      split at h
      · rename_i hu
        cases h
        exact .inl ⟨kind, spec, extension, rfl, hu.symm, rfl⟩
      · exact .inr ⟨e, h, .refl _⟩
  | get r => exact .inr ⟨e, h, .refl _⟩
  | updateSpec presented spec =>
      rcases answer_updateSpec_cases stamp m presented spec with ⟨f, ha⟩ | ⟨old, hl, -, ha⟩
      · rw [ha] at h
        exact .inr ⟨e, h, .refl _⟩
      · rw [ha, OrderedMap.get?_insert] at h
        split at h
        · rename_i hu
          cases h
          exact .inr ⟨old, hu ▸ (lookup_eq_ok_iff.mp hl).1, rfl⟩
        · exact .inr ⟨e, h, .refl _⟩
  | updateStatus presented status =>
      rcases answer_updateStatus_cases stamp m presented status with ⟨f, ha⟩ | ⟨old, hl, ha⟩
      · rw [ha] at h
        exact .inr ⟨e, h, .refl _⟩
      · rw [ha, OrderedMap.get?_insert] at h
        split at h
        · rename_i hu
          cases h
          exact .inr ⟨old, hu ▸ (lookup_eq_ok_iff.mp hl).1, rfl⟩
        · exact .inr ⟨e, h, .refl _⟩
  | delete r =>
      rcases answer_delete_cases stamp m r with ⟨f, ha⟩ | ⟨old, hl, ha⟩
      · rw [ha] at h
        exact .inr ⟨e, h, .refl _⟩
      · rw [ha, OrderedMap.get?_erase] at h
        split at h
        · cases h
        · exact .inr ⟨e, h, .refl _⟩

theorem exists_of_get?_answer {m : MemoryStore} {stamp : Stamp} {call : StoreCall} {uuid : String}
    {e : Entity} (h : (m.answer stamp call).2.entities.get? uuid = some e) :
    made? (stamp, call) = some uuid ∨
      ∃ old, m.entities.get? uuid = some old ∧ e.reference = old.reference := by
  rcases origin_of_get?_answer h with ⟨kind, spec, extension, rfl, hu, -⟩ | ⟨old, hold, hsame⟩
  · exact .inl (congrArg some hu)
  · exact .inr ⟨old, hold, hsame.reference_eq⟩

/-! What an event means for the entity under a UUID: it is made, or its spec is written, or its
spec and its version stay as they are. -/

structure Makes (uuid : String) (e : Event) (spec : Document) : Prop where
  made : made? (e.stamp, e.call) = some uuid
  write? : e.write? uuid = none
  given? : e.given? uuid = some spec
  after : ∃ new, e.after.entities.get? uuid = some new ∧ new.spec = spec ∧
    new.metadata.specVersion = 1

structure Writes (uuid : String) (e : Event) (w : SpecWrite) : Prop where
  write? : e.write? uuid = some w
  given? : e.given? uuid = some w.spec
  before : ∃ old, e.before.entities.get? uuid = some old ∧
    old.metadata.specVersion = w.presented
  after : ∃ new, e.after.entities.get? uuid = some new ∧ new.spec = w.spec ∧
    new.metadata.specVersion = w.presented + 1

/-- The event leaves the spec and the version of the entity alone, if it leaves the entity. -/
structure Spares (uuid : String) (e : Event) : Prop where
  write? : e.write? uuid = none
  given? : e.given? uuid = none
  after : ∀ new, e.after.entities.get? uuid = some new →
    ∃ old, e.before.entities.get? uuid = some old ∧ new.spec = old.spec ∧
      new.metadata.specVersion = old.metadata.specVersion

theorem spares_of_after_eq {uuid : String} {e : Event} (hwrite : e.write? uuid = none)
    (hgiven : e.given? uuid = none)
    (hafter : e.after.entities.get? uuid = e.before.entities.get? uuid) : Spares uuid e := by
  refine ⟨hwrite, hgiven, ?_⟩
  intro new hnew
  exact ⟨new, hafter ▸ hnew, rfl, rfl⟩

theorem create_cases (uuid : String) (m : MemoryStore) (stamp : Stamp) (kind : String)
    (spec extension : Document) :
    Makes uuid ⟨m, stamp, .create kind spec extension⟩ spec ∨
      Spares uuid ⟨m, stamp, .create kind spec extension⟩ := by
  by_cases hu : stamp.uuid = uuid
  · subst hu
    exact .inl ⟨rfl, rfl, if_pos rfl, _, OrderedMap.get?_insert_self _ _ _, rfl, rfl⟩
  · refine .inr (spares_of_after_eq rfl (if_neg hu) ?_)
    exact OrderedMap.get?_insert_of_ne _ _ (Ne.symm hu)

theorem updateSpec_cases (uuid : String) (m : MemoryStore) (stamp : Stamp)
    (presented : Metadata) (spec : Document) :
    (∃ w, Writes uuid ⟨m, stamp, .updateSpec presented spec⟩ w) ∨
      Spares uuid ⟨m, stamp, .updateSpec presented spec⟩ := by
  rcases answer_updateSpec_cases stamp m presented spec with ⟨f, h⟩ | ⟨e, hl, hv, h⟩
  · refine .inr (spares_of_after_eq ?_ ?_ ?_)
    · simp [Event.write?, h, Except.isOk, Except.toBool]
    · simp [Event.given?, Event.write?, h, Except.isOk, Except.toBool]
    · rw [Event.after, h]
  · have hfound : m.entities.get? presented.uuid = some e := (lookup_eq_ok_iff.mp hl).1
    by_cases hu : presented.uuid = uuid
    · subst hu
      refine .inl ⟨⟨presented.specVersion, spec⟩, ?_, ?_, ⟨e, hfound, hv⟩, ?_⟩
      · simp [Event.write?, h, Except.isOk, Except.toBool]
      · simp [Event.given?, Event.write?, h, Except.isOk, Except.toBool]
      · refine ⟨withSpec e spec, ?_, rfl, ?_⟩
        · rw [Event.after, h]
          exact OrderedMap.get?_insert_self _ _ _
        · rw [← hv]
          rfl
    · refine .inr (spares_of_after_eq ?_ ?_ ?_)
      · simp [Event.write?, hu]
      · simp [Event.given?, Event.write?, hu]
      · rw [Event.after, h]
        exact OrderedMap.get?_insert_of_ne _ _ (Ne.symm hu)

theorem spares_updateStatus (uuid : String) (m : MemoryStore) (stamp : Stamp)
    (presented : Metadata) (status : Document) :
    Spares uuid ⟨m, stamp, .updateStatus presented status⟩ := by
  rcases answer_updateStatus_cases stamp m presented status with ⟨f, h⟩ | ⟨e, hl, h⟩
  · refine spares_of_after_eq rfl rfl ?_
    rw [Event.after, h]
  · have hfound : m.entities.get? presented.uuid = some e := (lookup_eq_ok_iff.mp hl).1
    refine ⟨rfl, rfl, ?_⟩
    intro new hnew
    rw [Event.after, h] at hnew
    change (m.entities.insert presented.uuid (withStatus e status)).get? uuid = some new at hnew
    rw [OrderedMap.get?_insert] at hnew
    split at hnew
    · rename_i hu
      cases hnew
      exact ⟨e, hu ▸ hfound, rfl, rfl⟩
    · exact ⟨new, hnew, rfl, rfl⟩

theorem spares_delete (uuid : String) (m : MemoryStore) (stamp : Stamp) (r : Reference) :
    Spares uuid ⟨m, stamp, .delete r⟩ := by
  rcases answer_delete_cases stamp m r with ⟨f, h⟩ | ⟨e, hl, h⟩
  · refine spares_of_after_eq rfl rfl ?_
    rw [Event.after, h]
  · refine ⟨rfl, rfl, ?_⟩
    intro new hnew
    rw [Event.after, h] at hnew
    change (m.entities.erase r.uuid).get? uuid = some new at hnew
    rw [OrderedMap.get?_erase] at hnew
    split at hnew
    · cases hnew
    · exact ⟨new, hnew, rfl, rfl⟩

theorem event_cases (uuid : String) (e : Event) :
    (∃ spec, Makes uuid e spec) ∨ (∃ w, Writes uuid e w) ∨ Spares uuid e := by
  rcases e with ⟨m, stamp, call⟩
  cases call with
  | create kind spec extension =>
      rcases create_cases uuid m stamp kind spec extension with h | h
      · exact .inl ⟨spec, h⟩
      · exact .inr (.inr h)
  | get r => exact .inr (.inr (spares_of_after_eq rfl rfl rfl))
  | updateSpec presented spec => exact .inr (updateSpec_cases uuid m stamp presented spec)
  | updateStatus presented status =>
      exact .inr (.inr (spares_updateStatus uuid m stamp presented status))
  | delete r => exact .inr (.inr (spares_delete uuid m stamp r))

theorem history_snoc (m : MemoryStore) (steps : List (Stamp × StoreCall))
    (step : Stamp × StoreCall) :
    m.history (steps ++ [step]) = m.history steps ++ [⟨m.play steps, step.1, step.2⟩] := by
  rw [history_append]
  rfl

theorem play_snoc (m : MemoryStore) (steps : List (Stamp × StoreCall))
    (step : Stamp × StoreCall) :
    m.play (steps ++ [step]) = Event.after ⟨m.play steps, step.1, step.2⟩ := by
  rw [play_append]
  rfl

theorem writes_snoc (uuid : String) (log : List Event) (e : Event) :
    writes uuid (log ++ [e]) = writes uuid log ++ (e.write? uuid).toList := by
  rw [writes, List.filterMap_append]
  cases h : e.write? uuid <;> simp [writes, h]

theorem specs_snoc (uuid : String) (log : List Event) (e : Event) :
    specs uuid (log ++ [e]) = specs uuid log ++ (e.given? uuid).toList := by
  rw [specs, List.filterMap_append]
  cases h : e.given? uuid <;> simp [specs, h]

/-- What the history of a run says about the entity under a UUID: its version counts the specs
that it has had, it has the last one of these, and every write has presented the version of the
spec before it. -/
structure Recorded (uuid : String) (steps : List (Stamp × StoreCall)) : Prop where
  stored : ∀ e, (play {} steps).entities.get? uuid = some e →
    e.metadata.specVersion.toNat = (specs uuid (history {} steps)).length ∧
    (specs uuid (history {} steps)).getLast? = some e.spec
  presented : (writes uuid (history {} steps)).map (·.presented.toNat) =
    List.range' 1 (writes uuid (history {} steps)).length
  written : (writes uuid (history {} steps)).map (·.spec) =
    (specs uuid (history {} steps)).tail
  made : specs uuid (history {} steps) ≠ [] → uuid ∈ steps.filterMap made?

theorem recorded_nil (uuid : String) : Recorded uuid [] := by
  refine ⟨?_, rfl, rfl, fun h => absurd rfl h⟩
  intro e he
  cases he

section Step

variable {uuid : String} {steps : List (Stamp × StoreCall)} {step : Stamp × StoreCall}

theorem Recorded.snoc_of_makes (h : Recorded uuid steps) {spec : Document}
    (hfresh : uuid ∉ steps.filterMap made?)
    (he : Makes uuid ⟨play {} steps, step.1, step.2⟩ spec) : Recorded uuid (steps ++ [step]) := by
  -- an entity with this UUID has not been made before, and so has not had a spec
  have hspecs : specs uuid (history {} steps) = [] := by
    apply Classical.byContradiction
    intro hne
    exact hfresh (h.made hne)
  have hwrites : writes uuid (history {} steps) = [] := by
    have hmap := h.written
    rw [hspecs] at hmap
    exact List.map_eq_nil_iff.mp hmap
  obtain ⟨new, hnew, hspec, hversion⟩ := he.after
  constructor
  · intro found hfound
    rw [play_snoc, hnew] at hfound
    cases hfound
    rw [history_snoc, specs_snoc, hspecs, he.given?, hversion, ← hspec]
    exact ⟨rfl, rfl⟩
  · rw [history_snoc, writes_snoc, hwrites, he.write?]
    rfl
  · rw [history_snoc, writes_snoc, specs_snoc, hwrites, hspecs, he.write?, he.given?]
    rfl
  · intro _
    rw [List.filterMap_append, List.mem_append]
    right
    exact List.mem_filterMap.mpr ⟨step, List.mem_singleton_self step, he.made⟩

theorem Recorded.snoc_of_writes (h : Recorded uuid steps) {w : SpecWrite}
    (hbound : (writes uuid (history {} (steps ++ [step]))).length + 1 < UInt64.size)
    (he : Writes uuid ⟨play {} steps, step.1, step.2⟩ w) : Recorded uuid (steps ++ [step]) := by
  obtain ⟨old, hold, hpresented⟩ := he.before
  obtain ⟨new, hnew, hspec, hversion⟩ := he.after
  obtain ⟨hcount, hlast⟩ := h.stored old hold
  have hne : specs uuid (history {} steps) ≠ [] := by
    intro hnil
    rw [hnil] at hlast
    cases hlast
  have hlength : (writes uuid (history {} steps)).length + 1 =
      (specs uuid (history {} steps)).length := by
    have hmap := congrArg List.length h.written
    rw [List.length_map, List.length_tail] at hmap
    have hpos := List.length_pos_iff.mpr hne
    omega
  have hw : w.presented.toNat = 1 + (writes uuid (history {} steps)).length := by
    rw [← hpresented, hcount, ← hlength, Nat.add_comm]
  rw [history_snoc, writes_snoc, he.write?] at hbound
  constructor
  · intro found hfound
    rw [play_snoc, hnew] at hfound
    cases hfound
    rw [history_snoc, specs_snoc, he.given?, hversion, hspec]
    refine ⟨?_, by simp⟩
    have hnowrap : w.presented.toNat + 1 < UInt64.size := by
      simp only [Option.toList_some, List.length_append, List.length_singleton] at hbound
      omega
    rw [UInt64.toNat_add, UInt64.toNat_one, Nat.mod_eq_of_lt hnowrap]
    simp only [Option.toList_some, List.length_append, List.length_singleton]
    omega
  · rw [history_snoc, writes_snoc, he.write?]
    simp only [Option.toList_some, List.map_append, List.map_cons, List.map_nil,
      List.length_append, List.length_singleton, List.range'_concat, h.presented, hw]
    simp
  · rw [history_snoc, writes_snoc, specs_snoc, he.write?, he.given?, List.map_append, h.written,
      Option.toList_some, List.tail_append_of_ne_nil hne]
    rfl
  · intro _
    rw [List.filterMap_append, List.mem_append]
    exact .inl (h.made hne)

theorem Recorded.snoc_of_spares (h : Recorded uuid steps)
    (he : Spares uuid ⟨play {} steps, step.1, step.2⟩) : Recorded uuid (steps ++ [step]) := by
  have hspecs : specs uuid (history {} (steps ++ [step])) = specs uuid (history {} steps) := by
    rw [history_snoc, specs_snoc, he.given?]
    exact List.append_nil _
  have hwrites : writes uuid (history {} (steps ++ [step])) = writes uuid (history {} steps) := by
    rw [history_snoc, writes_snoc, he.write?]
    exact List.append_nil _
  constructor
  · intro found hfound
    rw [play_snoc] at hfound
    obtain ⟨old, hold, hspec, hversion⟩ := he.after found hfound
    rw [hspecs, hspec, hversion]
    exact h.stored old hold
  · rw [hwrites]
    exact h.presented
  · rw [hwrites, hspecs]
    exact h.written
  · intro hne
    rw [hspecs] at hne
    rw [List.filterMap_append, List.mem_append]
    exact .inl (h.made hne)

end Step

theorem writes_isPrefix (uuid : String) (m : MemoryStore) (first second : List (Stamp × StoreCall)) :
    writes uuid (m.history first) <+: writes uuid (m.history (first ++ second)) := by
  rw [history_append, writes, writes, List.filterMap_append]
  exact List.prefix_append _ _

theorem specs_isPrefix (uuid : String) (m : MemoryStore) (first second : List (Stamp × StoreCall)) :
    specs uuid (m.history first) <+: specs uuid (m.history (first ++ second)) := by
  rw [history_append, specs, specs, List.filterMap_append]
  exact List.prefix_append _ _

theorem Recorded.snoc {uuid : String} {steps : List (Stamp × StoreCall)} (h : Recorded uuid steps)
    (step : Stamp × StoreCall) (hfresh : ((steps ++ [step]).filterMap made?).Nodup)
    (hbound : (writes uuid (history {} (steps ++ [step]))).length + 1 < UInt64.size) :
    Recorded uuid (steps ++ [step]) := by
  rcases event_cases uuid ⟨play {} steps, step.1, step.2⟩ with ⟨spec, he⟩ | ⟨w, he⟩ | he
  · apply h.snoc_of_makes _ he
    intro hmem
    have hmade : [step].filterMap made? = [uuid] := by
      have hstep : made? step = some uuid := he.made
      simp [hstep]
    rw [List.filterMap_append, hmade] at hfresh
    exact (List.nodup_append.mp hfresh).2.2 uuid hmem uuid (List.mem_singleton_self uuid) rfl
  · exact h.snoc_of_writes hbound he
  · exact h.snoc_of_spares he

theorem Recorded.append {uuid : String} {first : List (Stamp × StoreCall)}
    (h : Recorded uuid first) (second : List (Stamp × StoreCall))
    (hfresh : ((first ++ second).filterMap made?).Nodup)
    (hbound : (writes uuid (history {} (first ++ second))).length + 1 < UInt64.size) :
    Recorded uuid (first ++ second) := by
  induction second generalizing first with
  | nil =>
      rw [List.append_nil]
      exact h
  | cons step rest ih =>
      have hassoc : first ++ step :: rest = (first ++ [step]) ++ rest := by simp
      rw [hassoc] at hfresh hbound ⊢
      have hprefix := (writes_isPrefix uuid {} (first ++ [step]) rest).length_le
      have hnodup : ((first ++ [step]).filterMap made?).Nodup := by
        rw [List.filterMap_append] at hfresh
        exact (List.nodup_append.mp hfresh).1
      exact ih (h.snoc step hnodup (by omega)) hfresh hbound

/-- An entity that the store has at some time has the spec of its version for all time. -/
theorem Recorded.specs_getElem? {uuid : String} {first : List (Stamp × StoreCall)}
    (h : Recorded uuid first) (second : List (Stamp × StoreCall)) {e : Entity}
    (he : (play {} first).entities.get? uuid = some e) :
    (specs uuid (history {} (first ++ second)))[e.metadata.specVersion.toNat - 1]? =
      some e.spec := by
  obtain ⟨hcount, hlast⟩ := h.stored e he
  obtain ⟨more, hmore⟩ := specs_isPrefix uuid {} first second
  rw [List.getLast?_eq_getElem?] at hlast
  obtain ⟨hlt, -⟩ := List.getElem?_eq_some_iff.mp hlast
  rw [hcount, ← hmore, List.getElem?_append_left hlt]
  exact hlast

theorem stored_of_shown {event : Event} (hkeyed : event.before.Keyed) {e : Entity}
    (he : event.shown? = some e) : event.after.entities.get? e.metadata.uuid = some e := by
  rcases event with ⟨m, stamp, call⟩
  cases call with
  | create kind spec extension =>
      cases he
      exact OrderedMap.get?_insert_self _ _ _
  | get r =>
      have hlookup : m.lookup r = .ok e := by
        change (m.lookup r).toOption = some e at he
        cases hl : m.lookup r with
        | error f =>
            rw [hl] at he
            cases he
        | ok found =>
            rw [hl] at he
            cases he
            rfl
      have hfound := (lookup_eq_ok_iff.mp hlookup).1
      change m.entities.get? e.metadata.uuid = some e
      rw [hkeyed r.uuid e hfound]
      exact hfound
  | updateSpec presented spec => cases he
  | updateStatus presented status => cases he
  | delete r => cases he

section Run

variable {uuid : String} {steps : List (Stamp × StoreCall)}

theorem recorded_of_mem_history (hfresh : (steps.filterMap made?).Nodup)
    (hbound : (writes uuid (history {} steps)).length + 1 < UInt64.size) {event : Event}
    (he : event ∈ history {} steps) :
    ∃ first second, steps = first ++ (event.stamp, event.call) :: second ∧
      event.before = play {} first ∧ Recorded uuid first ∧
      Recorded uuid (first ++ [(event.stamp, event.call)]) := by
  obtain ⟨first, second, hsteps, hbefore⟩ := exists_split_of_mem_history he
  have hassoc : steps = (first ++ [(event.stamp, event.call)]) ++ second := by
    rw [hsteps, List.append_assoc]
    rfl
  have hnodup : ((first ++ [(event.stamp, event.call)]).filterMap made?).Nodup := by
    rw [hassoc, List.filterMap_append] at hfresh
    exact (List.nodup_append.mp hfresh).1
  have hnodup' : (first.filterMap made?).Nodup := by
    rw [List.filterMap_append] at hnodup
    exact (List.nodup_append.mp hnodup).1
  have hlength := (writes_isPrefix uuid {} first [(event.stamp, event.call)]).length_le
  have hlength' :=
    (writes_isPrefix uuid {} (first ++ [(event.stamp, event.call)]) second).length_le
  rw [← hassoc] at hlength'
  have hrecorded : Recorded uuid first := (recorded_nil uuid).append first hnodup' (by
    rw [List.nil_append]
    omega)
  refine ⟨first, second, hsteps, hbefore, hrecorded, ?_⟩
  exact hrecorded.snoc _ hnodup (by omega)

theorem specs_getElem?_of_shown (hfresh : (steps.filterMap made?).Nodup)
    (hbound : ∀ uuid, (writes uuid (history {} steps)).length + 1 < UInt64.size) {event : Event}
    (hevent : event ∈ history {} steps) {e : Entity} (he : event.shown? = some e) :
    (specs e.metadata.uuid (history {} steps))[e.metadata.specVersion.toNat - 1]? =
      some e.spec := by
  obtain ⟨first, second, hsteps, hbefore, -, hrecorded⟩ :=
    recorded_of_mem_history hfresh (hbound e.metadata.uuid) hevent
  have hkeyed : event.before.Keyed := by
    rw [hbefore]
    exact keyed_play keyed_empty first
  have hafter : event.after = play {} (first ++ [(event.stamp, event.call)]) := by
    rw [play_snoc, ← hbefore]
  have hstored := stored_of_shown hkeyed he
  rw [hafter] at hstored
  have hget := hrecorded.specs_getElem? second hstored
  rwa [List.append_assoc, List.singleton_append, ← hsteps] at hget

theorem exists_overwritten (hfresh : (steps.filterMap made?).Nodup)
    (hbound : (writes uuid (history {} steps)).length + 1 < UInt64.size) {event : Event}
    (hevent : event ∈ history {} steps) {w : SpecWrite} (hw : event.write? uuid = some w) :
    ∃ old, event.before.entities.get? uuid = some old ∧
      old.metadata.specVersion = w.presented ∧
      (specs uuid (history {} steps))[w.presented.toNat - 1]? = some old.spec := by
  obtain ⟨first, second, hsteps, hbefore, hrecorded, -⟩ :=
    recorded_of_mem_history hfresh hbound hevent
  rcases event_cases uuid event with ⟨spec, he⟩ | ⟨w', he⟩ | he
  · rw [he.write?] at hw
    cases hw
  · rw [he.write?] at hw
    cases hw
    obtain ⟨old, hold, hpresented⟩ := he.before
    have hget := hrecorded.specs_getElem? ((event.stamp, event.call) :: second)
      (hbefore ▸ hold)
    rw [← hsteps, hpresented] at hget
    exact ⟨old, hold, hpresented, hget⟩
  · rw [he.write?] at hw
    cases hw

theorem Recorded.nodup_presented (h : Recorded uuid steps) :
    ((writes uuid (history {} steps)).map (·.presented)).Nodup := by
  apply List.Nodup.of_map UInt64.toNat
  rw [List.map_map]
  change ((writes uuid (history {} steps)).map (·.presented.toNat)).Nodup
  rw [h.presented]
  exact List.nodup_range'

theorem Recorded.version_eq (h : Recorded uuid steps) {e : Entity}
    (he : (play {} steps).entities.get? uuid = some e) :
    e.metadata.specVersion.toNat = 1 + (writes uuid (history {} steps)).length := by
  obtain ⟨hcount, hlast⟩ := h.stored e he
  have hmap := congrArg List.length h.written
  have hpos : 0 < (specs uuid (history {} steps)).length := by
    apply List.length_pos_iff.mpr
    intro hnil
    rw [hnil] at hlast
    cases hlast
  rw [List.length_map, List.length_tail] at hmap
  omega

theorem Recorded.exists_last_write (h : Recorded uuid steps) {e : Entity}
    (he : (play {} steps).entities.get? uuid = some e) {v : Nat}
    (hv : e.metadata.specVersion.toNat = v + 1) (hpos : 0 < v) :
    ∃ w ∈ writes uuid (history {} steps), w.presented.toNat = v ∧ w.spec = e.spec := by
  have hcount := h.version_eq he
  obtain ⟨hlength, hlast⟩ := h.stored e he
  have hne : writes uuid (history {} steps) ≠ [] := by
    intro hnil
    rw [hnil, List.length_nil] at hcount
    omega
  obtain ⟨w, hw⟩ : ∃ w, (writes uuid (history {} steps)).getLast? = some w :=
    ⟨_, List.getLast?_eq_some_getLast hne⟩
  have hpresented := congrArg List.getLast? h.presented
  have hspec := congrArg List.getLast? h.written
  rw [List.getLast?_map, hw, List.getLast?_range', if_neg (by omega)] at hpresented
  rw [List.getLast?_map, hw, List.getLast?_tail, if_neg (by omega), hlast] at hspec
  refine ⟨w, List.mem_of_getLast? hw, ?_, Option.some.inj hspec⟩
  have hnat : w.presented.toNat = 1 + (writes uuid (history {} steps)).length - 1 :=
    Option.some.inj hpresented
  omega

end Run

/-- No write of a spec is lost. -/
structure Faithful (log : List Event) (m : MemoryStore) : Prop where
  /-- The version of an entity is one more than the number of the writes of its spec. -/
  version : ∀ uuid e, m.entities.get? uuid = some e →
    e.metadata.specVersion.toNat = 1 + (writes uuid log).length
  /-- No version is presented by two writes that the store accepts. -/
  distinct : ∀ uuid, ((writes uuid log).map (·.presented)).Nodup
  /-- The spec at the version after `v` comes from the only write that has presented `v`. -/
  written : ∀ uuid e v, m.entities.get? uuid = some e →
    e.metadata.specVersion.toNat = v + 1 → 0 < v →
    ∃ w ∈ writes uuid log, w.presented.toNat = v ∧ w.spec = e.spec ∧
      ∀ w' ∈ writes uuid log, w'.presented.toNat = v → w' = w
  /-- What two clients are shown at one version of an entity has one spec. -/
  agree : ∀ a ∈ log, ∀ b ∈ log, ∀ e e', a.shown? = some e → b.shown? = some e' →
    e.metadata.uuid = e'.metadata.uuid → e.metadata.specVersion = e'.metadata.specVersion →
    e.spec = e'.spec
  /-- A write that presents the version of an entity that was shown replaces the spec that was
  shown. -/
  overwritten : ∀ a ∈ log, ∀ b ∈ log, ∀ e w, a.shown? = some e →
    b.write? e.metadata.uuid = some w → w.presented = e.metadata.specVersion →
    ∃ old, b.before.entities.get? e.metadata.uuid = some old ∧ old.spec = e.spec ∧
      old.metadata.specVersion = e.metadata.specVersion

/-- A run from the empty store loses no write, as long as no UUID is drawn twice and no entity is
written so often that its version overflows. -/
theorem faithful_history (steps : List (Stamp × StoreCall))
    (hfresh : (steps.filterMap made?).Nodup)
    (hbound : ∀ uuid, (writes uuid (history {} steps)).length + 1 < UInt64.size) :
    Faithful (history {} steps) (play {} steps) := by
  have hrecorded : ∀ uuid, Recorded uuid steps := by
    intro uuid
    exact (recorded_nil uuid).append steps hfresh (hbound uuid)
  constructor
  · intro uuid e he
    exact (hrecorded uuid).version_eq he
  · intro uuid
    exact (hrecorded uuid).nodup_presented
  · intro uuid e v he hv hpos
    obtain ⟨w, hw, hpresented, hspec⟩ := (hrecorded uuid).exists_last_write he hv hpos
    refine ⟨w, hw, hpresented, hspec, ?_⟩
    intro w' hw' hpresented'
    apply List.inj_on_of_nodup_map (hrecorded uuid).nodup_presented hw' hw
    exact UInt64.toNat_inj.mp (hpresented'.trans hpresented.symm)
  · intro a ha b hb e e' hshown hshown' huuid hversion
    have hget := specs_getElem?_of_shown hfresh hbound ha hshown
    have hget' := specs_getElem?_of_shown hfresh hbound hb hshown'
    rw [huuid, hversion, hget'] at hget
    exact (Option.some.inj hget).symm
  · intro a ha b hb e w hshown hw hversion
    have hget := specs_getElem?_of_shown hfresh hbound ha hshown
    obtain ⟨old, hold, hpresented, hspec⟩ :=
      exists_overwritten hfresh (hbound e.metadata.uuid) hb hw
    rw [hversion, hget] at hspec
    exact ⟨old, hold, (Option.some.inj hspec).symm, hpresented.trans hversion⟩

/-- Two clients write the same version of an entity, and a third one merges into its status under
a kind that it does not have. -/
theorem faithful_history_race :
    let seen : Metadata := { uuid := "a", kind := "Task", specVersion := 1 }
    let steps : List (Stamp × StoreCall) :=
      [(.epoch "a", .create "Task" {} {}), (.epoch "b", .get ⟨"a", "Task"⟩),
        (.epoch "c", .updateSpec seen (.singleton "by" (.string "first"))),
        (.epoch "d", .updateSpec seen (.singleton "by" (.string "second"))),
        (.epoch "e", .updateStatus { seen with kind := "Other" } (.singleton "x" .null))]
    (steps.filterMap made?).Nodup ∧
      (∀ uuid, (writes uuid (history {} steps)).length + 1 < UInt64.size) ∧
      Faithful (history {} steps) (play {} steps) ∧
      (writes "a" (history {} steps)).map (·.presented) = [1] := by
  intro seen steps
  have hfresh : (steps.filterMap made?).Nodup := by decide
  have hbound : ∀ uuid, (writes uuid (history {} steps)).length + 1 < UInt64.size := by
    intro uuid
    have hle : (writes uuid (history {} steps)).length ≤ 5 := List.length_filterMap_le _ _
    have hsize : 5 + 1 < UInt64.size := by decide
    omega
  exact ⟨hfresh, hbound, faithful_history steps hfresh hbound, rfl⟩

end IntentProvider.MemoryStore
