import IntentProvider.Proofs.Task.Recovery

/-!
How a transition repairs what an earlier one has left half done. A start and a stop read the entity
of the task before they write it, so that it does not matter what has become of it. Main statement:
in every situation in which the entity is still there, they bring it into the mode that is asked
for, and leave all else as it is.
-/

namespace IntentProvider.MemoryStore

/-- No entity has a version above a bound. -/
def VersionsUpTo (n : Nat) (m : MemoryStore) : Prop :=
  ∀ uuid e, m.entities.get? uuid = some e → e.metadata.specVersion.toNat ≤ n

theorem versionsUpTo_empty : VersionsUpTo 0 {} := by
  intro uuid e h
  cases h

theorem VersionsUpTo.answer {n : Nat} {m : MemoryStore} (h : VersionsUpTo n m) (stamp : Stamp)
    (call : StoreCall) : VersionsUpTo (n + 1) (m.answer stamp call).2 := by
  intro uuid e he
  rcases event_cases uuid ⟨m, stamp, call⟩ with ⟨spec, hmakes⟩ | ⟨w, hwrites⟩ | hspares
  · obtain ⟨new, hnew, -, hversion⟩ := hmakes.after
    cases he.symm.trans hnew
    rw [hversion]
    exact Nat.le_add_left 1 n
  · obtain ⟨old, hold, hpresented⟩ := hwrites.before
    obtain ⟨new, hnew, -, hversion⟩ := hwrites.after
    cases he.symm.trans hnew
    have hle : w.presented.toNat ≤ n := hpresented ▸ h uuid old hold
    rw [hversion, UInt64.toNat_add]
    exact Nat.le_trans (Nat.mod_le _ _) (Nat.add_le_add_right hle 1)
  · obtain ⟨old, hold, -, hversion⟩ := hspares.after e he
    rw [hversion]
    exact Nat.le_succ_of_le (h uuid old hold)

theorem VersionsUpTo.play {n : Nat} {m : MemoryStore} (h : VersionsUpTo n m)
    (steps : List (Stamp × StoreCall)) : VersionsUpTo (n + steps.length) (m.play steps) := by
  induction steps generalizing n m with
  | nil => exact h
  | cons step rest ih =>
      have hrest := ih (h.answer step.1 step.2)
      rwa [Nat.add_assoc, Nat.add_comm 1] at hrest

end IntentProvider.MemoryStore

namespace IntentProvider.Task

open IntentProvider.Json
open IntentProvider.MemoryStore

namespace Situation

/-- A happening brings at most one call to the store. -/
theorem exists_play_step (c : Situation) (x : Happening) :
    ∃ steps, steps.length ≤ 1 ∧ (c.step x).store = c.store.play steps := by
  have hmoves := moves_step c x
  generalize c.step x = d at hmoves ⊢
  cases hmoves with
  | begun o hcurrent => exact ⟨[], Nat.zero_le 1, settle_store c _⟩
  | answered stamp call next hcurrent =>
      exact ⟨[(stamp, call)], Nat.le_refl 1, settle_store (c.answered stamp call) _⟩
  | refused f call next hcurrent => exact ⟨[], Nat.zero_le 1, settle_store c _⟩
  | disturbed stamp call => exact ⟨[(stamp, call)], Nat.le_refl 1, rfl⟩
  | idle => exact ⟨[], Nat.zero_le 1, rfl⟩

theorem exists_play_run (c : Situation) (happenings : List Happening) :
    ∃ steps, steps.length ≤ happenings.length ∧
      (c.run happenings).store = c.store.play steps := by
  induction happenings generalizing c with
  | nil => exact ⟨[], Nat.zero_le 0, rfl⟩
  | cons x rest ih =>
      obtain ⟨first, hfirst, hstep⟩ := exists_play_step c x
      obtain ⟨second, hsecond, hrun⟩ := ih (c.step x)
      refine ⟨first ++ second, ?_, ?_⟩
      · rw [List.length_append, List.length_cons]
        omega
      · rw [play_append, ← hstep]
        exact hrun

end Situation

/-- The entity of a task has changed to a mode, and nothing else has changed. -/
structure Repaired (mode : Mode) (r : Reference) (e e' : Entity) (m m' : MemoryStore) : Prop where
  held : m'.lookup r = .ok e'
  spec : e'.spec.entries = [("state", .string mode.specState)]
  entered : e'.mode? = some mode
  metadata : e'.metadata = { e.metadata with specVersion := e.metadata.specVersion + 1 }
  /-- The other members of the status stay, in their order. -/
  status : e'.status.erase "state" = e.status.erase "state"
  others : m'.entities.erase r.uuid = m.entities.erase r.uuid

theorem Repaired.get?_status {mode : Mode} {r : Reference} {e e' : Entity} {m m' : MemoryStore}
    (h : Repaired mode r e e' m m') {key : String} (hkey : key ≠ "state") :
    e'.status.get? key = e.status.get? key := by
  have hsame := congrArg (OrderedMap.get? · key) h.status
  rwa [OrderedMap.get?_erase, OrderedMap.get?_erase, if_neg hkey, if_neg hkey] at hsame

section Transition

variable {t : Task} {m : MemoryStore} {e : Entity}

theorem perform_ofMode (hr : t.reference = some e.reference) (he : m.Holds e) (mode : Mode)
    (stamp : Stamp) :
    (Operation.ofMode mode).perform stamp t m = ((.ok none, t), m.put (entered e mode)) := by
  cases mode with
  | running =>
      rw [Operation.perform, Operation.ofMode, Operation.script, Script.run_bind,
        run_start stamp hr he]
      rfl
  | idle =>
      rw [Operation.perform, Operation.ofMode, Operation.script, Script.run_bind,
        run_stop stamp hr he]
      rfl

theorem repaired_put_entered (m : MemoryStore) (e : Entity) (mode : Mode) :
    Repaired mode e.reference e (entered e mode) m (m.put (entered e mode)) where
  held := lookup_of_holds (holds_put m (entered e mode))
  spec := rfl
  entered := mode?_entered e mode
  metadata := rfl
  status := OrderedMap.erase_insert e.status "state" _
  others := OrderedMap.erase_insert m.entities e.metadata.uuid _

end Transition

/-- Whatever has failed before and whatever others have written, a start or a stop of a task whose
entity is there succeeds and brings this entity into its mode. -/
theorem repaired_of_run (name : String) (extension : Document) (happenings : List Happening) :
    let c := Situation.run { handle := { name, extension } } happenings
    ∀ r e, c.handle.reference = some r → c.store.lookup r = .ok e → ∀ mode stamp,
      ∃ e' m', (Operation.ofMode mode).perform stamp c.handle c.store =
          ((.ok none, c.handle), m') ∧
        Repaired mode r e e' c.store m' ∧
        (happenings.length + 1 < UInt64.size →
          e'.metadata.specVersion.toNat = e.metadata.specVersion.toNat + 1) := by
  intro c r e hr he mode stamp
  obtain ⟨steps, hlength, hstore⟩ :=
    Situation.exists_play_run { handle := { name, extension } } happenings
  have hkeyed : c.store.Keyed := hstore ▸ keyed_play keyed_empty steps
  have hversions : VersionsUpTo (0 + steps.length) c.store :=
    hstore ▸ versionsUpTo_empty.play steps
  obtain rfl := reference_of_lookup hkeyed he
  refine ⟨entered e mode, c.store.put (entered e mode),
    perform_ofMode hr (holds_of_lookup hkeyed he) mode stamp,
    repaired_put_entered c.store e mode, ?_⟩
  intro hbound
  have hversion := hversions _ e (lookup_eq_ok_iff.mp he).1
  have hnext : (entered e mode).metadata.specVersion = e.metadata.specVersion + 1 := rfl
  rw [hnext, UInt64.toNat_add]
  exact Nat.mod_eq_of_lt (by change _ + 1 < UInt64.size; omega)

/-- The first start fails when it writes the status. Somebody else then replaces the spec by one
without a state, and puts a state that is no text into the status. -/
def halfDone : Situation :=
  Situation.run { handle := { name := "heartbeat" } }
    [.begin .start, .call (.epoch "u"), .fault .notRegistered,
      .foreign (.epoch "") (.updateSpec { uuid := "u", kind := "heartbeat", specVersion := 1 }
        (.singleton "goal" (.string "rest"))),
      .foreign (.epoch "") (.updateStatus { uuid := "u", kind := "heartbeat" }
        (.ofList [("state", .bool true), ("provider_fields", .string "half")]))]

theorem repaired_of_run_halfDone :
    ∃ e e' m', halfDone.handle.reference = some ⟨"u", "heartbeat"⟩ ∧
      halfDone.store.lookup ⟨"u", "heartbeat"⟩ = .ok e ∧ e.mode? = none ∧
      Operation.stop.perform (.epoch "") halfDone.handle halfDone.store =
        ((.ok none, halfDone.handle), m') ∧
      Repaired .idle ⟨"u", "heartbeat"⟩ e e' halfDone.store m' ∧
      e'.metadata.specVersion.toNat = e.metadata.specVersion.toNat + 1 ∧
      e'.status.get? "provider_fields" = some (.string "half") := by
  have hr : halfDone.handle.reference = some ⟨"u", "heartbeat"⟩ := by rfl
  obtain ⟨e, he⟩ : ∃ e, halfDone.store.lookup ⟨"u", "heartbeat"⟩ = .ok e := ⟨_, rfl⟩
  have hmode : e.mode? = none := by
    cases he
    rfl
  have hpayload : e.status.get? "provider_fields" = some (.string "half") := by
    cases he
    rfl
  obtain ⟨e', m', hperform, hrepaired, hversion⟩ :=
    repaired_of_run "heartbeat" {} _ _ e hr he .idle (.epoch "")
  exact ⟨e, e', m', hr, he, hmode, hperform, hrepaired, hversion (by decide),
    (hrepaired.get?_status (by decide)).trans hpayload⟩

end IntentProvider.Task
