import IntentProvider.Proofs.Task.Operation

/-!
The life of a background task. Seen from outside a task is a small machine: it is absent, or it is
present with a mode, with what it has published since it was made, and with a count of the writes
of its spec. Over a store in memory that nobody else writes, the operations on the handle are the
steps of this machine: `performAll_eq_stepAll` says so for every run.
-/

namespace IntentProvider.Task

open IntentProvider.Json
open IntentProvider.MemoryStore

inductive Lifecycle where
  | absent
  /-- The task has an entity, made at a stamp. Nothing is published before the first update, and
  the version counts the writes of the spec, the first one included. -/
  | present (stamp : Stamp) (mode : Mode) (payload : Option Value) (version : Nat)

namespace Lifecycle

/-- The status of a task: its mode, and the payload once something has been published. -/
def status (mode : Mode) : Option Value → Document
  | none => stateDocument mode.statusState
  | some v => (stateDocument mode.statusState).insert payloadField v

def entity? (t : Task) : Lifecycle → Option Entity
  | absent => none
  | present stamp mode payload version =>
      some
        { metadata :=
            { uuid := stamp.uuid, kind := t.name, specVersion := .ofNat version
              createdAt := stamp.createdAt, extension := t.extension }
          spec := stateDocument mode.specState
          status := status mode payload }

def mode? : Lifecycle → Option Mode
  | absent => none
  | present _ mode _ _ => some mode

def handle (t : Task) (l : Lifecycle) : Task :=
  { t with reference := (l.entity? t).map Entity.reference }

/-- A store in which a task has been put beside what was there. -/
def store (t : Task) (base : MemoryStore) (l : Lifecycle) : MemoryStore :=
  match l.entity? t with
  | none => base
  | some e => base.put e

/-- The machine: what an operation answers, and what the task is after it. -/
def step (t : Task) (stamp : Stamp) : Operation → Lifecycle → Operation.Answer × Lifecycle
  | .start, absent => (.ok none, present stamp .running none 1)
  | .start, present made _ payload version =>
      (.ok none, present made .running payload (version + 1))
  | .stop, present made _ payload version => (.ok none, present made .idle payload (version + 1))
  | .kill, present _ _ _ _ => (.ok none, absent)
  | .update payload, present made mode _ version =>
      (.ok none, present made mode (some payload) version)
  | .entity, present made mode payload version =>
      (.ok ((present made mode payload version).entity? t), present made mode payload version)
  | o, absent => (.error (.noTask o.name t.name), absent)

def stepAll (t : Task) : List (Operation × Stamp) → Lifecycle → List Operation.Answer × Lifecycle
  | [], l => ([], l)
  | (o, stamp) :: rest, l =>
      let next := step t stamp o l
      let last := stepAll t rest next.2
      (next.1 :: last.1, last.2)

theorem merge_state_status (mode mode' : Mode) (payload : Option Value) :
    (status mode payload).merge (stateDocument mode'.statusState) = status mode' payload := by
  apply OrderedMap.ext_entries
  cases payload <;> rfl

theorem merge_payload_status (mode : Mode) (payload : Option Value) (v : Value) :
    (status mode payload).merge (.singleton payloadField v) = status mode (some v) := by
  apply OrderedMap.ext_entries
  cases payload <;> rfl

theorem ofNat_succ (n : Nat) : UInt64.ofNat n + 1 = UInt64.ofNat (n + 1) := by
  rw [UInt64.ofNat_add]
  rfl

/-- A transition changes the mode, counts a write of the spec, and keeps what was published. -/
theorem entered_entity? {t : Task} {made : Stamp} {mode : Mode} {payload : Option Value}
    {version : Nat} {e : Entity} (he : (present made mode payload version).entity? t = some e)
    (mode' : Mode) :
    (present made mode' payload (version + 1)).entity? t = some (entered e mode') := by
  cases he
  simp only [entity?, entered, withSpec, withStatus, merge_state_status, ofNat_succ]

theorem holds_store {t : Task} {base : MemoryStore} {l : Lifecycle} {e : Entity}
    (he : l.entity? t = some e) : (l.store t base).Holds e := by
  rw [store, he]
  exact holds_put base e

theorem store_eq_put {t : Task} {base : MemoryStore} {l : Lifecycle} {e : Entity}
    (he : l.entity? t = some e) : l.store t base = base.put e := by
  rw [store, he]

theorem handle_reference {t : Task} {l : Lifecycle} {e : Entity} (he : l.entity? t = some e) :
    (l.handle t).reference = some e.reference := by
  rw [handle, he]
  rfl

/-- The store does not have the UUID of the task from elsewhere. -/
def Apart (base : MemoryStore) : Lifecycle → Prop
  | absent => True
  | present made _ _ _ => base.entities.get? made.uuid = none

theorem apart_step {t : Task} {base : MemoryStore} {stamp : Stamp} {l : Lifecycle}
    (hstamp : base.entities.get? stamp.uuid = none) (hl : l.Apart base) (o : Operation) :
    (step t stamp o l).2.Apart base := by
  cases l with
  | absent =>
      cases o with
      | start => exact hstamp
      | stop | kill | update payload | entity => trivial
  | present made mode payload version =>
      cases o with
      | kill => trivial
      | start | stop | update payload | entity => exact hl

theorem perform_absent (t : Task) (base : MemoryStore) (stamp : Stamp) (o : Operation) :
    o.perform stamp (absent.handle t) base =
      (((step t stamp o absent).1, (step t stamp o absent).2.handle t),
        (step t stamp o absent).2.store t base) := by
  have hnone : (absent.handle t).reference = none := rfl
  cases o with
  | start =>
      rw [Operation.perform, Operation.script, Script.run_bind, run_start_of_none hnone]
      rfl
  | stop =>
      rw [Operation.perform, Operation.script, Script.run_bind, stop,
        run_withEntity_of_none hnone]
      rfl
  | kill =>
      rw [Operation.perform, Operation.script, Script.run_bind, kill,
        run_withEntity_of_none hnone]
      rfl
  | update payload =>
      rw [Operation.perform, Operation.script, Script.run_bind, update,
        run_withEntity_of_none hnone]
      rfl
  | entity =>
      rw [Operation.perform, Operation.script, Script.run_bind, Task.entity,
        run_withEntity_of_none hnone]
      rfl

theorem perform_present {t : Task} {base : MemoryStore} {made : Stamp}
    (hfresh : base.entities.get? made.uuid = none) (mode : Mode) (payload : Option Value)
    (version : Nat) (stamp : Stamp) (o : Operation) :
    let l := present made mode payload version
    o.perform stamp (l.handle t) (l.store t base) =
      (((step t stamp o l).1, (step t stamp o l).2.handle t),
        (step t stamp o l).2.store t base) := by
  intro l
  obtain ⟨e, he⟩ : ∃ e, l.entity? t = some e := ⟨_, rfl⟩
  have hr : (l.handle t).reference = some e.reference := handle_reference he
  have hheld : (l.store t base).Holds e := holds_store he
  have hstore : l.store t base = base.put e := store_eq_put he
  have huuid : e.metadata.uuid = made.uuid := by
    cases he
    rfl
  cases o with
  | start =>
      rw [Operation.perform, Operation.script, Script.run_bind, run_start stamp hr hheld,
        hstore, put_put base e (entered e .running) rfl]
      change _ = (_, (present made .running payload (version + 1)).store t base)
      rw [store_eq_put (entered_entity? he .running)]
      rfl
  | stop =>
      rw [Operation.perform, Operation.script, Script.run_bind, run_stop stamp hr hheld,
        hstore, put_put base e (entered e .idle) rfl]
      change _ = (_, (present made .idle payload (version + 1)).store t base)
      rw [store_eq_put (entered_entity? he .idle)]
      rfl
  | kill =>
      -- nothing stood under the UUID before, so what the task leaves is the base itself
      have herase : (⟨(base.put e).entities.erase e.metadata.uuid⟩ : MemoryStore) = base := by
        rw [put, OrderedMap.erase_insert_of_get?_eq_none (huuid ▸ hfresh)]
      rw [Operation.perform, Operation.script, Script.run_bind, run_kill stamp hr hheld,
        hstore, herase]
      rfl
  | update v =>
      have hstatus : (present made mode (some v) version).entity? t =
          some (withStatus e (.singleton payloadField v)) := by
        cases he
        simp only [entity?, withStatus, merge_payload_status]
      rw [Operation.perform, Operation.script, Script.run_bind, run_update stamp hr hheld,
        hstore, put_withStatus]
      change _ = (_, (present made mode (some v) version).store t base)
      rw [store_eq_put hstatus]
      rfl
  | entity =>
      rw [Operation.perform, Operation.script, Script.run_bind, run_entity stamp hr hheld]
      change _ = ((_, l.handle t), l.store t base)
      exact congrArg (fun shown => ((Except.ok shown, l.handle t), l.store t base)) he.symm

theorem perform_eq_step {t : Task} {base : MemoryStore} {l : Lifecycle} (hl : l.Apart base)
    (stamp : Stamp) (o : Operation) :
    o.perform stamp (l.handle t) (l.store t base) =
      (((step t stamp o l).1, (step t stamp o l).2.handle t),
        (step t stamp o l).2.store t base) := by
  cases l with
  | absent => exact perform_absent t base stamp o
  | present made mode payload version =>
      exact perform_present hl mode payload version stamp o

theorem apart_stepAll {t : Task} {base : MemoryStore} (run : List (Operation × Stamp))
    (hfresh : ∀ o ∈ run, base.entities.get? o.2.uuid = none) {l : Lifecycle}
    (hl : l.Apart base) : (stepAll t run l).2.Apart base := by
  induction run generalizing l with
  | nil => exact hl
  | cons next rest ih =>
      rcases next with ⟨o, stamp⟩
      have hstamp : base.entities.get? stamp.uuid = none := hfresh (o, stamp) (by simp)
      exact ih (fun o ho => hfresh o (List.mem_cons_of_mem _ ho)) (apart_step hstamp hl o)

theorem performAll_handle {t : Task} {base : MemoryStore} (run : List (Operation × Stamp))
    (hfresh : ∀ o ∈ run, base.entities.get? o.2.uuid = none) {l : Lifecycle}
    (hl : l.Apart base) :
    Operation.performAll run (l.handle t) (l.store t base) =
      ((stepAll t run l).1, (stepAll t run l).2.handle t, (stepAll t run l).2.store t base) := by
  induction run generalizing l with
  | nil => rfl
  | cons next rest ih =>
      rcases next with ⟨o, stamp⟩
      have hstamp : base.entities.get? stamp.uuid = none := hfresh (o, stamp) (by simp)
      have hrest : ∀ o ∈ rest, base.entities.get? o.2.uuid = none :=
        fun o ho => hfresh o (List.mem_cons_of_mem _ ho)
      simp only [Operation.performAll, stepAll, perform_eq_step hl,
        ih hrest (apart_step hstamp hl o)]

theorem entries_store {t : Task} {base : MemoryStore} {l : Lifecycle} (hl : l.Apart base) :
    (l.store t base).entities.entries =
      base.entities.entries ++ (l.entity? t).toList.map fun e => (e.metadata.uuid, e) := by
  cases l with
  | absent => simp [store, entity?]
  | present made mode payload version =>
      exact OrderedMap.entries_insert_of_get?_eq_none hl _

theorem mode?_of_entity? {t : Task} {l : Lifecycle} {e : Entity} (he : l.entity? t = some e) :
    e.mode? = l.mode? := by
  cases l with
  | absent => cases he
  | present made mode payload version =>
      cases he
      cases mode <;> cases payload <;> rfl

end Lifecycle

/-- Over a store that nobody else writes, a new handle answers as the machine does, keeps the
identity of the machine's entity, and leaves that entity, if there is one, as the last one beside
what the store had. The entity is in the mode of the machine. -/
theorem performAll_eq_stepAll (name : String) (extension : Document) (base : MemoryStore)
    (run : List (Operation × Stamp))
    (hfresh : ∀ o ∈ run, base.entities.get? o.2.uuid = none) :
    let t : Task := { name, extension }
    let after := Operation.performAll run t base
    let machine := Lifecycle.stepAll t run .absent
    after.1 = machine.1 ∧ after.2.1 = machine.2.handle t ∧
      after.2.2.entities.entries =
        base.entities.entries ++
          (machine.2.entity? t).toList.map (fun e => (e.metadata.uuid, e)) ∧
      ∀ e, machine.2.entity? t = some e → e.mode? = machine.2.mode? := by
  intro t after machine
  have hrun : after = (machine.1, machine.2.handle t, machine.2.store t base) :=
    Lifecycle.performAll_handle (t := t) run hfresh (l := .absent) trivial
  have hapart : machine.2.Apart base := Lifecycle.apart_stepAll run hfresh trivial
  refine ⟨by rw [hrun], by rw [hrun], ?_, fun e he => Lifecycle.mode?_of_entity? he⟩
  rw [hrun, Lifecycle.entries_store hapart]

theorem performAll_eq_stepAll_restart :
    let base : MemoryStore := MemoryStore.put {} (newEntity (.epoch "other") "heartbeat" {} {})
    let run : List (Operation × Stamp) :=
      [(.start, .epoch "a"), (.update (.bool true), .epoch "b"), (.stop, .epoch "c"),
        (.kill, .epoch "d"), (.start, .epoch "e"), (.entity, .epoch "f")]
    (∀ o ∈ run, base.entities.get? o.2.uuid = none) ∧
      ∃ e : Entity,
        (Operation.performAll run { name := "heartbeat" } base).2.2.entities.entries =
          base.entities.entries ++ [("e", e)] ∧
        e.mode? = some .running ∧ e.metadata.specVersion = 1 ∧
        e.status = stateDocument "Running" := by
  intro base run
  have hfresh : ∀ o ∈ run, base.entities.get? o.2.uuid = none := by decide
  have h := performAll_eq_stepAll "heartbeat" {} base run hfresh
  exact ⟨hfresh, _, h.2.2.1, h.2.2.2 _ rfl, rfl, rfl⟩

end IntentProvider.Task
