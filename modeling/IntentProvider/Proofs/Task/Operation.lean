import IntentProvider.Proofs.Store.Memory
import IntentProvider.Task.Basic

/-!
The operations of a task over a store in memory. Each operation is described by one equation for a
store that holds the entity of the task, and all of them make one step of a run.
-/

namespace IntentProvider.Task

open IntentProvider.Json
open IntentProvider.MemoryStore

inductive Operation where
  | start
  | stop
  | kill
  | update (payload : Value)
  | entity

namespace Operation

/-- The word by which failures name an operation. -/
def name : Operation → String
  | start => "start"
  | stop => "stop"
  | kill => "kill"
  | update _ => "update"
  | entity => "read"

/-- What an operation answers: the entity if it was asked for, and else nothing. -/
abbrev Answer : Type :=
  Except Failure (Option Entity)

def silent (o : Task.Outcome Unit) : Task.Outcome (Option Entity) :=
  (o.1.map fun _ => none, o.2)

def shown (o : Task.Outcome Entity) : Task.Outcome (Option Entity) :=
  (o.1.map some, o.2)

def script (t : Task) : Operation → StoreScript (Task.Outcome (Option Entity))
  | start => t.start.bind fun o => .done (silent o)
  | stop => t.stop.bind fun o => .done (silent o)
  | kill => t.kill.bind fun o => .done (silent o)
  | update payload => (t.update payload).bind fun o => .done (silent o)
  | entity => t.entity.bind fun o => .done (shown o)

/-- Carries out an operation. The stamp is for the entity that the operation may make. -/
def perform (o : Operation) (stamp : Stamp) (t : Task) (m : MemoryStore) :
    Task.Outcome (Option Entity) × MemoryStore :=
  (o.script t).run (fun call m => m.answer stamp call) m

/-- Carries out operations one after the other, each on the handle and the store that the ones
before it have left. -/
def performAll : List (Operation × Stamp) → Task → MemoryStore →
    List Answer × Task × MemoryStore
  | [], t, m => ([], t, m)
  | (o, stamp) :: rest, t, m =>
      let next := o.perform stamp t m
      let last := performAll rest next.1.2 next.2
      (next.1.1 :: last.1, last.2)

end Operation

theorem start_eq_withEntity {t : Task} {r : Reference} (hr : t.reference = some r) :
    t.start = t.withEntity "start" fun e => t.enter e .running := by
  rw [start, hr]

def entered (e : Entity) (mode : Mode) : Entity :=
  withStatus (withSpec e (stateDocument mode.specState)) (stateDocument mode.statusState)

theorem state?_stateDocument (state : String) : state? (stateDocument state) = some state := by
  simp [state?, stateDocument, OrderedMap.singleton, OrderedMap.get?_insert, Value.string?]

theorem state?_merge_stateDocument (d : Document) (state : String) :
    state? (d.merge (stateDocument state)) = some state := by
  rw [state?, OrderedMap.get?_merge]
  exact congrArg _ rfl

theorem mode?_entered (e : Entity) (mode : Mode) : (entered e mode).mode? = some mode := by
  have hspec : state? (entered e mode).spec = some mode.specState := state?_stateDocument _
  have hstatus : state? (entered e mode).status = some mode.statusState :=
    state?_merge_stateDocument _ _
  rw [Entity.mode?, hspec, hstatus]
  exact Mode.ofStates?_specState mode

/-! Operations of a task whose entity the store holds. -/

section Held

variable {t : Task} {m : MemoryStore} {e : Entity} (stamp : Stamp)

theorem run_withEntity {α : Type} (hr : t.reference = some e.reference) (he : m.Holds e)
    (operation : String) (next : Entity → StoreScript (Task.Outcome α)) :
    (t.withEntity operation next).run (fun call m => m.answer stamp call) m =
      (next e).run (fun call m => m.answer stamp call) m := by
  simp only [withEntity, hr, Script.run_ask, answer_get_of_holds stamp he]

theorem run_publish (he : m.Holds e) {read : Entity} (hread : read.reference = e.reference)
    (status : Document) :
    (t.publish read status).run (fun call m => m.answer stamp call) m =
      ((.ok (), t), m.put (withStatus e status)) := by
  rw [publish, Script.run_ask, answer_updateStatus_of_holds stamp he hread]
  rfl

theorem run_enter (he : m.Holds e) (mode : Mode) :
    (t.enter e mode).run (fun call m => m.answer stamp call) m =
      ((.ok (), t), m.put (entered e mode)) := by
  let written := withSpec e (stateDocument mode.specState)
  have hwritten : (m.put written).Holds written := holds_put m written
  have hread : e.reference = written.reference := rfl
  rw [enter, Script.run_ask, answer_updateSpec_of_holds stamp he rfl rfl]
  change (t.publish e _).run (fun call m => m.answer stamp call) (m.put written) = _
  rw [run_publish stamp hwritten hread, put_withStatus]
  rfl

theorem run_start (hr : t.reference = some e.reference) (he : m.Holds e) :
    t.start.run (fun call m => m.answer stamp call) m =
      ((.ok (), t), m.put (entered e .running)) := by
  rw [start_eq_withEntity hr, run_withEntity stamp hr he, run_enter stamp he]

theorem run_stop (hr : t.reference = some e.reference) (he : m.Holds e) :
    t.stop.run (fun call m => m.answer stamp call) m =
      ((.ok (), t), m.put (entered e .idle)) := by
  rw [stop, run_withEntity stamp hr he, run_enter stamp he]

theorem run_kill (hr : t.reference = some e.reference) (he : m.Holds e) :
    t.kill.run (fun call m => m.answer stamp call) m =
      ((.ok (), { t with reference := none }), ⟨m.entities.erase e.metadata.uuid⟩) := by
  rw [kill, run_withEntity stamp hr he, Script.run_ask, answer_delete_of_holds stamp he]
  rfl

theorem run_update (hr : t.reference = some e.reference) (he : m.Holds e) (payload : Value) :
    (t.update payload).run (fun call m => m.answer stamp call) m =
      ((.ok (), t), m.put (withStatus e (.singleton payloadField payload))) := by
  rw [update, run_withEntity stamp hr he, run_publish stamp he rfl]

theorem run_entity (hr : t.reference = some e.reference) (he : m.Holds e) :
    t.entity.run (fun call m => m.answer stamp call) m = ((.ok e, t), m) := by
  rw [entity, run_withEntity stamp hr he]
  rfl

end Held

/-! Operations of a task that has no entity. -/

theorem run_withEntity_of_none {α : Type} {t : Task} (hr : t.reference = none) (stamp : Stamp)
    (m : MemoryStore) (operation : String) (next : Entity → StoreScript (Task.Outcome α)) :
    (t.withEntity operation next).run (fun call m => m.answer stamp call) m =
      ((.error (.noTask operation t.name), t), m) := by
  rw [withEntity, hr]
  rfl

theorem run_start_of_none {t : Task} (hr : t.reference = none) (stamp : Stamp) (m : MemoryStore) :
    t.start.run (fun call m => m.answer stamp call) m =
      ((.ok (), { t with reference := some ⟨stamp.uuid, t.name⟩ }),
        m.put (withStatus
          (newEntity stamp t.name (stateDocument Mode.running.specState) t.extension)
          (stateDocument Mode.running.statusState))) := by
  let made := newEntity stamp t.name (stateDocument Mode.running.specState) t.extension
  have hmade : (m.put made).Holds made := holds_put m made
  rw [start, hr, Script.run_ask]
  change (publish _ made _).run (fun call m => m.answer stamp call) (m.put made) = _
  rw [run_publish stamp hmade rfl, put_withStatus]
  rfl

end IntentProvider.Task
