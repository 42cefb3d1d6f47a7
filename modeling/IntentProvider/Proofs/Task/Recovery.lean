import IntentProvider.Proofs.Store.Patch
import IntentProvider.Proofs.Task.Ownership

/-!
From where a task can be brought back into the running mode. One start is enough whatever has failed
before, unless somebody else has deleted the entity of the task. A handle that has lost its entity
in this way never learns of it: it refers to the entity for ever, and all its operations fail.
-/

namespace IntentProvider.Task

open IntentProvider.Json
open IntentProvider.MemoryStore

/-- The store has the entity of the task, in the running mode. -/
def Running (t : Task) (m : MemoryStore) : Prop :=
  ∃ r e, t.reference = some r ∧ m.lookup r = .ok e ∧ e.mode? = some .running

/-- A start succeeds, and the task is in the running mode after it. -/
def Starts (stamp : Stamp) (t : Task) (m : MemoryStore) : Prop :=
  ∃ t' m', Operation.start.perform stamp t m = ((.ok none, t'), m') ∧ Running t' m'

/-- The store does not have the entity that the handle refers to. -/
def Lost (t : Task) (m : MemoryStore) : Prop :=
  ∃ r, t.reference = some r ∧ m.lookup r = .error (.notFound (nameOf r))

section Undisturbed

variable {t : Task} {m : MemoryStore}

theorem starts_of_none (hr : t.reference = none) (stamp : Stamp) : Starts stamp t m := by
  let made := newEntity stamp t.name (stateDocument Mode.running.specState) t.extension
  let e := withStatus made (stateDocument Mode.running.statusState)
  have hmode : e.mode? = some .running := by
    have hspec : state? e.spec = some Mode.running.specState := state?_stateDocument _
    have hstatus : state? e.status = some Mode.running.statusState :=
      state?_merge_stateDocument _ _
    rw [Entity.mode?, hspec, hstatus]
    exact Mode.ofStates?_specState .running
  have hrun : Operation.start.perform stamp t m =
      ((.ok none, { t with reference := some ⟨stamp.uuid, t.name⟩ }), m.put e) := by
    rw [Operation.perform, Operation.script, Script.run_bind, run_start_of_none hr]
    rfl
  exact ⟨_, _, hrun, e.reference, e, rfl, lookup_of_holds (holds_put m e), hmode⟩

theorem starts_of_holds {e : Entity} (hr : t.reference = some e.reference) (he : m.Holds e)
    (stamp : Stamp) : Starts stamp t m := by
  have hrun : Operation.start.perform stamp t m = ((.ok none, t), m.put (entered e .running)) := by
    rw [Operation.perform, Operation.script, Script.run_bind, run_start stamp hr he]
    rfl
  exact ⟨_, _, hrun, e.reference, entered e .running, hr,
    lookup_of_holds (holds_put m (entered e .running)), mode?_entered e .running⟩

theorem starts_of_not_lost (hm : m.Keyed) (h : ¬ Lost t m) (stamp : Stamp) :
    Starts stamp t m := by
  cases hr : t.reference with
  | none => exact starts_of_none hr stamp
  | some r =>
      rcases lookup_cases m r with ⟨e, hfound⟩ | hmissing
      · have hreference : e.reference = r := reference_of_lookup hm hfound
        exact starts_of_holds (hreference ▸ hr) (holds_of_lookup hm hfound) stamp
      · exact absurd ⟨r, hr, hmissing⟩ h

theorem not_running_of_lost (h : Lost t m) : ¬ Running t m := by
  rintro ⟨r, e, hr, hfound, -⟩
  obtain ⟨r', hr', hmissing⟩ := h
  rw [hr, Option.some.injEq] at hr'
  rw [← hr', hfound] at hmissing
  cases hmissing

theorem exists_script_eq_get {r : Reference} (hr : t.reference = some r) (o : Operation) :
    ∃ next, o.script t = .ask (.get r) next := by
  rcases t with ⟨name, extension, reference⟩
  cases hr
  cases o <;> exact ⟨_, rfl⟩

/-- An operation of a handle that has lost its entity fails, and changes nothing. -/
theorem perform_of_missing {r : Reference} (hr : t.reference = some r)
    (hmissing : m.lookup r = .error (.notFound (nameOf r))) (stamp : Stamp) (o : Operation) :
    o.perform stamp t m = ((.error (.notFound (nameOf r)), t), m) := by
  obtain ⟨next, hscript⟩ := exists_script_eq_get hr o
  have hloyal := loyal_script t o
  rw [hscript] at hloyal
  have hget : m.answer stamp (.get r) =
      ((StoreCall.get r).refuse (.notFound (nameOf r)), m) := answer_of_missing rfl hmissing stamp
  rw [Operation.perform, hscript, Script.run_ask, hget, hloyal.2.1]
  rfl

theorem performAll_of_missing {r : Reference} (hr : t.reference = some r)
    (hmissing : m.lookup r = .error (.notFound (nameOf r))) (ops : List (Operation × Stamp)) :
    Operation.performAll ops t m = (ops.map fun _ => .error (.notFound (nameOf r)), t, m) := by
  induction ops with
  | nil => rfl
  | cons next rest ih =>
      simp only [Operation.performAll, perform_of_missing hr hmissing, ih, List.map_cons]

end Undisturbed

/-! How a handle loses its entity. -/

theorem missing_of_answer {m : MemoryStore} {stamp : Stamp} {call : StoreCall} {r : Reference}
    (hmissing : (m.answer stamp call).2.lookup r = .error (.notFound (nameOf r)))
    (hdelete : call ≠ .delete r) (hmade : made? (stamp, call) ≠ some r.uuid) :
    m.lookup r = .error (.notFound (nameOf r)) := by
  rcases lookup_cases m r with ⟨e, he⟩ | hnone
  · obtain ⟨e', he', -⟩ := left_of_answer he hdelete hmade
    rw [he'] at hmissing
    cases hmissing
  · exact hnone

/-- A call of its own does not lose a handle its entity. -/
theorem lost_of_kept {m : MemoryStore} {stamp : Stamp} {call : StoreCall}
    {before : Option Reference} {r : Reference}
    (hr : Exchange.kept before ⟨call, (m.answer stamp call).1⟩ = some r)
    (hmissing : (m.answer stamp call).2.lookup r = .error (.notFound (nameOf r))) :
    before = some r ∧ m.lookup r = .error (.notFound (nameOf r)) := by
  cases call with
  | create kind spec extension =>
      cases hr
      have hfound := lookup_of_holds (holds_put m (newEntity stamp kind spec extension))
      exact absurd (hfound.symm.trans hmissing) (by rintro ⟨⟩)
  | get r' => exact ⟨hr, hmissing⟩
  | updateSpec presented spec =>
      exact ⟨hr, missing_of_answer hmissing (by rintro ⟨⟩) (by rintro ⟨⟩)⟩
  | updateStatus presented status =>
      exact ⟨hr, missing_of_answer hmissing (by rintro ⟨⟩) (by rintro ⟨⟩)⟩
  | delete r' =>
      rcases answer_delete_cases stamp m r' with ⟨f, ha⟩ | ⟨found, -, ha⟩
      · rw [ha] at hr hmissing
        exact ⟨hr, hmissing⟩
      · rw [ha] at hr
        cases hr

namespace Situation

variable {c : Situation} {r : Reference}

theorem settle_handle {script : StoreScript (Outcome (Option Entity))}
    (h : Loyal c.handle script) : (c.settle script).handle = c.handle := by
  cases script with
  | done outcome => exact h
  | ask call next => rfl

theorem lost_step (h : Sound c) {x : Happening} (hfresh : (c.step x).drawn.Nodup)
    (hr : (c.step x).handle.reference = some r)
    (hmissing : (c.step x).store.lookup r = .error (.notFound (nameOf r))) :
    (∃ stamp, x = .foreign stamp (.delete r)) ∨
      c.handle.reference = some r ∧ c.store.lookup r = .error (.notFound (nameOf r)) := by
  have hmoves := moves_step c x
  generalize c.step x = d at hmoves hfresh hr hmissing
  cases hmoves with
  | begun o hcurrent =>
      rw [settle_handle (loyal_script c.handle o)] at hr
      rw [settle_store] at hmissing
      exact .inr ⟨hr, hmissing⟩
  | answered stamp call next hcurrent =>
      obtain ⟨-, -, hnext⟩ := h.loyal _ hcurrent
      have hloyal := hnext _ (fits_answer h.keyed stamp call)
      rw [settle_handle (c := c.answered stamp call) hloyal] at hr
      rw [settle_store] at hmissing
      exact .inr (lost_of_kept hr hmissing)
  | refused f call next hcurrent =>
      have hfailed : next (call.refuse f) = .done (.error f, c.handle) := (h.loyal _ hcurrent).2.1 f
      rw [hfailed] at hr hmissing
      exact .inr ⟨hr, hmissing⟩
  | disturbed stamp call =>
      by_cases hdelete : call = .delete r
      · exact .inl ⟨stamp, by rw [hdelete]⟩
      · rcases lookup_cases c.store r with ⟨e, he⟩ | hnone
        · -- the entity was there, so that nobody draws its UUID again
          have hmem : r.uuid ∈ c.drawn := h.stored _ e (lookup_eq_ok_iff.mp he).1
          have hmade : made? (stamp, call) ≠ some r.uuid := by
            intro hmade
            have hnodup : (r.uuid :: c.drawn).Nodup := by
              simpa [Situation.disturbed, hmade] using hfresh
            exact (List.nodup_cons.mp hnodup).1 hmem
          exact .inr ⟨hr, missing_of_answer hmissing hdelete hmade⟩
        · exact .inr ⟨hr, hnone⟩
  | idle => exact .inr ⟨hr, hmissing⟩

/-- A handle that has lost its entity has lost it to somebody else. -/
theorem lost_run (h : Sound c) (happenings : List Happening)
    (hfresh : (c.run happenings).drawn.Nodup)
    (hr : (c.run happenings).handle.reference = some r)
    (hmissing : (c.run happenings).store.lookup r = .error (.notFound (nameOf r))) :
    (∃ stamp, .foreign stamp (.delete r) ∈ happenings) ∨
      c.handle.reference = some r ∧ c.store.lookup r = .error (.notFound (nameOf r)) := by
  induction happenings generalizing c with
  | nil => exact .inr ⟨hr, hmissing⟩
  | cons x rest ih =>
      have hstep : (c.step x).drawn.Nodup :=
        hfresh.sublist (drawn_isSuffix_run (c.step x) rest).sublist
      rcases ih (h.step x hstep) hfresh hr hmissing with ⟨stamp, hmem⟩ | ⟨hr', hmissing'⟩
      · exact .inl ⟨stamp, List.mem_cons_of_mem _ hmem⟩
      · rcases lost_step h hstep hr' hmissing' with ⟨stamp, rfl⟩ | hbefore
        · exact .inl ⟨stamp, List.mem_cons_self⟩
        · exact .inr hbefore

end Situation

/-- One start succeeds and brings a task into the running mode again, whatever has failed before and
whatever others have done, unless somebody else has deleted its entity. Then all operations fail and
change nothing, so that none of them brings it there. -/
theorem recovery_of_run (name : String) (extension : Document) (happenings : List Happening)
    (hfresh : (Situation.run { handle := { name, extension } } happenings).drawn.Nodup) :
    let c := Situation.run { handle := { name, extension } } happenings
    (¬ Lost c.handle c.store → ∀ stamp, Starts stamp c.handle c.store) ∧
    (Lost c.handle c.store →
      ∃ r, c.handle.reference = some r ∧ (∃ stamp, .foreign stamp (.delete r) ∈ happenings) ∧
        ∀ ops, Operation.performAll ops c.handle c.store =
            (ops.map fun _ => .error (.notFound (nameOf r)), c.handle, c.store) ∧
          ¬ Running (Operation.performAll ops c.handle c.store).2.1
            (Operation.performAll ops c.handle c.store).2.2) := by
  intro c
  have hsound : c.Sound := Situation.sound_fresh.run happenings hfresh
  refine ⟨starts_of_not_lost hsound.keyed, ?_⟩
  intro hlost
  obtain ⟨r, hr, hmissing⟩ := hlost
  refine ⟨r, hr, ?_, ?_⟩
  · rcases Situation.lost_run Situation.sound_fresh happenings hfresh hr hmissing with
      hforeign | ⟨hnone, -⟩
    · exact hforeign
    · cases hnone
  · intro ops
    have hall := performAll_of_missing hr hmissing ops
    refine ⟨hall, ?_⟩
    rw [hall]
    exact not_running_of_lost ⟨r, hr, hmissing⟩

/-- The first start fails when it writes the status, and another entity is made by somebody else. -/
theorem recovery_of_run_interrupted :
    let happenings : List Happening :=
      [.begin .start, .call (.epoch "u"), .fault .notRegistered,
        .foreign (.epoch "v") (.create "other" {} {})]
    let c := Situation.run { handle := { name := "heartbeat" } } happenings
    c.drawn.Nodup ∧ ¬ Lost c.handle c.store ∧ ¬ Running c.handle c.store ∧
      Starts (.epoch "") c.handle c.store := by
  intro happenings c
  have hfresh : c.drawn.Nodup := by decide
  have hreference : c.handle.reference = some ⟨"u", "heartbeat"⟩ := by decide
  have hmode : (c.store.lookup ⟨"u", "heartbeat"⟩).toOption.map Entity.mode? = some none := by
    decide
  have hkept : ¬ Lost c.handle c.store := by
    rintro ⟨r, hr, hmissing⟩
    cases hreference.symm.trans hr
    rw [hmissing] at hmode
    cases hmode
  refine ⟨hfresh, hkept, ?_, (recovery_of_run "heartbeat" {} happenings hfresh).1 hkept _⟩
  rintro ⟨r, e, hr, hfound, hrunning⟩
  cases hreference.symm.trans hr
  rw [hfound] at hmode
  cases hrunning.symm.trans (Option.some.inj hmode)

/-- A task whose entity has been deleted by somebody else cannot be brought back. -/
theorem not_running_of_foreign_delete :
    let happenings : List Happening :=
      [.begin .start, .call (.epoch "u"), .call (.epoch ""),
        .foreign (.epoch "") (.delete ⟨"u", "heartbeat"⟩)]
    let c := Situation.run { handle := { name := "heartbeat" } } happenings
    c.drawn.Nodup ∧ c.current.isNone ∧
      ∀ ops, ¬ Running (Operation.performAll ops c.handle c.store).2.1
        (Operation.performAll ops c.handle c.store).2.2 := by
  intro happenings c
  refine ⟨by decide, by decide, ?_⟩
  intro ops
  have hreference : c.handle.reference = some ⟨"u", "heartbeat"⟩ := by decide
  have hmissing : c.store.lookup ⟨"u", "heartbeat"⟩ =
      .error (.notFound (nameOf ⟨"u", "heartbeat"⟩)) := by rfl
  rw [performAll_of_missing hreference hmissing]
  exact not_running_of_lost ⟨_, hreference, hmissing⟩

end IntentProvider.Task
