import IntentProvider.Proofs.Task.Course

/-!
The entity that the handle of a task owns. The operations on one handle come one after the other,
but any call of theirs may fail before it takes effect, and others use the store between the calls.
Of the entities that the handle has made at most one is left in the store, and the handle refers to
it, also while an operation is in progress.
-/

namespace IntentProvider.Task

open IntentProvider.Json
open IntentProvider.MemoryStore

/-- An operation in progress: its next call, and how it goes on with the answer. -/
structure Pending where
  call : StoreCall
  next : call.Answer → StoreScript (Outcome (Option Entity))

/-- The handle of a task, a store in memory, and what is left of the operation in progress. The
reference of the handle moves with every call, as soon as the store has answered it. -/
structure Situation where
  store : MemoryStore := {}
  handle : Task
  current : Option Pending := none
  /-- The UUIDs of the entities that the handle has made. -/
  made : List String := []
  /-- The UUIDs of all entities that were ever made. -/
  drawn : List String := []

inductive Happening where
  | begin (o : Operation)
  /-- The store answers the next call of the operation in progress. -/
  | call (stamp : Stamp)
  /-- The next call of the operation in progress fails before it takes effect. -/
  | fault (f : Failure)
  /-- Somebody else calls the store. -/
  | foreign (stamp : Stamp) (call : StoreCall)

namespace Situation

def settle (c : Situation) : StoreScript (Outcome (Option Entity)) → Situation
  | .done (_, t) => { c with handle := t, current := none }
  | .ask call next => { c with current := some ⟨call, next⟩ }

/-- The store has answered a call of the handle, and nothing has come of it yet. -/
def answered (c : Situation) (stamp : Stamp) (call : StoreCall) : Situation :=
  { c with
    store := (c.store.answer stamp call).2
    handle :=
      { c.handle with
        reference := Exchange.kept c.handle.reference ⟨call, (c.store.answer stamp call).1⟩ }
    current := none
    made := (made? (stamp, call)).toList ++ c.made
    drawn := (made? (stamp, call)).toList ++ c.drawn }

/-- The store has answered a call of somebody else. -/
def disturbed (c : Situation) (stamp : Stamp) (call : StoreCall) : Situation :=
  { c with
    store := (c.store.answer stamp call).2
    drawn := (made? (stamp, call)).toList ++ c.drawn }

def step (c : Situation) : Happening → Situation
  | .begin o =>
      match c.current with
      | none => c.settle (o.script c.handle)
      | some _ => c
  | .call stamp =>
      match c.current with
      | some ⟨call, next⟩ =>
          (c.answered stamp call).settle (next (c.store.answer stamp call).1)
      | none => c
  | .fault f =>
      match c.current with
      | some ⟨call, next⟩ => c.settle (next (call.refuse f))
      | none => c
  | .foreign stamp call => c.disturbed stamp call

def run (c : Situation) : List Happening → Situation
  | [] => c
  | h :: rest => (c.step h).run rest

end Situation

/-- An answer to a read is about the identity that was asked for. -/
def Fits : (call : StoreCall) → call.Answer → Prop
  | .get r, .ok e => e.reference = r
  | _, _ => True

/-- Every call of a script is about the entity that the handle refers to, and makes one if it refers
to none; a call that fails ends the script; and in the end the script leaves the handle with the
reference that its calls have given to it. -/
def Loyal {α : Type} : Task → StoreScript (Outcome α) → Prop
  | t, .done outcome => outcome.2 = t
  | t, .ask call next =>
      call.target? = t.reference ∧ (∀ f, next (call.refuse f) = .done (.error f, t)) ∧
        ∀ answer, Fits call answer →
          Loyal { t with reference := Exchange.kept t.reference ⟨call, answer⟩ } (next answer)

section Loyal

variable {α β : Type} {t : Task}

theorem Loyal.map {script : StoreScript (Outcome α)} (h : Loyal t script) (f : α → β) :
    Loyal t (script.bind fun o => .done (o.1.map f, o.2)) := by
  induction script generalizing t with
  | done outcome => exact h
  | ask call next ih =>
      obtain ⟨htarget, hfailed, hnext⟩ := h
      refine ⟨htarget, ?_, ?_⟩
      · intro g
        change (next (call.refuse g)).bind _ = _
        rw [hfailed]
        rfl
      · intro answer hfits
        exact ih answer (hnext answer hfits)

theorem loyal_withEntity {r : Reference} (hr : t.reference = some r) (operation : String)
    {next : Entity → StoreScript (Outcome α)}
    (hnext : ∀ e : Entity, t.reference = some e.reference → Loyal t (next e)) :
    Loyal t (t.withEntity operation next) := by
  simp only [withEntity, hr]
  refine ⟨hr.symm, fun _ => rfl, ?_⟩
  rintro (f | e) hfits
  · rfl
  · have he : e.reference = r := hfits
    exact hnext e (by rw [hr, he])

theorem loyal_publish {e : Entity} (he : t.reference = some e.reference) (status : Document) :
    Loyal t (t.publish e status) := by
  refine ⟨he.symm, fun _ => rfl, ?_⟩
  rintro (f | a) - <;> rfl

theorem loyal_enter {e : Entity} (he : t.reference = some e.reference) (mode : Mode) :
    Loyal t (t.enter e mode) := by
  refine ⟨he.symm, fun _ => rfl, ?_⟩
  rintro (f | a) -
  · rfl
  · exact loyal_publish he _

theorem loyal_start : Loyal t t.start := by
  cases hr : t.reference with
  | none =>
      simp only [start, hr]
      refine ⟨hr.symm, fun _ => rfl, ?_⟩
      rintro (f | e) -
      · rfl
      · exact loyal_publish rfl _
  | some r =>
      rw [start_eq_withEntity hr]
      exact loyal_withEntity hr _ fun e he => loyal_enter he _

theorem loyal_kill {r : Reference} (hr : t.reference = some r) : Loyal t t.kill := by
  apply loyal_withEntity hr
  intro e he
  refine ⟨he.symm, fun _ => rfl, ?_⟩
  rintro (f | a) - <;> rfl

theorem loyal_script (t : Task) (o : Operation) : Loyal t (o.script t) := by
  cases hfirst : o.first? t with
  | none =>
      rw [Operation.script_of_first?_eq_none hfirst]
      rfl
  | some call =>
      cases o with
      | start => exact loyal_start.map _
      | stop =>
          obtain ⟨r, hr, -⟩ := Option.map_eq_some_iff.mp hfirst
          exact (loyal_withEntity hr _ fun e he => loyal_enter he _).map _
      | kill =>
          obtain ⟨r, hr, -⟩ := Option.map_eq_some_iff.mp hfirst
          exact (loyal_kill hr).map _
      | update payload =>
          obtain ⟨r, hr, -⟩ := Option.map_eq_some_iff.mp hfirst
          exact (loyal_withEntity hr _ fun e he => loyal_publish he _).map _
      | entity =>
          obtain ⟨r, hr, -⟩ := Option.map_eq_some_iff.mp hfirst
          apply Loyal.map
          apply loyal_withEntity hr
          intro e he
          rfl

end Loyal

namespace Situation

/-- The entities of the handle that are left in the store are the one it refers to. -/
def Owns (c : Situation) : Prop :=
  ∀ uuid ∈ c.made, ∀ e, c.store.entities.get? uuid = some e → c.handle.reference = some e.reference

structure Sound (c : Situation) : Prop where
  keyed : c.store.Keyed
  stored : ∀ uuid e, c.store.entities.get? uuid = some e → uuid ∈ c.drawn
  drawn : List.Sublist c.made c.drawn
  owns : c.Owns
  loyal : ∀ p, c.current = some p → Loyal c.handle (.ask p.call p.next)

variable {c : Situation}

/-- What a happening makes of a situation: it begins an operation, it answers or refuses the next
call, it is a call of somebody else, or it is out of place and changes nothing. -/
inductive Moves (c : Situation) : Happening → Situation → Prop where
  | begun (o : Operation) (hcurrent : c.current = none) :
      Moves c (.begin o) (c.settle (o.script c.handle))
  | answered (stamp : Stamp) (call : StoreCall)
      (next : call.Answer → StoreScript (Outcome (Option Entity)))
      (hcurrent : c.current = some ⟨call, next⟩) :
      Moves c (.call stamp)
        ((c.answered stamp call).settle (next (c.store.answer stamp call).1))
  | refused (f : Failure) (call : StoreCall)
      (next : call.Answer → StoreScript (Outcome (Option Entity)))
      (hcurrent : c.current = some ⟨call, next⟩) :
      Moves c (.fault f) (c.settle (next (call.refuse f)))
  | disturbed (stamp : Stamp) (call : StoreCall) :
      Moves c (.foreign stamp call) (c.disturbed stamp call)
  | idle (x : Happening) : Moves c x c

theorem moves_step (c : Situation) (x : Happening) : Moves c x (c.step x) := by
  cases x with
  | begin o =>
      simp only [step]
      split
      · rename_i hcurrent
        exact .begun o hcurrent
      · exact .idle _
  | call stamp =>
      simp only [step]
      split
      · rename_i call next hcurrent
        exact .answered stamp call next hcurrent
      · exact .idle _
  | fault f =>
      simp only [step]
      split
      · rename_i call next hcurrent
        exact .refused f call next hcurrent
      · exact .idle _
  | foreign stamp call => exact .disturbed stamp call

theorem settle_store (c : Situation) (script : StoreScript (Outcome (Option Entity))) :
    (c.settle script).store = c.store := by
  cases script <;> rfl

theorem settle_made (c : Situation) (script : StoreScript (Outcome (Option Entity))) :
    (c.settle script).made = c.made := by
  cases script <;> rfl

theorem settle_drawn (c : Situation) (script : StoreScript (Outcome (Option Entity))) :
    (c.settle script).drawn = c.drawn := by
  cases script <;> rfl

theorem Sound.settle (h : Sound c) {script : StoreScript (Outcome (Option Entity))}
    (hscript : Loyal c.handle script) : Sound (c.settle script) := by
  obtain ⟨hkeyed, hstored, hdrawn, howns, -⟩ := h
  cases script with
  | done outcome =>
      rcases outcome with ⟨result, t⟩
      cases hscript
      refine ⟨hkeyed, hstored, hdrawn, howns, ?_⟩
      rintro p ⟨⟩
  | ask call next =>
      refine ⟨hkeyed, hstored, hdrawn, howns, ?_⟩
      rintro p ⟨⟩
      exact hscript

theorem mem_drawn_of_answer (h : Sound c) (stamp : Stamp) (call : StoreCall) {uuid : String}
    {e : Entity} (he : (c.store.answer stamp call).2.entities.get? uuid = some e) :
    uuid ∈ (made? (stamp, call)).toList ++ c.drawn := by
  rcases exists_of_get?_answer he with hmade | ⟨old, hold, -⟩
  · simp [hmade]
  · exact List.mem_append_right _ (h.stored uuid old hold)

theorem kept_of_made {m : MemoryStore} {stamp : Stamp} {call : StoreCall} {uuid : String}
    (hmade : made? (stamp, call) = some uuid) {e : Entity}
    (he : (m.answer stamp call).2.entities.get? uuid = some e) (before : Option Reference) :
    Exchange.kept before ⟨call, (m.answer stamp call).1⟩ = some e.reference := by
  cases call with
  | create kind spec extension =>
      cases hmade
      change (m.entities.insert stamp.uuid _).get? stamp.uuid = some e at he
      rw [OrderedMap.get?_insert_self] at he
      cases he
      rfl
  | get r => cases hmade
  | updateSpec presented spec => cases hmade
  | updateStatus presented status => cases hmade
  | delete r => cases hmade

/-- The handle still refers to its entity after a call that has left it in the store. -/
theorem kept_of_left {m : MemoryStore} (hm : m.Keyed) {stamp : Stamp} {call : StoreCall}
    {uuid : String} {old e : Entity} (hold : m.entities.get? uuid = some old)
    (he : (m.answer stamp call).2.entities.get? uuid = some e)
    (htarget : call.target? = some old.reference) :
    Exchange.kept (some old.reference) ⟨call, (m.answer stamp call).1⟩ = some old.reference := by
  cases call with
  | create kind spec extension => cases htarget
  | get r => rfl
  | updateSpec presented spec => rfl
  | updateStatus presented status => rfl
  | delete r =>
      rcases answer_delete_cases stamp m r with ⟨f, ha⟩ | ⟨found, -, ha⟩
      · rw [ha]
        rfl
      · have huuid : uuid = r.uuid := by
          cases htarget
          exact (hm uuid old hold).symm
        rw [ha, huuid, OrderedMap.get?_erase, if_pos rfl] at he
        cases he

theorem Sound.answered (h : Sound c) (stamp : Stamp) {call : StoreCall}
    (htarget : call.target? = c.handle.reference) : Sound (c.answered stamp call) where
  keyed := keyed_answer h.keyed stamp call
  stored uuid e he := mem_drawn_of_answer h stamp call he
  drawn := h.drawn.append_left _
  loyal := by rintro p ⟨⟩
  owns := by
    intro uuid hmade e he
    by_cases hnew : made? (stamp, call) = some uuid
    · exact kept_of_made hnew he _
    · have hold := (exists_of_get?_answer he).resolve_left hnew
      obtain ⟨old, hold, hreference⟩ := hold
      have hmem : uuid ∈ c.made := by
        rcases List.mem_append.mp hmade with hmade | hmade
        · exact absurd (Option.mem_toList.mp hmade) hnew
        · exact hmade
      have howned : c.handle.reference = some old.reference := h.owns uuid hmem old hold
      rw [howned] at htarget
      rw [hreference, ← kept_of_left h.keyed hold he htarget, ← howned]
      rfl

theorem Sound.disturbed (h : Sound c) (stamp : Stamp) (call : StoreCall)
    (hfresh : (c.disturbed stamp call).drawn.Nodup) : Sound (c.disturbed stamp call) where
  keyed := keyed_answer h.keyed stamp call
  stored uuid e he := mem_drawn_of_answer h stamp call he
  drawn := h.drawn.trans (List.sublist_append_right _ _)
  loyal := h.loyal
  owns := by
    intro uuid hmade e he
    rcases exists_of_get?_answer he with hnew | ⟨old, hold, hreference⟩
    · -- nobody draws the UUID of an entity of the handle again
      have hnodup : (uuid :: c.drawn).Nodup := by
        simpa [Situation.disturbed, hnew] using hfresh
      exact absurd (h.drawn.subset hmade) (List.nodup_cons.mp hnodup).1
    · rw [hreference]
      exact h.owns uuid hmade old hold

theorem fits_answer {m : MemoryStore} (hm : m.Keyed) (stamp : Stamp) (call : StoreCall) :
    Fits call (m.answer stamp call).1 := by
  cases call with
  | get r =>
      cases hl : m.lookup r with
      | error f =>
          rw [answer, hl]
          trivial
      | ok e =>
          rw [answer, hl]
          exact reference_of_lookup hm hl
  | create kind spec extension => trivial
  | updateSpec presented spec => trivial
  | updateStatus presented status => trivial
  | delete r => trivial

theorem Sound.step (h : Sound c) (x : Happening) (hfresh : (c.step x).drawn.Nodup) :
    Sound (c.step x) := by
  have hmoves := moves_step c x
  generalize c.step x = d at hmoves hfresh ⊢
  cases hmoves with
  | begun o hcurrent => exact h.settle (loyal_script c.handle o)
  | answered stamp call next hcurrent =>
      obtain ⟨htarget, -, hnext⟩ := h.loyal _ hcurrent
      exact (h.answered stamp htarget).settle (hnext _ (fits_answer h.keyed stamp call))
  | refused f call next hcurrent =>
      have hfailed : next (call.refuse f) = .done (.error f, c.handle) := (h.loyal _ hcurrent).2.1 f
      apply h.settle
      rw [hfailed]
      rfl
  | disturbed stamp call => exact h.disturbed stamp call hfresh
  | idle => exact h

theorem drawn_isSuffix_step (c : Situation) (x : Happening) : c.drawn <:+ (c.step x).drawn := by
  have hmoves := moves_step c x
  generalize c.step x = d at hmoves ⊢
  cases hmoves with
  | begun o hcurrent => exact (settle_drawn ..).symm ▸ List.suffix_refl _
  | answered stamp call next hcurrent =>
      rw [settle_drawn]
      exact List.suffix_append _ _
  | refused f call next hcurrent => exact (settle_drawn ..).symm ▸ List.suffix_refl _
  | disturbed stamp call => exact List.suffix_append _ _
  | idle => exact List.suffix_refl _

theorem drawn_isSuffix_run (c : Situation) (happenings : List Happening) :
    c.drawn <:+ (c.run happenings).drawn := by
  induction happenings generalizing c with
  | nil => exact List.suffix_refl _
  | cons x rest ih => exact (drawn_isSuffix_step c x).trans (ih (c.step x))

theorem Sound.run (h : Sound c) (happenings : List Happening)
    (hfresh : (c.run happenings).drawn.Nodup) : Sound (c.run happenings) := by
  induction happenings generalizing c with
  | nil => exact h
  | cons x rest ih =>
      have hstep : (c.step x).drawn.Nodup :=
        hfresh.sublist (drawn_isSuffix_run (c.step x) rest).sublist
      exact ih (h.step x hstep) hfresh

theorem sound_fresh {t : Task} : Sound { handle := t } where
  keyed := keyed_empty
  stored uuid e he := by cases he
  drawn := List.Sublist.refl _
  owns uuid hmem := by cases hmem
  loyal p hp := by cases hp

/-- The UUIDs of the entities that the handle has made and that are still in the store. -/
def left (c : Situation) : List String :=
  c.made.filter fun uuid => (c.store.entities.get? uuid).isSome

theorem left_of_sound (h : Sound c) (hfresh : c.drawn.Nodup) :
    c.left = [] ∨
      ∃ e, c.handle.reference = some e.reference ∧ c.store.Holds e ∧
        c.left = [e.metadata.uuid] := by
  cases hleft : c.left with
  | nil => exact .inl rfl
  | cons uuid rest =>
      have hmem : ∀ other ∈ c.left, ∃ e, c.handle.reference = some e.reference ∧ c.store.Holds e ∧
          e.metadata.uuid = other := by
        intro other hother
        obtain ⟨hmade, hstored⟩ := List.mem_filter.mp hother
        obtain ⟨e, he⟩ := Option.isSome_iff_exists.mp hstored
        have huuid := h.keyed other e he
        exact ⟨e, h.owns other hmade e he, by rw [Holds, huuid]; exact he, huuid⟩
      obtain ⟨e, hreference, hheld, rfl⟩ := hmem uuid (hleft ▸ List.mem_cons_self)
      refine .inr ⟨e, hreference, hheld, ?_⟩
      have hnodup : (e.metadata.uuid :: rest).Nodup := by
        rw [← hleft]
        exact (hfresh.sublist h.drawn).filter _
      cases rest with
      | nil => rfl
      | cons other rest =>
          obtain ⟨e', hreference', -, rfl⟩ :=
            hmem other (hleft ▸ List.mem_cons_of_mem _ List.mem_cons_self)
          rw [hreference, Option.some.injEq] at hreference'
          have hsame : e.metadata.uuid = e'.metadata.uuid := congrArg Reference.uuid hreference'
          simp [hsame] at hnodup

/-- A call that fails ends the operation and changes nothing else. -/
theorem step_fault (h : Sound c) (f : Failure) :
    c.step (.fault f) = { c with current := none } := by
  cases hcurrent : c.current with
  | none =>
      simp only [step, hcurrent]
      exact congrArg (fun p => { c with current := p }) hcurrent
  | some p =>
      obtain ⟨-, hfailed, -⟩ := h.loyal p hcurrent
      simp only [step, hcurrent]
      rw [hfailed]
      rfl

theorem answer_of_error {m : MemoryStore} {stamp : Stamp} {call : StoreCall} {f : Failure}
    (h : (m.answer stamp call).1 = .error f) :
    m.answer stamp call = (call.refuse f, m) ∧ made? (stamp, call) = none := by
  cases call with
  | create kind spec extension => cases h
  | get r => exact ⟨Prod.ext h rfl, rfl⟩
  | updateSpec presented spec =>
      rcases answer_updateSpec_cases stamp m presented spec with ⟨g, ha⟩ | ⟨e, -, -, ha⟩
      · rw [ha] at h ⊢
        exact ⟨Prod.ext h rfl, rfl⟩
      · rw [ha] at h
        cases h
  | updateStatus presented status =>
      rcases answer_updateStatus_cases stamp m presented status with ⟨g, ha⟩ | ⟨e, -, ha⟩
      · rw [ha] at h ⊢
        exact ⟨Prod.ext h rfl, rfl⟩
      · rw [ha] at h
        cases h
  | delete r =>
      rcases answer_delete_cases stamp m r with ⟨g, ha⟩ | ⟨e, -, ha⟩
      · rw [ha] at h ⊢
        exact ⟨Prod.ext h rfl, rfl⟩
      · rw [ha] at h
        cases h

/-- So does a call that the store refuses. -/
theorem step_call_of_error (h : Sound c) {p : Pending} (hp : c.current = some p) {stamp : Stamp}
    {f : Failure} (hf : (c.store.answer stamp p.call).1 = .error f) :
    c.step (.call stamp) = { c with current := none } := by
  obtain ⟨call, next⟩ := p
  obtain ⟨hanswer, hmade⟩ := answer_of_error hf
  have hfailed : next (call.refuse f) = .done (.error f, c.handle) := (h.loyal _ hp).2.1 f
  have hkept : Exchange.kept c.handle.reference ⟨call, call.refuse f⟩ = c.handle.reference := by
    cases call <;> rfl
  simp only [step, hp, hanswer, hfailed, answered, hmade, hkept, settle, Option.toList_none,
    List.nil_append]

/-- While the handle refers to an entity it makes no other one. -/
theorem made_step (h : Sound c) {r : Reference} (hr : c.handle.reference = some r)
    (x : Happening) : (c.step x).made = c.made := by
  have hmoves := moves_step c x
  generalize c.step x = d at hmoves ⊢
  cases hmoves with
  | begun o hcurrent => exact settle_made c _
  | answered stamp call next hcurrent =>
      obtain ⟨htarget, -, -⟩ := h.loyal _ hcurrent
      rw [settle_made]
      cases call with
      | create kind spec extension => rw [hr] at htarget; cases htarget
      | get r => rfl
      | updateSpec presented spec => rfl
      | updateStatus presented status => rfl
      | delete r => rfl
  | refused f call next hcurrent => exact settle_made c _
  | disturbed stamp call => rfl
  | idle => rfl

/-- A start of a task whose entity is in the store brings this entity into the running mode. -/
theorem run_begin_start (hcurrent : c.current = none) {e : Entity}
    (hr : c.handle.reference = some e.reference) (he : c.store.Holds e) (s₁ s₂ s₃ : Stamp) :
    c.run [.begin .start, .call s₁, .call s₂, .call s₃] =
      { c with store := c.store.put (entered e .running) } := by
  rcases c with ⟨store, ⟨name, extension, reference⟩, current, made, drawn⟩
  cases hcurrent
  cases hr
  let written := withSpec e (stateDocument Mode.running.specState)
  have hspec : store.answer s₂ (.updateSpec e.metadata (stateDocument Mode.running.specState)) =
      (.ok (), store.put written) :=
    answer_updateSpec_of_holds s₂ he rfl rfl _
  have hstatus : (store.put written).answer s₃
      (.updateStatus e.metadata (stateDocument Mode.running.statusState)) =
        (.ok (), (store.put written).put (entered e .running)) :=
    answer_updateStatus_of_holds s₃ (holds_put store written) rfl _
  simp [run, step, settle, answered, made?, Exchange.kept, Operation.script, Operation.silent,
    start, withEntity, enter, publish, Script.bind, answer_get_of_holds s₁ he, hspec, hstatus,
    put_put store written (entered e .running) rfl]

end Situation

/-- Whatever calls of its operations have failed and whatever others have done to the store, at most
one of the entities that a handle has made is left, and it is the one that the handle refers to. A
call that fails moves nothing, a handle that refers to an entity makes no other, and if this entity
is still there then a later start brings it into the running mode. -/
theorem left_of_run (name : String) (extension : Document) (happenings : List Happening)
    (hfresh : (Situation.run { handle := { name, extension } } happenings).drawn.Nodup) :
    let c := Situation.run { handle := { name, extension } } happenings
    (c.left = [] ∨
      ∃ e, c.handle.reference = some e.reference ∧ c.store.Holds e ∧
        c.left = [e.metadata.uuid]) ∧
    (∀ f, c.step (.fault f) = { c with current := none }) ∧
    (∀ p stamp f, c.current = some p → (c.store.answer stamp p.call).1 = .error f →
      c.step (.call stamp) = { c with current := none }) ∧
    (∀ r, c.handle.reference = some r → ∀ x, (c.step x).made = c.made) ∧
    ∀ e, c.handle.reference = some e.reference → c.store.Holds e →
      (entered e .running).mode? = some .running ∧
      ∀ f s₁ s₂ s₃, c.run [.fault f, .begin .start, .call s₁, .call s₂, .call s₃] =
        { c with store := c.store.put (entered e .running), current := none } := by
  intro c
  have hsound : c.Sound := Situation.sound_fresh.run happenings hfresh
  refine ⟨Situation.left_of_sound hsound hfresh, Situation.step_fault hsound, ?_, ?_, ?_⟩
  · intro p stamp f hp hf
    exact Situation.step_call_of_error hsound hp hf
  · intro r hr x
    exact Situation.made_step hsound hr x
  · intro e hr he
    refine ⟨mode?_entered e .running, ?_⟩
    intro f s₁ s₂ s₃
    rw [Situation.run, Situation.step_fault hsound f]
    exact Situation.run_begin_start (c := { c with current := none }) rfl hr he s₁ s₂ s₃

/-- The first start fails when it writes the status and a kill when it deletes the entity; the next
start completes what the first one has begun. -/
theorem left_of_run_interrupted :
    let happenings : List Happening :=
      [.begin .start, .call (.epoch "u"), .foreign (.epoch "v") (.create "other" {} {}),
        .fault .notRegistered, .begin .kill, .call (.epoch "")]
    let again : List Happening :=
      [.fault .notRegistered, .begin .start, .call (.epoch ""), .call (.epoch ""), .call (.epoch "")]
    let c := Situation.run { handle := { name := "heartbeat" } } happenings
    c.drawn.Nodup ∧ ∃ e, c.left = [e.metadata.uuid] ∧ e.reference = ⟨"u", "heartbeat"⟩ ∧
      c.run again = { c with store := c.store.put (entered e .running), current := none } := by
  intro happenings again c
  have hfresh : c.drawn.Nodup := by decide
  have hreference : c.handle.reference = some ⟨"u", "heartbeat"⟩ := by decide
  obtain ⟨hnone | ⟨e, howned, hheld, hleft⟩, -, -, -, hagain⟩ :=
    left_of_run "heartbeat" {} happenings hfresh
  · have hsome : c.left = ["u"] := by decide
    rw [hsome] at hnone
    cases hnone
  · refine ⟨hfresh, e, hleft, ?_, (hagain e howned hheld).2 _ _ _ _⟩
    exact Option.some.inj (howned.symm.trans hreference)

end IntentProvider.Task
