import IntentProvider.Proofs.Task.Operation

/-!
Transitions of one task by several parties. Each party carries out its transitions one after the
other, and their calls to the store interleave in any order. The version of the entity guards the
spec alone: a transition that has lost the race for the spec fails, but one that has won it may
still be overtaken before it writes the status. The log of the calls that the store has accepted
tells which of the two has happened.
-/

namespace IntentProvider.Task

open IntentProvider.Json
open IntentProvider.MemoryStore

def transition (t : Task) : Mode → StoreScript (Outcome Unit)
  | .running => t.start
  | .idle => t.stop

inductive Part where
  | read
  | spec
  | status
  deriving DecidableEq

/-- A part of a party's transition to a mode that the store has accepted. -/
structure Entry (ι : Type) where
  party : ι
  part : Part
  mode : Mode

/-- A party that moves a task: its handle, what is left of the transition in progress, and the
modes to which it will move the task then. -/
structure Party where
  handle : Task
  current : Option (Mode × StoreScript (Outcome Unit)) := none
  pending : List Mode

/-- Parties at work on one store, with the failures so far and the log, whose newest entry comes
first. -/
structure Race (ι : Type) where
  store : MemoryStore
  parties : ι → Party
  failures : List Failure := []
  log : List (Entry ι) := []

namespace Party

def next? (p : Party) : Option (Mode × StoreScript (Outcome Unit) × List Mode) :=
  match p.current with
  | some (mode, script) => some (mode, script, p.pending)
  | none =>
      match p.pending with
      | [] => none
      | mode :: rest => some (mode, transition p.handle mode, rest)

def settle (p : Party) (mode : Mode) (pending : List Mode) : StoreScript (Outcome Unit) → Party
  | .done (_, handle) => { handle, pending }
  | script => { p with current := some (mode, script), pending }

end Party

def failure? : StoreScript (Outcome Unit) → Option Failure
  | .done (.error f, _) => some f
  | _ => none

def accepted? : (call : StoreCall) → call.Answer → Option Part
  | .get _, .ok _ => some .read
  | .updateSpec .., .ok _ => some .spec
  | .updateStatus .., .ok _ => some .status
  | _, _ => none

namespace Race

variable {ι : Type} [DecidableEq ι]

def place (c : Race ι) (i : ι) (p : Party) : Race ι :=
  { c with parties := fun j => if j = i then p else c.parties j }

def accept (c : Race ι) (i : ι) (p : Party) (store : MemoryStore) (a : Entry ι) : Race ι :=
  { c.place i p with store, log := a :: c.log }

def fail (c : Race ι) (i : ι) (p : Party) (f : Failure) : Race ι :=
  { c.place i p with failures := c.failures ++ [f] }

def step (c : Race ι) (i : ι) (stamp : Stamp) : Race ι :=
  match (c.parties i).next? with
  | none => c
  | some (mode, .ask call next, pending) =>
      let answer := c.store.answer stamp call
      let rest := next answer.1
      { c.place i ((c.parties i).settle mode pending rest) with
        store := answer.2
        failures := c.failures ++ (failure? rest).toList
        log := (accepted? call answer.1).toList.map (⟨i, ·, mode⟩) ++ c.log }
  | some (mode, .done outcome, pending) =>
      { c.place i ((c.parties i).settle mode pending (.done outcome)) with
        failures := c.failures ++ (failure? (.done outcome)).toList }

def run (c : Race ι) : List (ι × Stamp) → Race ι
  | [] => c
  | (i, stamp) :: rest => (c.step i stamp).run rest

def Quiet (c : Race ι) : Prop :=
  ∀ i, (c.parties i).current = none

/-- All parties have handles of an entity in a mode, and nothing has happened yet. -/
structure Ready (c : Race ι) (e : Entity) (mode : Mode) : Prop where
  held : c.store.Holds e
  inMode : e.mode? = some mode
  handles : ∀ i, (c.parties i).handle.reference = some e.reference
  quiet : c.Quiet
  noFailure : c.failures = []
  noEntry : c.log = []

end Race

section Log

variable {ι : Type}

/-- The mode that a part of the entity has stated since it was written last, or the one before all
entries. -/
def lastMode (initial : Mode) (part : Part) (log : List (Entry ι)) : Mode :=
  ((log.find? (·.part = part)).map (·.mode)).getD initial

/-- Between the spec of a transition and its status nobody else writes the spec. -/
def Separate : List (Entry ι) → Prop
  | [] => True
  | a :: before =>
      (a.part = .status → (before.find? (·.part = .spec)).map (·.party) = some a.party) ∧
        Separate before

theorem lastMode_cons_of_ne (initial : Mode) {part : Part} {a : Entry ι} (h : a.part ≠ part)
    (log : List (Entry ι)) : lastMode initial part (a :: log) = lastMode initial part log := by
  simp [lastMode, h]

theorem lastMode_cons_self (initial : Mode) (a : Entry ι) (log : List (Entry ι)) :
    lastMode initial a.part (a :: log) = a.mode := by
  simp [lastMode]

variable [DecidableEq ι]

def lastOf? (i : ι) (log : List (Entry ι)) : Option (Entry ι) :=
  log.find? (·.party = i)

/-- The number of writes of the spec since a party has read the entity. -/
def specsSince (i : ι) : List (Entry ι) → Nat
  | [] => 0
  | a :: before =>
      if a.party = i ∧ a.part = .read then 0
      else if a.part = .spec then specsSince i before + 1
      else specsSince i before

/-- Every write of the spec comes from a party that has read the spec it replaces. -/
def Guarded : List (Entry ι) → Prop
  | [] => True
  | a :: before => (a.part = .spec → specsSince a.party before = 0) ∧ Guarded before

/-- An entry can come after the last one of its party. -/
def Follows (a : Entry ι) (last : Option (Entry ι)) : Prop :=
  match a.part with
  | .read => ∀ b, last = some b → b.part ≠ .spec
  | .spec => last = some ⟨a.party, .read, a.mode⟩
  | .status => last = some ⟨a.party, .spec, a.mode⟩

/-- Every entry follows on the part of the same transition that goes before. -/
def Orderly : List (Entry ι) → Prop
  | [] => True
  | a :: before => Follows a (lastOf? a.party before) ∧ Orderly before

theorem lastOf?_cons_self (a : Entry ι) (log : List (Entry ι)) :
    lastOf? a.party (a :: log) = some a := by
  simp [lastOf?]

theorem lastOf?_cons_of_ne {i : ι} {a : Entry ι} (h : a.party ≠ i) (log : List (Entry ι)) :
    lastOf? i (a :: log) = lastOf? i log := by
  simp [lastOf?, h]

theorem specsSince_le_length (i : ι) (log : List (Entry ι)) : specsSince i log ≤ log.length := by
  induction log with
  | nil => exact Nat.le_refl 0
  | cons a before ih =>
      rw [specsSince, List.length_cons]
      split
      · exact Nat.zero_le _
      · split
        · exact Nat.succ_le_succ ih
        · exact Nat.le_succ_of_le ih

/-- If the last entry of a party is a spec and the last spec is the party's, they are the same
entry. -/
theorem find?_spec_eq_lastOf? {i : ι} {log : List (Entry ι)} {a b : Entry ι}
    (ha : log.find? (·.part = .spec) = some a) (hai : a.party = i)
    (hb : lastOf? i log = some b) (hbs : b.part = .spec) : a = b := by
  induction log with
  | nil => cases ha
  | cons x before ih =>
      by_cases hspec : x.part = .spec
      · simp only [List.find?_cons, hspec, decide_true, Option.some.injEq] at ha
        subst ha hai
        rw [lastOf?_cons_self] at hb
        exact Option.some.inj hb
      · by_cases hparty : x.party = i
        · subst hparty
          rw [lastOf?_cons_self] at hb
          rw [← Option.some.inj hb] at hbs
          exact absurd hbs hspec
        · rw [lastOf?_cons_of_ne hparty] at hb
          simp only [List.find?_cons, hspec, decide_false] at ha
          exact ih ha hb

theorem lastMode_eq_of_separate (initial : Mode) {log : List (Entry ι)} (ho : Orderly log)
    (hs : Separate log) (hend : ∀ i a, lastOf? i log = some a → a.part ≠ .spec) :
    lastMode initial .spec log = lastMode initial .status log := by
  induction log with
  | nil => rfl
  | cons a before ih =>
      rcases ho with ⟨hfollows, ho⟩
      rcases hs with ⟨hseparate, hs⟩
      rcases a with ⟨party, part, mode⟩
      cases part with
      | read =>
          rw [lastMode_cons_of_ne initial (by simp), lastMode_cons_of_ne initial (by simp)]
          apply ih ho hs
          intro i b hb
          by_cases hi : party = i
          · subst hi
            exact hfollows b hb
          · exact hend i b ((lastOf?_cons_of_ne hi before).trans hb)
      | spec =>
          exact absurd rfl (hend party _ (lastOf?_cons_self _ before))
      | status =>
          -- the spec written last is the party's own, hence that of this very transition
          have hspec := hseparate rfl
          rw [Option.map_eq_some_iff] at hspec
          obtain ⟨b, hb, hparty⟩ := hspec
          have hsame : b = ⟨party, .spec, mode⟩ := find?_spec_eq_lastOf? hb hparty hfollows rfl
          subst hsame
          simp [lastMode, hb]

end Log

variable {ι : Type} [DecidableEq ι]

/-- How far a party has come with its transition of an entity, by its entries in the log. -/
inductive Stage (e : Entity) (i : ι) (log : List (Entry ι)) (t : Task) :
    Option (Mode × StoreScript (Outcome Unit)) → Prop where
  | resting (hlast : ∀ a, lastOf? i log = some a → a.part ≠ .spec) : Stage e i log t none
  | deciding (mode : Mode) (read : Entity) (hread : read.reference = e.reference)
      (hversion : e.metadata.specVersion =
        read.metadata.specVersion + UInt64.ofNat (specsSince i log))
      (hlast : lastOf? i log = some ⟨i, .read, mode⟩) :
      Stage e i log t (some (mode, t.enter read mode))
  | publishing (mode : Mode) (read : Entity) (hread : read.reference = e.reference)
      (hlast : lastOf? i log = some ⟨i, .spec, mode⟩) :
      Stage e i log t (some (mode, t.publish read (stateDocument mode.statusState)))

/-- What a moment of a race says about the entity that the parties move. -/
structure Sound (initial : Mode) (c : Race ι) (e : Entity) : Prop where
  held : c.store.Holds e
  spec : state? e.spec = some (lastMode initial .spec c.log).specState
  status : state? e.status = some (lastMode initial .status c.log).statusState
  handles : ∀ i, (c.parties i).handle.reference = some e.reference
  stages : ∀ i, Stage e i c.log (c.parties i).handle (c.parties i).current
  orderly : Orderly c.log
  guarded : c.log.length < UInt64.size → Guarded c.log
  conflicts : ∀ f ∈ c.failures, ∃ text, f = .versionConflict e.metadata.uuid text

theorem mode?_isSome_iff {e : Entity} {wanted observed : Mode}
    (hspec : state? e.spec = some wanted.specState)
    (hstatus : state? e.status = some observed.statusState) :
    e.mode?.isSome ↔ wanted = observed := by
  rw [Entity.mode?, hspec, hstatus]
  change (Mode.ofStates? wanted.specState observed.statusState).isSome ↔ _
  cases wanted <;> cases observed <;> decide

theorem states_of_mode? {e : Entity} {mode : Mode} (h : e.mode? = some mode) :
    state? e.spec = some mode.specState ∧ state? e.status = some mode.statusState := by
  simp only [Entity.mode?, Option.bind_eq_bind, Option.bind_eq_some_iff] at h
  obtain ⟨wanted, hspec, observed, hstatus, hmode⟩ := h
  have hagree := List.find?_some hmode
  rw [Bool.and_eq_true, beq_iff_eq, beq_iff_eq] at hagree
  rw [hspec, hstatus, hagree.1, hagree.2]
  exact ⟨rfl, rfl⟩

theorem stage_cons {e e' : Entity} {i : ι} {log : List (Entry ι)} {t : Task}
    {current : Option (Mode × StoreScript (Outcome Unit))} (h : Stage e i log t current)
    {a : Entry ι} (ha : a.party ≠ i) (hreference : e'.reference = e.reference)
    (hversion : e'.metadata.specVersion =
      e.metadata.specVersion + if a.part = .spec then 1 else 0) :
    Stage e' i (a :: log) t current := by
  have hlastOf : lastOf? i (a :: log) = lastOf? i log := lastOf?_cons_of_ne ha log
  cases h with
  | resting hlast =>
      apply Stage.resting
      rw [hlastOf]
      exact hlast
  | deciding mode read hread hold hlast =>
      apply Stage.deciding mode read (hread.trans hreference.symm) ?_ (hlastOf.trans hlast)
      have hother : ¬ (a.party = i ∧ a.part = .read) := fun h => ha h.1
      rw [hversion, hold, specsSince, if_neg hother]
      split
      · rw [UInt64.ofNat_add, UInt64.add_assoc]
        rfl
      · rw [UInt64.add_zero]
  | publishing mode read hread hlast =>
      exact Stage.publishing mode read (hread.trans hreference.symm) (hlastOf.trans hlast)

section Step

variable {initial : Mode} {c : Race ι} {e e' : Entity} {i : ι} {p : Party}

/-- A party gets an entry into the log and goes on in another state; the store now holds another
entity of the same identity. -/
theorem sound_entry (h : Sound initial c e) {a : Entry ι} (ha : a.party = i) {m : MemoryStore}
    (hheld : m.Holds e') (hreference : e'.reference = e.reference)
    (hversion : e'.metadata.specVersion =
      e.metadata.specVersion + if a.part = .spec then 1 else 0)
    (hspec : state? e'.spec = some (lastMode initial .spec (a :: c.log)).specState)
    (hstatus : state? e'.status = some (lastMode initial .status (a :: c.log)).statusState)
    (hhandle : p.handle = (c.parties i).handle)
    (hstage : Stage e' i (a :: c.log) p.handle p.current)
    (hfollows : Follows a (lastOf? i c.log))
    (hguarded : a.part = .spec → c.log.length < UInt64.size → specsSince i c.log = 0) :
    Sound initial (c.accept i p m a) e' := by
  subst ha
  refine
    { held := hheld, spec := hspec, status := hstatus, handles := ?_, stages := ?_
      orderly := ⟨hfollows, h.orderly⟩, guarded := ?_, conflicts := ?_ }
  · intro j
    rw [hreference]
    change (if j = a.party then p else c.parties j).handle.reference = some e.reference
    split
    · rw [hhandle]
      exact h.handles a.party
    · exact h.handles j
  · intro j
    change Stage e' j (a :: c.log) (if j = a.party then p else c.parties j).handle
      (if j = a.party then p else c.parties j).current
    split
    · rename_i hj
      subst hj
      exact hstage
    · rename_i hj
      exact stage_cons (h.stages j) (Ne.symm hj) hreference hversion
  · intro hlength
    have hshorter : c.log.length < UInt64.size := Nat.lt_of_succ_lt hlength
    exact ⟨fun hpart => hguarded hpart hshorter, h.guarded hshorter⟩
  · intro f hf
    have huuid : e'.metadata.uuid = e.metadata.uuid := congrArg Reference.uuid hreference
    rw [huuid]
    exact h.conflicts f hf

theorem sound_conflict (h : Sound initial c e) (hhandle : p.handle = (c.parties i).handle)
    (hcurrent : p.current = none) (hlast : ∀ a, lastOf? i c.log = some a → a.part ≠ .spec)
    (text : String) :
    Sound initial (c.fail i p (.versionConflict e.metadata.uuid text)) e := by
  refine
    { held := h.held, spec := h.spec, status := h.status, handles := ?_, stages := ?_
      orderly := h.orderly, guarded := h.guarded, conflicts := ?_ }
  · intro j
    change (if j = i then p else c.parties j).handle.reference = some e.reference
    split
    · rw [hhandle]
      exact h.handles i
    · exact h.handles j
  · intro j
    change Stage e j c.log (if j = i then p else c.parties j).handle
      (if j = i then p else c.parties j).current
    split
    · rename_i hj
      subst hj
      rw [hcurrent]
      exact .resting hlast
    · exact h.stages j
  · intro f hf
    rcases List.mem_append.mp hf with hf | hf
    · exact h.conflicts f hf
    · exact ⟨text, List.mem_singleton.mp hf⟩

theorem transition_eq_withEntity {t : Task} {r : Reference} (hr : t.reference = some r)
    (mode : Mode) : ∃ operation,
      transition t mode = t.withEntity operation fun e => t.enter e mode := by
  cases mode with
  | running => exact ⟨"start", start_eq_withEntity hr⟩
  | idle => exact ⟨"stop", rfl⟩

theorem sound_read (h : Sound initial c e)
    (hlast : ∀ a, lastOf? i c.log = some a → a.part ≠ .spec) {mode : Mode} {rest : List Mode}
    (hnext : (c.parties i).next? = some (mode, transition (c.parties i).handle mode, rest))
    (stamp : Stamp) : Sound initial (c.step i stamp) e := by
  obtain ⟨operation, htransition⟩ := transition_eq_withEntity (h.handles i) mode
  rw [htransition, withEntity, h.handles i] at hnext
  have hstep : c.step i stamp =
      c.accept i ⟨(c.parties i).handle, some (mode, (c.parties i).handle.enter e mode), rest⟩
        c.store ⟨i, .read, mode⟩ := by
    simp only [Race.step, hnext, answer_get_of_holds stamp h.held]
    simp [Race.accept, Race.place, enter, Party.settle, failure?, accepted?]
  rw [hstep]
  refine sound_entry h (a := ⟨i, .read, mode⟩) rfl h.held rfl ?_ ?_ ?_ rfl ?_ hlast ?_
  · exact (UInt64.add_zero _).symm
  · rw [lastMode_cons_of_ne initial (by simp)]
    exact h.spec
  · rw [lastMode_cons_of_ne initial (by simp)]
    exact h.status
  · apply Stage.deciding mode e rfl
    · simp [specsSince]
    · exact lastOf?_cons_self _ _
  · intro hpart
    cases hpart

/-- A party whose transition has read the entity writes the spec, or fails because somebody else
has written it. -/
theorem sound_decide (h : Sound initial c e) {mode : Mode} {read : Entity}
    (hread : read.reference = e.reference)
    (hversion : e.metadata.specVersion =
      read.metadata.specVersion + UInt64.ofNat (specsSince i c.log))
    (hlast : lastOf? i c.log = some ⟨i, .read, mode⟩)
    (hcurrent : (c.parties i).current = some (mode, (c.parties i).handle.enter read mode))
    (stamp : Stamp) : ∃ e', e'.reference = e.reference ∧ Sound initial (c.step i stamp) e' := by
  by_cases hv : read.metadata.specVersion = e.metadata.specVersion
  · let written := withSpec e (stateDocument mode.specState)
    have hstep : c.step i stamp =
        c.accept i
          ⟨(c.parties i).handle,
            some (mode, (c.parties i).handle.publish read (stateDocument mode.statusState)),
            (c.parties i).pending⟩
          (c.store.put written) ⟨i, .spec, mode⟩ := by
      simp only [Race.step, Party.next?, hcurrent, enter,
        answer_updateSpec_of_holds stamp h.held hread hv]
      simp [Race.accept, Race.place, publish, Party.settle, failure?, accepted?, written]
    refine ⟨written, rfl, ?_⟩
    rw [hstep]
    refine sound_entry h (a := ⟨i, .spec, mode⟩) rfl (holds_put c.store written) rfl rfl ?_ ?_ rfl
      ?_ hlast ?_
    · rw [lastMode_cons_self initial ⟨i, .spec, mode⟩]
      exact state?_stateDocument _
    · rw [lastMode_cons_of_ne initial (by simp)]
      exact h.status
    · exact Stage.publishing mode read hread (lastOf?_cons_self _ _)
    · intro _ hlength
      -- the version that was read is current again, so it has been raised by a multiple of 2 to 64
      have hzero : UInt64.ofNat (specsSince i c.log) = 0 := by
        rw [hv] at hversion
        exact UInt64.left_eq_add.mp hversion
      have hless : specsSince i c.log < UInt64.size :=
        Nat.lt_of_le_of_lt (specsSince_le_length i c.log) hlength
      rw [← UInt64.toNat_ofNat_of_lt' hless, hzero]
      rfl
  · have hstep : c.step i stamp =
        c.fail i ⟨(c.parties i).handle, none, (c.parties i).pending⟩
          (.versionConflict e.metadata.uuid
            (staleText read.metadata.specVersion e.metadata.specVersion)) := by
      have huuid : read.metadata.uuid = e.metadata.uuid := congrArg Reference.uuid hread
      simp only [Race.step, Party.next?, hcurrent, enter,
        answer_updateSpec_of_stale stamp h.held hread hv]
      simp [Race.fail, Race.place, Party.settle, failure?, accepted?, huuid]
    refine ⟨e, rfl, ?_⟩
    rw [hstep]
    refine sound_conflict h (p := ⟨(c.parties i).handle, none, (c.parties i).pending⟩) rfl rfl ?_ _
    intro a ha
    rw [hlast] at ha
    cases ha
    simp

/-- A party whose transition has written the spec writes the status, whatever the others do. -/
theorem sound_publish (h : Sound initial c e) {mode : Mode} {read : Entity}
    (hread : read.reference = e.reference)
    (hlast : lastOf? i c.log = some ⟨i, .spec, mode⟩)
    (hcurrent : (c.parties i).current =
      some (mode, (c.parties i).handle.publish read (stateDocument mode.statusState)))
    (stamp : Stamp) : ∃ e', e'.reference = e.reference ∧ Sound initial (c.step i stamp) e' := by
  let written := withStatus e (stateDocument mode.statusState)
  have hstep : c.step i stamp =
      c.accept i ⟨(c.parties i).handle, none, (c.parties i).pending⟩ (c.store.put written)
        ⟨i, .status, mode⟩ := by
    simp only [Race.step, Party.next?, hcurrent, publish,
      answer_updateStatus_of_holds stamp h.held hread]
    simp [Race.accept, Race.place, Party.settle, failure?, accepted?, written]
  refine ⟨written, rfl, ?_⟩
  rw [hstep]
  refine sound_entry h (a := ⟨i, .status, mode⟩) rfl (holds_put c.store written) rfl ?_ ?_ ?_ rfl
    ?_ hlast ?_
  · exact (UInt64.add_zero _).symm
  · rw [lastMode_cons_of_ne initial (by simp)]
    exact h.spec
  · rw [lastMode_cons_self initial ⟨i, .status, mode⟩]
    exact state?_merge_stateDocument _ _
  · apply Stage.resting
    intro a ha
    rw [lastOf?_cons_self ⟨i, .status, mode⟩] at ha
    cases ha
    simp
  · intro hpart
    cases hpart

theorem sound_step (h : Sound initial c e) (i : ι) (stamp : Stamp) :
    ∃ e', e'.reference = e.reference ∧ Sound initial (c.step i stamp) e' := by
  have hstage := h.stages i
  generalize hcurrent : (c.parties i).current = current at hstage
  cases hstage with
  | resting hlast =>
      cases hpending : (c.parties i).pending with
      | nil =>
          have hstep : c.step i stamp = c := by
            simp only [Race.step, Party.next?, hcurrent, hpending]
          rw [hstep]
          exact ⟨e, rfl, h⟩
      | cons mode rest =>
          have hnext : (c.parties i).next? =
              some (mode, transition (c.parties i).handle mode, rest) := by
            simp only [Party.next?, hcurrent, hpending]
          exact ⟨e, rfl, sound_read h hlast hnext stamp⟩
  | deciding mode read hread hversion hlast =>
      exact sound_decide h hread hversion hlast hcurrent stamp
  | publishing mode read hread hlast => exact sound_publish h hread hlast hcurrent stamp

end Step

theorem sound_of_ready {initial : Mode} {c : Race ι} {e : Entity} (h : c.Ready e initial) :
    Sound initial c e where
  held := h.held
  spec := by
    rw [h.noEntry]
    exact (states_of_mode? h.inMode).1
  status := by
    rw [h.noEntry]
    exact (states_of_mode? h.inMode).2
  handles := h.handles
  stages i := by
    rw [h.quiet i, h.noEntry]
    exact .resting fun a ha => nomatch ha
  orderly := by
    rw [h.noEntry]
    trivial
  guarded _ := by
    rw [h.noEntry]
    trivial
  conflicts f hf := by
    rw [h.noFailure] at hf
    cases hf

theorem sound_run {initial : Mode} {c : Race ι} {e : Entity} (h : Sound initial c e)
    (schedule : List (ι × Stamp)) :
    ∃ e', e'.reference = e.reference ∧ Sound initial (c.run schedule) e' := by
  induction schedule generalizing c e with
  | nil => exact ⟨e, rfl, h⟩
  | cons turn rest ih =>
      rcases turn with ⟨i, stamp⟩
      obtain ⟨e₁, hreference₁, h₁⟩ := sound_step h i stamp
      obtain ⟨e₂, hreference₂, h₂⟩ := ih h₁
      exact ⟨e₂, hreference₂.trans hreference₁, h₂⟩

theorem part_ne_spec_of_quiet {initial : Mode} {c : Race ι} {e : Entity} (h : Sound initial c e)
    (hquiet : c.Quiet) (i : ι) (a : Entry ι) (ha : lastOf? i c.log = some a) : a.part ≠ .spec := by
  have hstage := h.stages i
  rw [hquiet i] at hstage
  cases hstage with
  | resting hlast => exact hlast a ha

/-- At every moment the halves of the entity agree just when the spec and the status that were
written last state the same mode. At a quiet moment they do so if every transition that has written
the spec has also written its status before the spec was written again; but the version of the
entity makes sure only that every transition has replaced the spec which it has read. A transition
that fails does so in a conflict of versions. -/
theorem agreement_of_run {initial : Mode} {c : Race ι} {e : Entity} (h : c.Ready e initial)
    (schedule : List (ι × Stamp)) :
    ∃ e', (c.run schedule).store.lookup e.reference = .ok e' ∧
      (e'.mode?.isSome ↔
        lastMode initial .spec (c.run schedule).log =
          lastMode initial .status (c.run schedule).log) ∧
      ((c.run schedule).Quiet → Separate (c.run schedule).log → e'.mode?.isSome) ∧
      ((c.run schedule).log.length < UInt64.size → Guarded (c.run schedule).log) ∧
      ∀ f ∈ (c.run schedule).failures, ∃ text, f = .versionConflict e.metadata.uuid text := by
  obtain ⟨e', hreference, hsound⟩ := sound_run (sound_of_ready h) schedule
  have hagree := mode?_isSome_iff hsound.spec hsound.status
  refine ⟨e', ?_, hagree, ?_, hsound.guarded, ?_⟩
  · rw [← hreference]
    exact lookup_of_holds hsound.held
  · intro hquiet hseparate
    rw [hagree]
    exact lastMode_eq_of_separate initial hsound.orderly hseparate
      (part_ne_spec_of_quiet hsound hquiet)
  · have huuid : e'.metadata.uuid = e.metadata.uuid := congrArg Reference.uuid hreference
    rw [← huuid]
    exact hsound.conflicts

def runningEntity : Entity :=
  withStatus (newEntity (.epoch "u") "task" (stateDocument Mode.running.specState) {})
    (stateDocument Mode.running.statusState)

/-- One party starts a running task and another one stops it. -/
def contest : Race Bool where
  store := MemoryStore.put {} runningEntity
  parties starts :=
    { handle := { name := "task", reference := some runningEntity.reference }
      pending := [if starts then .running else .idle] }

theorem contest_ready : contest.Ready runningEntity .running where
  held := holds_put {} runningEntity
  inMode := by decide
  handles _ := rfl
  quiet _ := rfl
  noFailure := rfl
  noEntry := rfl

def turns (parties : List Bool) : List (Bool × Stamp) :=
  parties.map fun starts => (starts, .epoch "")

theorem agreement_of_run_conflict :
    contest.Ready runningEntity .running ∧
      ∃ e, (contest.run (turns [true, false, false, true, false])).store.lookup
          runningEntity.reference = .ok e ∧ e.mode?.isSome := by
  obtain ⟨e, hlookup, hagree, -, -, -⟩ :=
    agreement_of_run contest_ready (turns [true, false, false, true, false])
  exact ⟨contest_ready, e, hlookup, hagree.mpr (by decide)⟩

/-- The party that stops the task writes the spec first and the status last, and nobody fails. -/
theorem disagreement_when_overtaken :
    ¬ ∀ (c : Race Bool) (e : Entity) (mode : Mode), c.Ready e mode →
      ∀ schedule, (c.run schedule).Quiet → (c.run schedule).failures = [] →
        ∃ e', (c.run schedule).store.lookup e.reference = .ok e' ∧ e'.mode?.isSome := by
  intro h
  obtain ⟨e, hlookup, hmode⟩ :=
    h contest runningEntity .running contest_ready
      (turns [false, false, true, true, true, false])
      (fun starts => by cases starts <;> rfl) (by decide)
  have hnone : ((contest.run (turns [false, false, true, true, true, false])).store.lookup
      runningEntity.reference).toOption.bind Entity.mode? = none := by decide
  rw [hlookup] at hnone
  change e.mode? = none at hnone
  rw [hnone] at hmode
  cases hmode

end IntentProvider.Task
