import IntentProvider.Proofs.Program.Exchange
import Mathlib.Logic.Function.Basic

/-!
Scripts that run side by side. A schedule says which of them comes next, and all put their questions
to one world. What each of them exchanges is a course of it alone, whatever the others do, and the
course of an interpreted script is made of courses of the interpretations of its questions.
-/

namespace IntentProvider

namespace Script

variable {Q Q' : Type} {A : Q → Type} {A' : Q' → Type} {α β : Type}

/-- What a script has exchanged when it has come to a script that is left of it. -/
inductive Course : Script Q A α → List (Exchange A) → Script Q A α → Prop where
  | start (s : Script Q A α) : Course s [] s
  | step {q : Q} {next : A q → Script Q A α} {log : List (Exchange A)} {rest : Script Q A α}
      (a : A q) (h : Course (next a) log rest) : Course (ask q next) (⟨q, a⟩ :: log) rest

theorem Course.concat {s rest : Script Q A α} {log : List (Exchange A)} {q : Q}
    {next : A q → Script Q A α} (h : Course s log rest) (hrest : rest = ask q next) (a : A q) :
    Course s (log ++ [⟨q, a⟩]) (next a) := by
  induction h with
  | start s =>
      subst hrest
      exact .step a (.start (next a))
  | step b h ih => exact .step b (ih hrest)

theorem Course.eq_nil_of_done {a : α} {rest : Script Q A α} {log : List (Exchange A)}
    (h : Course (done a) log rest) : log = [] := by
  cases h
  rfl

/-- The course of one script after another ends in the first one or in the second one. -/
theorem Course.cases_bind {s : Script Q A α} {f : α → Script Q A β} {log : List (Exchange A)}
    {rest : Script Q A β} (h : Course (s.bind f) log rest) :
    (∃ left, Course s log left) ∨
      ∃ first second a, log = first ++ second ∧ Course s first (done a) ∧
        Course (f a) second rest := by
  induction s generalizing log with
  | done a => exact .inr ⟨[], log, a, rfl, .start (done a), h⟩
  | ask q next ih =>
      cases h with
      | start => exact .inl ⟨ask q next, .start (ask q next)⟩
      | step b h =>
          rcases ih b h with ⟨left, hleft⟩ | ⟨first, second, a, rfl, hfirst, hsecond⟩
          · exact .inl ⟨left, .step b hleft⟩
          · exact .inr ⟨_ :: first, second, a, rfl, .step b hfirst, hsecond⟩

/-- The questions of a script so far, each with what its interpretation has exchanged. The last one
may be under way. -/
inductive Calls (f : (q : Q) → Script Q' A' (A q)) :
    Script Q A α → List (Q × List (Exchange A')) → Prop where
  | none (s : Script Q A α) : Calls f s []
  | current {q : Q} {log : List (Exchange A')} {left : Script Q' A' (A q)}
      (next : A q → Script Q A α) (h : Course (f q) log left) : Calls f (ask q next) [(q, log)]
  | answered {q : Q} {log : List (Exchange A')} {a : A q} {next : A q → Script Q A α}
      {calls : List (Q × List (Exchange A'))} (h : Course (f q) log (done a))
      (hrest : Calls f (next a) calls) : Calls f (ask q next) ((q, log) :: calls)

theorem Calls.exists_course {f : (q : Q) → Script Q' A' (A q)} {s : Script Q A α}
    {calls : List (Q × List (Exchange A'))} (h : Calls f s calls) :
    ∀ call ∈ calls, ∃ left, Course (f call.1) call.2 left := by
  induction h with
  | none s => simp
  | current next h =>
      intro call hcall
      rw [List.mem_singleton.mp hcall]
      exact ⟨_, h⟩
  | answered h hrest ih =>
      intro call hcall
      rcases List.mem_cons.mp hcall with rfl | hcall
      · exact ⟨_, h⟩
      · exact ih call hcall

/-- The course of an interpreted script is made of the courses of its questions. -/
theorem Course.exists_calls {f : (q : Q) → Script Q' A' (A q)} {s : Script Q A α}
    {log : List (Exchange A')} {rest : Script Q' A' α} (h : Course (interpret f s) log rest) :
    ∃ calls, Calls f s calls ∧ log = calls.flatMap (·.2) := by
  induction s generalizing log with
  | done a => exact ⟨[], .none (done a), h.eq_nil_of_done⟩
  | ask q next ih =>
      rcases Course.cases_bind h with ⟨left, hleft⟩ | ⟨first, second, a, rfl, hfirst, hsecond⟩
      · exact ⟨[(q, log)], .current next hleft, by simp⟩
      · obtain ⟨calls, hcalls, rfl⟩ := ih a hsecond
        exact ⟨(q, first) :: calls, .answered hfirst hcalls, rfl⟩

/-- All questions that a script can put, whatever the answers, are of some sort. -/
inductive Always (P : Q → Prop) : Script Q A α → Prop where
  | done (a : α) : Always P (done a)
  | ask {q : Q} {next : A q → Script Q A α} (h : P q) (hnext : ∀ a, Always P (next a)) :
      Always P (ask q next)

namespace Always

variable {P : Q → Prop}

theorem question {q : Q} (h : P q) : Always P (question q : Script Q A (A q)) :=
  .ask h fun a => .done a

theorem mono {P' : Q → Prop} {s : Script Q A α} (h : Always P s) (hP : ∀ q, P q → P' q) :
    Always P' s := by
  induction h with
  | done a => exact .done a
  | ask h hnext ih => exact .ask (hP _ h) ih

theorem bind {s : Script Q A α} {f : α → Script Q A β} (h : Always P s)
    (hf : ∀ a, Always P (f a)) : Always P (s.bind f) := by
  induction h with
  | done a => exact hf a
  | ask h hnext ih => exact .ask h ih

theorem interpret {P : Q' → Prop} {f : (q : Q) → Script Q' A' (A q)} (hf : ∀ q, Always P (f q))
    (s : Script Q A α) : Always P (interpret f s) := by
  induction s with
  | done a => exact .done a
  | ask q next ih => exact (hf q).bind ih

theorem of_course {s rest : Script Q A α} {log : List (Exchange A)} (h : Always P s)
    (hcourse : Course s log rest) : ∀ e ∈ log, P e.question := by
  induction hcourse with
  | start s => simp
  | step a hcourse ih =>
      cases h with
      | ask hq hnext =>
          intro e he
          rcases List.mem_cons.mp he with rfl | he
          · exact hq
          · exact ih (hnext a) e he

end Always

end Script

/-- Scripts that run side by side, with the state of the world and what they have exchanged. -/
structure Concurrent {Q : Type} (A : Q → Type) {ι : Type} (R : ι → Type) (σ : Type) where
  threads : (i : ι) → Script Q A (R i)
  world : σ
  log : List (ι × Exchange A) := []

namespace Concurrent

variable {Q : Type} {A : Q → Type} {ι : Type} [DecidableEq ι] {R : ι → Type} {σ : Type}

def advance (answer : (q : Q) → σ → A q × σ) (s : Concurrent A R σ) (i : ι) : Concurrent A R σ :=
  match s.threads i with
  | .done _ => s
  | .ask q next =>
      let (a, world) := answer q s.world
      { threads := Function.update s.threads i (next a)
        world := world
        log := s.log ++ [(i, ⟨q, a⟩)] }

def run (answer : (q : Q) → σ → A q × σ) (schedule : List ι) (s : Concurrent A R σ) :
    Concurrent A R σ :=
  schedule.foldl (advance answer) s

def logOf (s : Concurrent A R σ) (i : ι) : List (Exchange A) :=
  (s.log.filter fun entry => entry.1 = i).map (·.2)

/-- Every script has come as far as its own exchanges say. -/
def Apart (start : (i : ι) → Script Q A (R i)) (s : Concurrent A R σ) : Prop :=
  ∀ i, (start i).Course (s.logOf i) (s.threads i)

theorem apart_advance {start : (i : ι) → Script Q A (R i)} {s : Concurrent A R σ}
    (h : s.Apart start) (answer : (q : Q) → σ → A q × σ) (i : ι) :
    (s.advance answer i).Apart start := by
  unfold advance
  split
  · exact h
  · rename_i q next hi
    intro j
    -- the one that comes next goes one question further, the others stay where they are
    by_cases hj : i = j
    · subst hj
      have hcourse := (h i).concat hi (answer q s.world).1
      simpa [logOf, List.filter_append] using hcourse
    · have hcourse := h j
      simpa [logOf, List.filter_append, hj, Function.update_of_ne (Ne.symm hj)] using hcourse

/-- Whatever the schedule, what a script exchanges is a course of it alone. -/
theorem apart_run {start : (i : ι) → Script Q A (R i)} {s : Concurrent A R σ}
    (h : s.Apart start) (answer : (q : Q) → σ → A q × σ) (schedule : List ι) :
    (s.run answer schedule).Apart start := by
  induction schedule generalizing s with
  | nil => exact h
  | cons i schedule ih => exact ih (apart_advance h answer i)

theorem apart_start (start : (i : ι) → Script Q A (R i)) (x : σ) :
    (Concurrent.mk start x []).Apart start :=
  fun i => .start (start i)

end Concurrent

end IntentProvider
