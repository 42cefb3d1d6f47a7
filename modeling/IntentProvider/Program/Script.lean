/-!
Scripts: computations that put questions to their surroundings and go on with the answers. `run`
answers the questions from a state, `interpret` by scripts of questions of another sort.
-/

namespace IntentProvider

/-- A computation that puts questions of the sort `Q`, each with answers of its own type. -/
inductive Script (Q : Type) (A : Q → Type) (α : Type) : Type where
  | done (result : α)
  | ask (question : Q) (next : A question → Script Q A α)

namespace Script

variable {Q Q' : Type} {A : Q → Type} {A' : Q' → Type} {α β γ σ : Type}

/-- One script after another. -/
def bind (s : Script Q A α) (f : α → Script Q A β) : Script Q A β :=
  match s with
  | done a => f a
  | ask q next => ask q fun answer => (next answer).bind f

instance : Monad (Script Q A) where
  pure := done
  bind := bind

/-- The script that puts one question. -/
def question (q : Q) : Script Q A (A q) :=
  ask q done

/-- Answers the questions of a script one after the other, each from the state that the answers
before it have left. -/
def run (answer : (q : Q) → σ → A q × σ) : Script Q A α → σ → α × σ
  | done a, s => (a, s)
  | ask q next, s => run answer (next (answer q s).1) (answer q s).2

/-- Answers every question of a script by a script of other questions. -/
def interpret (f : (q : Q) → Script Q' A' (A q)) : Script Q A α → Script Q' A' α
  | done a => done a
  | ask q next => (f q).bind fun answer => interpret f (next answer)

@[simp] theorem run_done (answer : (q : Q) → σ → A q × σ) (a : α) (s : σ) :
    run answer (done a) s = (a, s) := rfl

@[simp] theorem run_ask (answer : (q : Q) → σ → A q × σ) (q : Q) (next : A q → Script Q A α)
    (s : σ) : run answer (ask q next) s = run answer (next (answer q s).1) (answer q s).2 := rfl

theorem bind_assoc (s : Script Q A α) (f : α → Script Q A β) (g : β → Script Q A γ) :
    (s.bind f).bind g = s.bind fun a => (f a).bind g := by
  induction s with
  | done a => rfl
  | ask q next ih =>
      simp only [bind]
      exact congrArg (ask q) (funext ih)

theorem run_bind (answer : (q : Q) → σ → A q × σ) (s : Script Q A α) (f : α → Script Q A β)
    (x : σ) :
    run answer (s.bind f) x = run answer (f (run answer s x).1) (run answer s x).2 := by
  induction s generalizing x with
  | done a => rfl
  | ask q next ih => simp only [bind, run_ask, ih]

theorem interpret_bind (f : (q : Q) → Script Q' A' (A q)) (s : Script Q A α)
    (g : α → Script Q A β) :
    interpret f (s.bind g) = (interpret f s).bind fun a => interpret f (g a) := by
  induction s with
  | done a => rfl
  | ask q next ih =>
      simp only [bind, interpret, bind_assoc]
      exact congrArg ((f q).bind ·) (funext ih)

/-- Running an interpreted script is running the script, with every question answered by a run of
its interpretation. -/
theorem run_interpret (answer : (q : Q') → σ → A' q × σ) (f : (q : Q) → Script Q' A' (A q))
    (s : Script Q A α) (x : σ) :
    run answer (interpret f s) x = run (fun q x => run answer (f q) x) s x := by
  induction s generalizing x with
  | done a => rfl
  | ask q next ih =>
      rw [interpret, run_bind, ih, run_ask]

end Script

end IntentProvider
