import IntentProvider.Program.Script

/-!
What a script exchanges with its surroundings when it is run: its questions with the answers that
were given, oldest first. The exchanges of an interpreted script are those of the interpretations of
its questions, one after the other.
-/

namespace IntentProvider

/-- A question with the answer that was given to it. -/
structure Exchange {Q : Type} (A : Q → Type) where
  question : Q
  answer : A question

namespace Script

variable {Q Q' : Type} {A : Q → Type} {A' : Q' → Type} {α β σ : Type}

/-- The questions of a run, each with the state in which it is put. -/
def visits (answer : (q : Q) → σ → A q × σ) : Script Q A α → σ → List (Q × σ)
  | done _, _ => []
  | ask q next, s => (q, s) :: visits answer (next (answer q s).1) (answer q s).2

def exchanges (answer : (q : Q) → σ → A q × σ) (s : Script Q A α) (x : σ) : List (Exchange A) :=
  (s.visits answer x).map fun v => ⟨v.1, (answer v.1 v.2).1⟩

@[simp] theorem exchanges_done (answer : (q : Q) → σ → A q × σ) (a : α) (x : σ) :
    exchanges answer (done a : Script Q A α) x = [] := rfl

@[simp] theorem exchanges_ask (answer : (q : Q) → σ → A q × σ) (q : Q)
    (next : A q → Script Q A α) (x : σ) :
    exchanges answer (ask q next) x =
      ⟨q, (answer q x).1⟩ :: exchanges answer (next (answer q x).1) (answer q x).2 := rfl

theorem exists_answer_of_mem_exchanges {answer : (q : Q) → σ → A q × σ} {s : Script Q A α} {x : σ}
    {e : Exchange A} (h : e ∈ s.exchanges answer x) :
    ∃ y, e.answer = (answer e.question y).1 := by
  obtain ⟨⟨q, y⟩, -, rfl⟩ := List.mem_map.mp h
  exact ⟨y, rfl⟩

theorem visits_bind (answer : (q : Q) → σ → A q × σ) (s : Script Q A α) (f : α → Script Q A β)
    (x : σ) :
    (s.bind f).visits answer x =
      s.visits answer x ++ (f (s.run answer x).1).visits answer (s.run answer x).2 := by
  induction s generalizing x with
  | done a => rfl
  | ask q next ih => simp only [bind, visits, run_ask, ih, List.cons_append]

theorem exchanges_bind (answer : (q : Q) → σ → A q × σ) (s : Script Q A α)
    (f : α → Script Q A β) (x : σ) :
    (s.bind f).exchanges answer x =
      s.exchanges answer x ++ (f (s.run answer x).1).exchanges answer (s.run answer x).2 := by
  simp only [exchanges, visits_bind, List.map_append]

theorem exchanges_bind_done (answer : (q : Q) → σ → A q × σ) (s : Script Q A α) (f : α → β)
    (x : σ) : (s.bind fun a => .done (f a)).exchanges answer x = s.exchanges answer x := by
  rw [exchanges_bind, exchanges_done, List.append_nil]

theorem exchanges_interpret (answer : (q : Q') → σ → A' q × σ)
    (f : (q : Q) → Script Q' A' (A q)) (s : Script Q A α) (x : σ) :
    (interpret f s).exchanges answer x =
      (s.visits (fun q y => (f q).run answer y) x).flatMap fun v =>
        (f v.1).exchanges answer v.2 := by
  induction s generalizing x with
  | done a => rfl
  | ask q next ih =>
      rw [interpret, exchanges_bind, ih]
      rfl

/-- Every exchange of an interpreted script belongs to the interpretation of a question. -/
theorem exists_of_mem_exchanges_interpret {answer : (q : Q') → σ → A' q × σ}
    {f : (q : Q) → Script Q' A' (A q)} {s : Script Q A α} {x : σ} {e : Exchange A'}
    (h : e ∈ (interpret f s).exchanges answer x) :
    ∃ q y, ⟨q, ((f q).run answer y).1⟩ ∈ s.exchanges (fun q y => (f q).run answer y) x ∧
      e ∈ (f q).exchanges answer y := by
  rw [exchanges_interpret, List.mem_flatMap] at h
  obtain ⟨⟨q, y⟩, hvisit, he⟩ := h
  exact ⟨q, y, List.mem_map.mpr ⟨(q, y), hvisit, rfl⟩, he⟩

/-- The exchanges of the interpretation of a question are among those of the interpreted script. -/
theorem exists_exchanges_subset_interpret {answer : (q : Q') → σ → A' q × σ}
    {f : (q : Q) → Script Q' A' (A q)} {s : Script Q A α} {x : σ} {e : Exchange A}
    (h : e ∈ s.exchanges (fun q y => (f q).run answer y) x) :
    ∃ y, e.answer = ((f e.question).run answer y).1 ∧
      (f e.question).exchanges answer y ⊆ (interpret f s).exchanges answer x := by
  obtain ⟨⟨q, y⟩, hvisit, rfl⟩ := List.mem_map.mp h
  refine ⟨y, rfl, ?_⟩
  intro i hi
  rw [exchanges_interpret]
  exact List.mem_flatMap.mpr ⟨(q, y), hvisit, hi⟩

end Script

end IntentProvider
