import IntentProvider.Program.Effect

/-!
Worlds, which answer what a provider asks of its surroundings.
-/

namespace IntentProvider

open IntentProvider.Http

/-- A world: how every question is answered from a state, and the state after the answer. -/
abbrev World (σ : Type) : Type :=
  (q : Effect) → σ → q.Answer × σ

/-- A world in which every request has one answer, every address can be listened at, and no store is
held. -/
def World.answering (answer : Except Http.Failure Reply) : World Unit
  | .send _, x => (answer, x)
  | .listen address, x => (.ok address, x)
  | .store _ call, x => (call.refuse .notRegistered, x)

end IntentProvider
