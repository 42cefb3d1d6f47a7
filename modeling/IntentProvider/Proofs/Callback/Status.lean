import IntentProvider.Proofs.Callback.Boundary
import IntentProvider.Proofs.Engine.Endpoint

/-!
Which status the engine is shown for a callback. Main statement: a success is reported exactly where
the handler has ended with a value, or with a failure that asks for the status of a success itself.
-/

namespace IntentProvider

open IntentProvider.Http
open IntentProvider.Json

def Http.Response.IsError (r : Response) : Prop :=
  400 ≤ r.status.toNat ∧ r.status.toNat ≤ 599

theorem Http.Response.isSuccess_iff {r : Response} :
    r.isSuccess = true ↔ 200 ≤ r.status.toNat ∧ r.status.toNat ≤ 299 :=
  between_iff

/-- What the status of an answer tells about how the handler has ended, if it has run. -/
structure Reported (r : Response) (ends : Outcome Value → Prop) : Prop where
  success : r.isSuccess = true ↔ (∃ v, ends (.value v)) ∨
    ∃ i, ends (.failed (.invocation i)) ∧ 200 ≤ i.status.toNat ∧ i.status.toNat ≤ 299
  failure : r.IsError ↔ (∀ v, ¬ ends (.value v)) ∧
    ∀ i, ends (.failed (.invocation i)) → 100 ≤ i.status.toNat → i.status.toNat ≤ 999 →
      400 ≤ i.status.toNat ∧ i.status.toNat ≤ 599
  value : ∀ v, ends (.value v) → r.status = 200
  own : ∀ i, ends (.failed (.invocation i)) → 100 ≤ i.status.toNat → i.status.toNat ≤ 999 →
    r.status = i.status

namespace Reported

variable {r : Response} {ends : Outcome Value → Prop}

/-- An error is reported where the handler has not run, or gives no status. -/
theorem of_isError (hr : r.IsError) (hvalue : ∀ v, ¬ ends (.value v))
    (hown : ∀ i, ends (.failed (.invocation i)) →
      ¬ (100 ≤ i.status.toNat ∧ i.status.toNat ≤ 999)) : Reported r ends := by
  have hnone : ∀ i, ends (.failed (.invocation i)) → 100 ≤ i.status.toNat →
      i.status.toNat ≤ 999 → False := fun i hi hlow hhigh => hown i hi ⟨hlow, hhigh⟩
  constructor
  · rw [Response.isSuccess_iff]
    constructor
    · rintro ⟨-, hhigh⟩
      have := hr.1
      omega
    · rintro (⟨v, hv⟩ | ⟨i, hi, hlow, hhigh⟩)
      · exact absurd hv (hvalue v)
      · exact (hnone i hi (by omega) (by omega)).elim
  · exact ⟨fun _ => ⟨hvalue, fun i hi hlow hhigh => (hnone i hi hlow hhigh).elim⟩, fun _ => hr⟩
  · exact fun v hv => absurd hv (hvalue v)
  · exact fun i hi hlow hhigh => (hnone i hi hlow hhigh).elim

theorem of_value (hr : r.status = 200) {v : Value} (hends : ∀ o, ends o ↔ .value v = o) :
    Reported r ends := by
  have hinvocation : ∀ i, ¬ ends (.failed (.invocation i)) := by
    intro i hi
    cases (hends _).mp hi
  have hv : ends (.value v) := (hends _).mpr rfl
  constructor
  · rw [Response.isSuccess_iff, hr]
    exact ⟨fun _ => .inl ⟨v, hv⟩, fun _ => by decide⟩
  · rw [Response.IsError, hr]
    exact ⟨fun h => absurd h (by decide), fun h => absurd hv (h.1 v)⟩
  · exact fun _ _ => hr
  · exact fun i hi => absurd hi (hinvocation i)

/-- A failure with a status is answered with this status, whether it is the one of an error or not. -/
theorem of_invocation {i : Invocation} (hr : r.status = i.status)
    (hstatus : 100 ≤ i.status.toNat ∧ i.status.toNat ≤ 999)
    (hends : ∀ o, ends o ↔ .failed (.invocation i) = o) : Reported r ends := by
  have hvalue : ∀ v, ¬ ends (.value v) := by
    intro v hv
    cases (hends _).mp hv
  have honly : ∀ j, ends (.failed (.invocation j)) → j = i := by
    intro j hj
    cases (hends _).mp hj
    rfl
  have hi : ends (.failed (.invocation i)) := (hends _).mpr rfl
  constructor
  · rw [Response.isSuccess_iff, hr]
    constructor
    · exact fun h => .inr ⟨i, hi, h⟩
    · rintro (⟨v, hv⟩ | ⟨j, hj, h⟩)
      · exact absurd hv (hvalue v)
      · obtain rfl := honly j hj
        exact h
  · rw [Response.IsError, hr]
    constructor
    · intro h
      refine ⟨hvalue, ?_⟩
      rintro j hj - -
      obtain rfl := honly j hj
      exact h
    · exact fun h => h.2 i hi hstatus.1 hstatus.2
  · exact fun v hv => absurd hv (hvalue v)
  · rintro j hj - -
    rw [hr, honly j hj]

end Reported

theorem isError_failureAnswer {status : UInt16}
    (h : 400 ≤ status.toNat ∧ status.toNat ≤ 599) (kind : String) (code : UInt16)
    (message : String) (errors : List Value) :
    (failureAnswer status kind code message errors).IsError := h

theorem Outcome.Answers.reported {o : Outcome Value} {r : Response} (h : o.Answers r)
    {ends : Outcome Value → Prop} (hends : ∀ o', ends o' ↔ o = o') : Reported r ends := by
  cases h with
  | value v => exact .of_value rfl hends
  | invocation i h => exact .of_invocation rfl h hends
  | noStatus i h =>
      refine .of_isError (isError_failureAnswer (by decide) _ _ _ _) ?_ ?_
      · intro v hv
        cases (hends _).mp hv
      · intro j hj
        cases (hends _).mp hj
        exact h
  | failed f h =>
      refine .of_isError (isError_failureAnswer (by decide) _ _ _ _) ?_ ?_
      · intro v hv
        cases (hends _).mp hv
      · intro i hi
        cases (hends _).mp hi
        exact absurd rfl (h i)
  | panicked message =>
      refine .of_isError (isError_failureAnswer (by decide) _ _ _ _) ?_ ?_
      · intro v hv
        cases (hends _).mp hv
      · intro i hi
        cases (hends _).mp hi

namespace Procedure

open IntentProvider.Envelope

/-- The handler has run on what the body of a callback carries, and has ended so. -/
def Ends {σ : Type} (world : (q : Effect) → σ → q.Answer × σ) (p : Procedure)
    (identity : Option Identity) (client : Client) (draw : Trace.Draw) (headers : Headers)
    (body : ByteArray) (x : σ) (o : Outcome Value) : Prop :=
  ∃ i e, identity = some i ∧ Carries body e ∧
    ((p.handler.call (surroundings p.operation client draw headers i) e).run world x).1 = o

section

variable {σ : Type} {world : (q : Effect) → σ → q.Answer × σ} {p : Procedure} {client : Client}
  {draw : Trace.Draw} {headers : Headers} {body : ByteArray} {x : σ} {o : Outcome Value}

theorem not_ends_of_unreadable {identity : Option Identity} (h : Unreadable body) :
    ¬ p.Ends world identity client draw headers body x o := by
  rintro ⟨i, e, -, he, -⟩
  have hbody := ofBody_of_carries he
  rw [ofBody_of_unreadable h] at hbody
  cases hbody

theorem ends_iff {i : Identity} {e : Envelope} (h : Carries body e) :
    p.Ends world (some i) client draw headers body x o ↔
      ((p.handler.call (surroundings p.operation client draw headers i) e).run world x).1 = o := by
  constructor
  · rintro ⟨j, f, hj, hf, hends⟩
    cases hj
    have hbody := ofBody_of_carries hf
    rw [ofBody_of_carries h] at hbody
    cases hbody
    exact hends
  · intro hends
    exact ⟨i, e, rfl, h, hends⟩

end

/-- Whatever is called back, in whatever surroundings, the status of the answer tells whether the
handler has ended with a value, unless its failure has a status of its own that is not one of an
error. -/
theorem reported_answer {σ : Type} (world : (q : Effect) → σ → q.Answer × σ) (p : Procedure)
    (identity : Option Identity) (client : Client) (draw : Trace.Draw) (headers : Headers)
    (body : ByteArray) (x : σ) :
    Reported ((p.answer identity client draw headers body).run world x).1
      (p.Ends world identity client draw headers body x) := by
  rcases ofBody_cases body with ⟨hbody, -⟩ | ⟨e, hbody, -⟩
  · rw [answer_of_unreadable client draw headers identity hbody]
    exact .of_isError (isError_failureAnswer (by decide) _ _ _ _)
      (fun v => not_ends_of_unreadable hbody) fun i hi => absurd hi (not_ends_of_unreadable hbody)
  · rw [answer_of_carries client draw headers identity hbody]
    cases identity with
    | none =>
        have hnot : ∀ o, ¬ p.Ends world none client draw headers body x o := by
          rintro o ⟨i, -, hi, -⟩
          cases hi
        exact .of_isError (isError_failureAnswer (by decide) _ _ _ _) (fun v => hnot _)
          fun i hi => absurd hi (hnot _)
    | some i =>
        dsimp only
        rw [Script.run_bind, Script.run_done]
        exact (Outcome.answers_response _).reported fun o => ends_iff hbody

/-- A handler that fails and asks for the status of a success. -/
def doneByFailure : Procedure where
  operation := "finish"
  handler := .inputOnly fun _ _ => .done (.failed (.invocation { status := 200, message := "done" }))

def filesIdentity : Identity where
  nameSpace := "files"
  version := "v1"
  store := none

theorem success_of_doneByFailure :
    let client := Client.ofUrl "http://engine:3000" "k"
    ((doneByFailure.answer (some filesIdentity) client ⟨0, 2⟩ {} .empty).run
        Client.unavailable ()).1.isSuccess = true ∧
      ¬ ∃ v, doneByFailure.Ends Client.unavailable (some filesIdentity) client ⟨0, 2⟩ {} .empty ()
        (.value v) := by
  intro client
  have hbody : Carries .empty {} := .blank (by decide +kernel)
  constructor
  · rw [answer_of_carries _ _ _ _ hbody]
    rfl
  · rintro ⟨v, hv⟩
    have hends := (ends_iff hbody).mp hv
    cases hends

end Procedure

end IntentProvider
