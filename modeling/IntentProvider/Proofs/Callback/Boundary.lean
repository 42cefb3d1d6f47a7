import IntentProvider.Proofs.Callback.Envelope

/-!
The boundary between callbacks and handlers. Every callback is answered. Its body comes first and
the identity of the provider second; only when both are there the handler runs, once, and whatever
it ends with has one answer.
-/

namespace IntentProvider

open IntentProvider.Http
open IntentProvider.Json

/-- The answer that tells the engine about a failure. -/
def failureAnswer (status : UInt16) (kind : String) (code : UInt16) (message : String)
    (errors : List Value) : Response :=
  .json status (.object [("error", .object
    [("kind", .string kind), ("code", .ofUInt64 code.toUInt64), ("message", .string message),
      ("errors", .array errors)])])

/-- The answer to a callback whose handler has ended. -/
inductive Outcome.Answers : Outcome Value → Response → Prop where
  | value (v : Value) : Answers (.value v) (.json 200 v)
  | invocation (i : Invocation) (h : 100 ≤ i.status.toNat ∧ i.status.toNat ≤ 999) :
      Answers (.failed (.invocation i)) (failureAnswer i.status i.kind i.status i.message i.errors)
  | noStatus (i : Invocation) (h : ¬ (100 ≤ i.status.toNat ∧ i.status.toNat ≤ 999)) :
      Answers (.failed (.invocation i)) (failureAnswer 500 i.kind i.status i.message i.errors)
  | failed (f : Failure) (h : ∀ i, f ≠ .invocation i) :
      Answers (.failed f)
        (failureAnswer 500 "procedure_handler_error" 500 f.message
          [.object [("message", .string f.message)]])
  | panicked (message : Option String) :
      Answers (.panicked message)
        (failureAnswer 500 "procedure_handler_error" 500 (panicText message) [])

theorem isStatus_iff {code : UInt16} :
    isStatus code = true ↔ 100 ≤ code.toNat ∧ code.toNat ≤ 999 :=
  between_iff

theorem Outcome.answers_response (o : Outcome Value) : o.Answers o.response := by
  cases o with
  | value v => exact .value v
  | panicked message => exact .panicked message
  | failed f =>
      by_cases hinvocation : ∃ i, f = .invocation i
      · obtain ⟨i, rfl⟩ := hinvocation
        rw [response, Failure.toInvocation, Invocation.response, Invocation.httpStatus]
        by_cases hstatus : isStatus i.status = true
        · rw [if_pos hstatus]
          exact .invocation i (isStatus_iff.mp hstatus)
        · rw [if_neg hstatus]
          exact .noStatus i fun h => hstatus (isStatus_iff.mpr h)
      · have hother : ∀ i, f ≠ .invocation i := fun i h => hinvocation ⟨i, h⟩
        have hform : f.toInvocation = .wrapping 500 f.message := by
          cases f <;> first | rfl | exact absurd rfl (hother _)
        rw [response, hform]
        exact .failed f hother

namespace Procedure

open IntentProvider.Envelope

/-- What a handler knows about the callback that it answers. -/
def surroundings (operation : String) (client : Client) (draw : Trace.Draw) (headers : Headers)
    (i : Identity) : Callback where
  identity := i
  client := client.withTrace (Trace.Context.following headers draw)
  headers := headers
  trace := Trace.Context.following headers draw
  operation := operation

/-- How callbacks for an operation are answered, whatever their bodies and whatever the handler. -/
structure Boundary (operation : String) (identity : Option Identity) (client : Client)
    (draw : Trace.Draw) (headers : Headers) : Prop where
  total : ∀ body, Unreadable body ∨ ∃ e, Carries body e
  unreadable : ∀ body, Unreadable body → ∃ message, ∀ h,
    answer ⟨operation, h⟩ identity client draw headers body =
      .done (failureAnswer 400 "bad_request" 400 message [])
  unregistered : identity = none → ∀ body e, Carries body e → ∀ h,
    answer ⟨operation, h⟩ identity client draw headers body =
      .done (failureAnswer 500 "procedure_handler_error" 500 "Provider is not registered"
        [.object [("message", .string "Provider is not registered")]])
  withEntity : ∀ i, identity = some i → ∀ body e, Carries body e → Delivered body e.entity ∧
    ∀ work, answer ⟨operation, .withEntity work⟩ identity client draw headers body =
      (work (surroundings operation client draw headers i) e.entity e.input).bind fun o =>
        .done o.response
  inputOnly : ∀ i, identity = some i → ∀ body e, Carries body e →
    ∀ work, answer ⟨operation, .inputOnly work⟩ identity client draw headers body =
      (work (surroundings operation client draw headers i) e.input).bind fun o =>
        .done o.response
  answers : ∀ o : Outcome Value, o.Answers o.response
  independent : ∀ work body other e f, Carries body e → Carries other f → e.input = f.input →
    answer ⟨operation, .inputOnly work⟩ identity client draw headers body =
      answer ⟨operation, .inputOnly work⟩ identity client draw headers other

section

variable (client : Client) (draw : Trace.Draw) (headers : Headers)
  (identity : Option Identity) {body : ByteArray}

theorem answer_of_unreadable (h : Unreadable body) (p : Procedure) :
    p.answer identity client draw headers body =
      .done (failureAnswer 400 "bad_request" 400
        ("Malformed callback body: " ++ Envelope.unreadable) []) := by
  rw [answer, invoke, ofBody_of_unreadable h]
  rfl

theorem answer_of_carries {e : Envelope} (h : Carries body e) (p : Procedure) :
    p.answer identity client draw headers body =
      match identity with
      | none => .done (Outcome.response (.failed .notRegistered))
      | some i =>
          (p.handler.call (surroundings p.operation client draw headers i) e).bind fun o =>
            .done o.response := by
  rw [answer, invoke, ofBody_of_carries h]
  cases identity <;> rfl

end

/-- Every callback is answered as it should be. -/
theorem answer_boundary (operation : String) (identity : Option Identity) (client : Client)
    (draw : Trace.Draw) (headers : Headers) : Boundary operation identity client draw headers := by
  constructor
  · intro body
    rcases ofBody_cases body with ⟨h, -⟩ | ⟨e, h, -⟩
    · exact .inl h
    · exact .inr ⟨e, h⟩
  · intro body hbody
    exact ⟨_, fun h => answer_of_unreadable client draw headers identity hbody ⟨operation, h⟩⟩
  · rintro rfl body e hbody h
    rw [answer_of_carries client draw headers none hbody]
    rfl
  · rintro i rfl body e hbody
    refine ⟨delivered_entity hbody, ?_⟩
    intro work
    exact answer_of_carries client draw headers (some i) hbody ⟨operation, .withEntity work⟩
  · rintro i rfl body e hbody work
    exact answer_of_carries client draw headers (some i) hbody ⟨operation, .inputOnly work⟩
  · exact Outcome.answers_response
  · intro work body other e f hbody hother hinput
    rw [answer_of_carries client draw headers identity hbody,
      answer_of_carries client draw headers identity hother]
    cases identity with
    | none => rfl
    | some i =>
        show (work _ e.input).bind _ = (work _ f.input).bind _
        rw [hinput]

end Procedure

end IntentProvider
