import IntentProvider.Proofs.Provider.Operation

/-!
Calls of the assembly that are rejected. A call that is rejected leaves the provider as it was, and
one that is not is carried out to its end, so that no kind of a background task is ever left without
the hook that observes the task.
-/

namespace IntentProvider

namespace Provider

/-- A procedure has a signature in its scope, and its handler is the one that is served. -/
structure Attached (a : Attachment) (p : Provider) : Prop where
  stored : ∃ s, p.catalogue.Stores a.scope a.name s
  served : p.server.table.routes.get? a.path = some a.procedure

theorem attached_of_step {p q : Provider} {a : Attachment} (h : Step p (.attach a) q) :
    Attached a q := by
  cases h with
  | attach _ hs hc =>
      constructor
      · have hname := congrArg Signature.name (Catalogue.signature_eq_ok hs).2.2
        have hstored := Catalogue.stores_insert_self hc
        rw [hname] at hstored
        exact ⟨_, hstored⟩
      · show (SortedMap.insert _ a.path a.procedure).get? a.path = some a.procedure
        rw [SortedMap.get?_insert, if_pos rfl]

/-- A call either is rejected, with a failure of the assembly, and then the provider is what it was
before: its kinds, their signatures, its own procedures, and the handler on every route. Or it
succeeds, and the call for a background task has then made a kind that was not there and attached to
it the hook that observes the task. -/
theorem rejected_or_complete (b : Building) (p : Provider) :
    (∃ f, f.IsRejection ∧ b.assembly p = .error f p) ∨
      ∃ q, b.assembly p = .ok () q ∧
        ∀ name interval work extension payload,
          b = .attachTask name interval work extension payload →
            p.catalogue.kind? name = none ∧
              Attached (Assembly.attachedTask name interval work) q := by
  rcases b.proper_assembly p with ⟨f, hf, h⟩ | ⟨_, q, h, -⟩
  · exact .inl ⟨f, hf, h⟩
  · refine .inr ⟨q, h, ?_⟩
    rintro name interval work extension payload rfl
    rcases Assembly.attachTask_cases name interval work extension payload p with
      ⟨f, -, htask⟩ | ⟨k, q', -, hfree, htask, -, hattach⟩
    · rw [Building.assembly, Assembly.discard_of_error htask] at h
      cases h
    · rw [Building.assembly, Assembly.discard_of_ok htask] at h
      cases h
      exact ⟨hfree, attached_of_step hattach⟩

end Provider

end IntentProvider
