import IntentProvider.Http.Request
import IntentProvider.Proofs.Text.Received

/-!
The requests that can be made: for which texts and credentials there is one, and what it carries. The
text of a reply is what its body shows.
-/

namespace IntentProvider.Http

theorem Url.target_withoutCredentials (u : Url) : u.withoutCredentials.target = u.target := by
  unfold withoutCredentials
  split <;> rfl

namespace Request

/-- A text, read as a URL, and a credential of which a request can be made. -/
structure Formable (text key : String) (u : Url) : Prop where
  read : Url.read? text = some u
  hasHost : u.hasHost = true
  key : key.toList.all Headers.isSendable = true
  sendable : u.withoutCredentials.isSendable = true

variable {method : Method} {text key : String} {traceparent : Option String}
  {body : Option Json.Value} {u : Url} {q : Request}

theorem make_of_formable (h : Formable text key u) :
    make method text key traceparent body = .ok
      { method, traceparent, body
        url := u.withoutCredentials
        authorization := u.credentials?.toList.map basic ++ [bearer key] } := by
  rw [make, h.read]
  simp only [h.hasHost, h.key, h.sendable, Bool.not_true, Bool.false_eq_true, if_false]

theorem exists_error_of_not_formable (h : ∀ u, ¬ Formable text key u) :
    ∃ f, make method text key traceparent body = .error f := by
  unfold make
  split
  · exact ⟨_, rfl⟩
  · rename_i u hread
    dsimp only
    split
    · exact ⟨_, rfl⟩
    · split
      · exact ⟨_, rfl⟩
      · split
        · exact ⟨_, rfl⟩
        · refine absurd (Formable.mk hread ?_ ?_ ?_) (h u) <;> simp_all

theorem formable_of_make (h : make method text key traceparent body = .ok q) :
    ∃ u, Formable text key u ∧ q =
      { method, traceparent, body
        url := u.withoutCredentials
        authorization := u.credentials?.toList.map basic ++ [bearer key] } := by
  by_cases hformable : ∃ u, Formable text key u
  · obtain ⟨u, hu⟩ := hformable
    rw [make_of_formable hu] at h
    cases h
    exact ⟨u, hu, rfl⟩
  · have hnone : ∃ f, make method text key traceparent body = .error f :=
      exists_error_of_not_formable (not_exists.mp hformable)
    obtain ⟨f, hf⟩ := hnone
    rw [hf] at h
    cases h

theorem exists_formable_iff (text key : String) :
    (∃ u, Formable text key u) ↔
      ((Url.read? text).any (fun u => u.hasHost && u.withoutCredentials.isSendable) &&
        key.toList.all Headers.isSendable) = true := by
  simp only [Bool.and_eq_true, Option.any_eq_true]
  constructor
  · rintro ⟨u, h⟩
    exact ⟨⟨u, h.read, h.hasHost, h.sendable⟩, h.key⟩
  · rintro ⟨⟨u, hread, hhost, hsendable⟩, hkey⟩
    exact ⟨u, hread, hhost, hkey, hsendable⟩

instance (text key : String) : Decidable (∃ u, Formable text key u) :=
  decidable_of_iff _ (exists_formable_iff text key).symm

/-- A request shows one credential exactly if the text of its URL has none of its own. -/
theorem authorization_eq_iff (u : Url) (key : String) :
    u.credentials?.toList.map basic ++ [bearer key] = [bearer key] ↔ u.credentials? = none := by
  cases u.credentials? <;> simp

end Request

namespace Reply

/-- The body of a reply shows a text. -/
def Says (r : Reply) (text : String) : Prop :=
  Text.Shows r.body.toList text.toList

theorem says_iff {r : Reply} {text : String} : r.Says text ↔ r.text = text := by
  rw [Says, Text.shows_iff, Reply.text, ← String.toList_inj, String.toList_ofList]

end Reply

end IntentProvider.Http
