import IntentProvider.Server.Route
import Mathlib.Data.List.DropRight

/-!
Which paths a route serves besides its own text: none if nothing in it captures, and some path if
anything does.
-/

namespace IntentProvider.Route

theorem serves_self : ∀ route : List Char, serves route route = true
  | [] => by simp [serves]
  | c :: route => by
      have hrest := serves_self route
      have hafter := serves_self (route.dropWhile (· != '/'))
      rw [serves]
      split
      · rename_i hc
        rw [beq_iff_eq] at hc
        subst hc
        exact hafter
      · simp [hrest]
termination_by route => route.length
decreasing_by
  · exact Nat.lt_succ_self _
  · exact Nat.lt_succ_of_le (List.dropWhile_sublist _).length_le

theorem serves_cons {c : Char} {route path : List Char} (hc : c ≠ ':')
    (h : serves route path = true) : serves (c :: route) (c :: path) = true := by
  simp [serves, hc, h]

theorem exists_serves_ne {route : List Char} (h : ∃ c ∈ route, isCapture c = true) :
    ∃ path, path ≠ route ∧ serves route path = true := by
  induction route with
  | nil => simp at h
  | cons c route ih =>
      by_cases hcolon : c = ':'
      · -- another first character is captured together with all up to the next slash
        subst hcolon
        refine ⟨'x' :: route.dropWhile (· != '/'), by simp, ?_⟩
        rw [serves, if_pos (beq_self_eq_true _), List.dropWhile_cons_of_pos rfl,
          List.dropWhile_idempotent]
        exact serves_self _
      · by_cases hstar : c = '*'
        · subst hstar
          exact ⟨['x'], by simp, by simp [serves]⟩
        · have hroute : ∃ c ∈ route, isCapture c = true := by
            simpa [isCapture, hcolon, hstar] using h
          obtain ⟨path, hne, hserves⟩ := ih hroute
          exact ⟨c :: path, by simpa using hne, serves_cons hcolon hserves⟩

theorem serves_only_iff {route : List Char} :
    (∀ path, serves route path = true ↔ path = route) ↔ ∀ c ∈ route, isCapture c = false := by
  constructor
  · intro honly c hc
    refine Bool.eq_false_iff.mpr fun hcapture => ?_
    obtain ⟨path, hne, hserves⟩ := exists_serves_ne ⟨c, hc, hcapture⟩
    exact hne ((honly path).mp hserves)
  · exact fun h path => serves_iff_eq h

end IntentProvider.Route
