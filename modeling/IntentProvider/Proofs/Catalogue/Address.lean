import IntentProvider.Catalogue.Address
import IntentProvider.Catalogue.Name
import IntentProvider.Server.Route

/-!
A route tells the procedure and the kind that it belongs to apart: the name of a procedure has no
slash, so it is what follows the last one. Nor has the name anything else that a route gives a
meaning to.
-/

namespace IntentProvider

/-- The path of a kind, to which a slash and the name of a procedure are added. -/
def kindPath : Option String → List Char
  | some k => '/' :: k.toList
  | none => []

theorem toList_routePath (name : String) (kind : Option String) :
    (routePath name kind).toList = kindPath kind ++ '/' :: name.toList := by
  cases kind <;> simp [routePath, kindPath]

theorem forall_mem_routePath {name : String} {kind : Option String} {P : Char → Prop}
    (hslash : P '/') :
    (∀ c ∈ (routePath name kind).toList, P c) ↔
      (∀ k ∈ kind, ∀ c ∈ k.toList, P c) ∧ ∀ c ∈ name.toList, P c := by
  cases kind <;> simp [toList_routePath, kindPath, or_imp, forall_and, hslash]

theorem kindPath_inj {kind kind' : Option String} (h : kindPath kind = kindPath kind') :
    kind = kind' := by
  cases kind with
  | none =>
      cases kind' with
      | none => rfl
      | some l => cases h
  | some k =>
      cases kind' with
      | none => cases h
      | some l =>
          rw [kindPath, kindPath, List.cons.injEq] at h
          rw [String.toList_inj.mp h.2]

theorem append_slash_inj {before before' after after' : List Char} (ha : '/' ∉ after)
    (ha' : '/' ∉ after') (h : before ++ '/' :: after = before' ++ '/' :: after') :
    before = before' ∧ after = after' := by
  -- a longer first part would reach into what follows the last slash
  rcases List.append_eq_append_iff.mp h with ⟨d, rfl, hd⟩ | ⟨d, rfl, hd⟩
  · cases d with
    | nil => simpa using hd
    | cons c d =>
        rw [List.cons_append, List.cons.injEq] at hd
        exact absurd (by simp [hd.2]) ha
  · cases d with
    | nil => simpa [eq_comm] using hd
    | cons c d =>
        rw [List.cons_append, List.cons.injEq] at hd
        exact absurd (by simp [hd.2]) ha'

theorem routePath_inj {name name' : String} {kind kind' : Option String} (hn : '/' ∉ name.toList)
    (hn' : '/' ∉ name'.toList) (h : routePath name kind = routePath name' kind') :
    name = name' ∧ kind = kind' := by
  have hlist := congrArg String.toList h
  rw [toList_routePath, toList_routePath] at hlist
  obtain ⟨hkind, hname⟩ := append_slash_inj hn hn' hlist
  exact ⟨String.toList_inj.mp hname, kindPath_inj hkind⟩

theorem ProcedureName.isUnroutable_eq_false_iff {c : Char} :
    isUnroutable c = false ↔
      (c ≠ '/' ∧ c ≠ '\x7b' ∧ c ≠ '\x7d' ∧ Text.isBlank c = false) ∧
        Route.isCapture c = false := by
  simp only [isUnroutable, Route.isCapture, Bool.or_eq_false_iff, beq_eq_false_iff_ne]
  grind

theorem ProcedureName.validate_eq_ok_iff_fault? {name : String} {kind : Option String} :
    validate name kind = .ok () ↔ fault? name kind = none := by
  rw [validate]
  cases fault? name kind <;> simp

theorem ProcedureName.validate_eq_ok_iff {name : String} {kind : Option String} :
    validate name kind = .ok () ↔
      name ≠ "" ∧ (∀ c ∈ name.toList, isUnroutable c = false) ∧
        (kind = none → name ≠ healthCheck) := by
  have hany : name.toList.any isUnroutable = false ↔
      ∀ c ∈ name.toList, isUnroutable c = false := by
    simp
  rw [validate_eq_ok_iff_fault?, fault?, ← hany]
  by_cases hempty : name = ""
  · simp [hempty]
  · cases name.toList.any isUnroutable with
    | true => simp [hempty]
    | false => by_cases hreserved : kind = none ∧ name = healthCheck <;> simp_all

theorem ProcedureName.slash_notMem {name : String} {kind : Option String}
    (h : ProcedureName.validate name kind = .ok ()) : '/' ∉ name.toList := by
  intro hmem
  have hroutable := (validate_eq_ok_iff.mp h).2.1 '/' hmem
  cases hroutable

end IntentProvider
