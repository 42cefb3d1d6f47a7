import IntentProvider.Proofs.Provider.Routed

/-!
Routes tell procedures apart. A kind may have any name, be it empty or with slashes in it, but the
name of a procedure has no slash. So a route is shared only by procedures of one name that belong to
one kind, or to none, and so is a URL at one address.
-/

namespace IntentProvider

theorem CallbackAddress.url_eq_url_iff (a : CallbackAddress) {name name' : String}
    {kind kind' : Option String} :
    a.url name kind = a.url name' kind' ↔ routePath name kind = routePath name' kind' := by
  rw [← String.toList_inj, url, url, String.toList_append, String.toList_append,
    List.append_right_inj, String.toList_inj]

/-- Where procedures are served and called tells which name and which kind they have. -/
structure Distinguished (name name' : String) (kind kind' : Option String) : Prop where
  route : routePath name kind = routePath name' kind' ↔ name = name' ∧ kind = kind'
  url : ∀ a : CallbackAddress,
    a.url name kind = a.url name' kind' ↔ name = name' ∧ kind = kind'

theorem distinguished_of_slash_notMem {name name' : String} (hname : '/' ∉ name.toList)
    (hname' : '/' ∉ name'.toList) (kind kind' : Option String) :
    Distinguished name name' kind kind' := by
  have hroute : routePath name kind = routePath name' kind' ↔ name = name' ∧ kind = kind' := by
    constructor
    · exact routePath_inj hname hname'
    · rintro ⟨rfl, rfl⟩
      rfl
  exact ⟨hroute, fun a => a.url_eq_url_iff.trans hroute⟩

/-- Names that have been accepted, for whatever kinds, have routes of their own under any two kinds.
So two attachments share a route only if they name one procedure of one kind. -/
theorem routes_distinguish :
    (∀ name name' accepting accepting', ProcedureName.validate name accepting = .ok () →
      ProcedureName.validate name' accepting' = .ok () →
      ∀ kind kind', Distinguished name name' kind kind') ∧
    ∀ a b p p' q q', Assembly.attach a p = .ok () p' → Assembly.attach b q = .ok () q' →
      (a.path = b.path ↔ a.name = b.name ∧ a.scope.kind? = b.scope.kind?) := by
  constructor
  · intro name name' accepting accepting' hname hname' kind kind'
    exact distinguished_of_slash_notMem (ProcedureName.slash_notMem hname)
      (ProcedureName.slash_notMem hname') kind kind'
  · intro a b p p' q q' ha hb
    have hname := ProcedureName.slash_notMem (served_of_attach ha).1
    have hname' := ProcedureName.slash_notMem (served_of_attach hb).1
    exact (distinguished_of_slash_notMem hname hname' a.scope.kind? b.scope.kind?).route

/-- The hooks of two tasks, of which one is named like a path that ends in the other. -/
theorem routes_distinguish_nested :
    ProcedureName.validate "state" none = .ok () ∧
    ProcedureName.validate "state" (some "beat") = .ok () ∧
    routePath "state" (some "a/beat") ≠ routePath "state" (some "beat") ∧
    routePath "state" (some "") ≠ routePath "state" none ∧
    ∃ a b p' q', Assembly.attach a (withKind "a/beat") = .ok () p' ∧
      Assembly.attach b (withKind "beat") = .ok () q' ∧ a.path ≠ b.path := by
  obtain ⟨hnames, hattachments⟩ := routes_distinguish
  have hnone : ProcedureName.validate "state" none = .ok () :=
    ProcedureName.validate_eq_ok_iff_fault?.mpr (by decide +kernel)
  have hkind : ProcedureName.validate "state" (some "beat") = .ok () :=
    ProcedureName.validate_eq_ok_iff_fault?.mpr (by decide +kernel)
  have hattach : ∀ kind, ∃ p', Assembly.attach (.ofHook kind Task.stateField fun _ _ _ =>
      .done (.value .null)) (withKind kind) = .ok () p' := by
    intro kind
    obtain ⟨p', h, -⟩ := Assembly.attachHook_stateField (p := withKind kind)
      (Assembly.kind?_addKind_self rfl) fun _ _ _ => .done (.value .null)
    rw [Assembly.attachHook_eq] at h
    exact ⟨p', h⟩
  obtain ⟨p', hp⟩ := hattach "a/beat"
  obtain ⟨q', hq⟩ := hattach "beat"
  refine ⟨hnone, hkind, fun h => ?_, fun h => ?_, _, _, p', q', hp, hq, fun h => ?_⟩
  · have hsame := ((hnames _ _ _ _ hkind hkind _ _).route.mp h).2
    exact absurd hsame (by decide)
  · have hsame := ((hnames _ _ _ _ hnone hnone _ _).route.mp h).2
    exact absurd hsame (by decide)
  · have hsame := ((hattachments _ _ _ _ _ _ hp hq).mp h).2
    exact absurd (Option.some.inj hsame) (by decide)

end IntentProvider
