import IntentProvider.Proofs.Catalogue.Address
import IntentProvider.Proofs.Catalogue.Declaration
import IntentProvider.Proofs.Catalogue.Stored
import IntentProvider.Proofs.Provider.Assembly
import IntentProvider.Proofs.Server.Route
import IntentProvider.Proofs.Text.Split

/-!
The routes of kinds. The name of a kind is any text but the empty one, and it stands in the routes
of the kind as it is. So the procedures of a kind are served on paths of their own exactly when the
name of the kind has no character either that the name of a procedure may not have.
-/

namespace IntentProvider

open IntentProvider.Json
open IntentProvider.Text

/-- A kind that has been made from a declaration, or is in a catalogue after it has been declared
there by itself or for a background task. -/
inductive Introduced : Kind → Prop where
  | made {d : Value} {k : Kind} (h : Kind.declare d = .ok k) : Introduced k
  | declared {d : Value} {p p' : Provider} {name : String} {k : Kind}
      (h : Assembly.declareKind d p = .ok name p') (hk : p'.catalogue.kind? name = some k) :
      Introduced k
  | observed {name : String} {interval : Nat} {work : Callback → Value → Activity (Outcome Unit)}
      {extension : Option Document} {payload : Option Value} {p p' : Provider} {t : Task}
      {k : Kind} (h : Assembly.attachTask name interval work extension payload p = .ok t p')
      (hk : p'.catalogue.kind? name = some k) : Introduced k

theorem Introduced.name_ne_empty {k : Kind} (h : Introduced k) : k.name ≠ "" := by
  cases h with
  | made h => exact Kind.name_ne_empty_of_declare h
  | @declared d p p' name k h hk =>
      rcases Assembly.declareKind_cases d p with ⟨f, -, hreject⟩ | ⟨k', hk', -, haccept⟩
      · rw [hreject] at h
        cases h
      · rw [haccept] at h
        cases h
        rw [Catalogue.name_of_kind? hk]
        exact Kind.name_ne_empty_of_declare hk'
  | @observed name interval work extension payload p p' t k h hk =>
      rcases Assembly.attachTask_cases name interval work extension payload p with
        ⟨f, -, hreject⟩ | ⟨k', p'', hk', -⟩
      · rw [hreject] at h
        cases h
      · rw [Catalogue.name_of_kind? hk, ← Assembly.name_of_declare_schema hk']
        exact Kind.name_ne_empty_of_declare hk'

/-- The path of a procedure of a kind has two segments, and as a route it serves this path only. -/
structure ServedAlone (kind name : String) : Prop where
  segments : splitAt '/' (routePath name (some kind)).toList = [[], kind.toList, name.toList]
  nonempty : kind ≠ "" ∧ name ≠ ""
  captureless : ∀ segment ∈ [kind, name], ∀ c ∈ segment.toList.head?, Route.isCapture c = false
  routable : ∀ segment ∈ [kind, name], ∀ c ∈ segment.toList,
    c ≠ '/' ∧ c ≠ '\x7b' ∧ c ≠ '\x7d' ∧ isBlank c = false
  only : ∀ path, Route.serves (routePath name (some kind)).toList path = true ↔
    path = (routePath name (some kind)).toList
  apart : ∀ kind' name', kind' ≠ kind → ProcedureName.validate name' (some kind') = .ok () →
    Route.serves (routePath name (some kind)).toList (routePath name' (some kind')).toList = false

theorem splitAt_routePath {kind name : String} (hkind : '/' ∉ kind.toList)
    (hname : '/' ∉ name.toList) :
    splitAt '/' (routePath name (some kind)).toList = [[], kind.toList, name.toList] := by
  rw [toList_routePath, kindPath, List.cons_append, splitAt_cons_self, splitAt_append,
    splitAt_of_not_mem hkind, splitAt_of_not_mem hname]
  rfl

section ServedAlone

variable {kind name : String}

theorem servedAlone_iff (hkind : kind ≠ "")
    (hname : ProcedureName.validate name (some kind) = .ok ()) :
    ServedAlone kind name ↔ ∀ c ∈ kind.toList, ProcedureName.isUnroutable c = false := by
  obtain ⟨hne, hroutable, -⟩ := ProcedureName.validate_eq_ok_iff.mp hname
  have hslash : Route.isCapture '/' = false := by decide
  constructor
  · intro h c hc
    have hcapture := ((forall_mem_routePath hslash).mp (Route.serves_only_iff.mp h.only)).1
    exact ProcedureName.isUnroutable_eq_false_iff.mpr
      ⟨h.routable kind (by simp) c hc, hcapture kind rfl c hc⟩
  · intro h
    have hsegments : ∀ segment ∈ [kind, name], ∀ c ∈ segment.toList,
        ProcedureName.isUnroutable c = false := by
      simpa using ⟨h, hroutable⟩
    have hplain : ∀ c ∈ (routePath name (some kind)).toList, Route.isCapture c = false := by
      refine (forall_mem_routePath hslash).mpr ⟨?_, fun c hc => ?_⟩
      · rintro k ⟨⟩ c hc
        exact (ProcedureName.isUnroutable_eq_false_iff.mp (h c hc)).2
      · exact (ProcedureName.isUnroutable_eq_false_iff.mp (hroutable c hc)).2
    have hkindSlash : '/' ∉ kind.toList := fun hmem => by cases h '/' hmem
    refine {
      segments := splitAt_routePath hkindSlash (ProcedureName.slash_notMem hname)
      nonempty := ⟨hkind, hne⟩
      captureless := fun segment hsegment c hc =>
        (ProcedureName.isUnroutable_eq_false_iff.mp
          (hsegments segment hsegment c (List.mem_of_mem_head? hc))).2
      routable := fun segment hsegment c hc =>
        (ProcedureName.isUnroutable_eq_false_iff.mp (hsegments segment hsegment c hc)).1
      only := fun path => Route.serves_iff_eq hplain
      apart := ?_ }
    intro kind' name' hother hname'
    refine Bool.eq_false_iff.mpr fun hserves => hother ?_
    have hpath := String.toList_inj.mp ((Route.serves_iff_eq hplain).mp hserves)
    have hinj := routePath_inj (ProcedureName.slash_notMem hname')
      (ProcedureName.slash_notMem hname) hpath
    exact Option.some.inj hinj.2

end ServedAlone

theorem served_of_attach {a : Attachment} {p p' : Provider}
    (h : Assembly.attach a p = .ok () p') :
    ProcedureName.validate a.name a.scope.kind? = .ok () ∧
      p'.server.table.routes.get? a.path = some a.procedure := by
  rcases Assembly.attach_cases a p with ⟨f, -, hreject⟩ | ⟨s, c, hs, -, haccept⟩
  · rw [hreject] at h
    cases h
  · rw [haccept] at h
    cases h
    have hserved := p.server.table.routes.get?_insert a.path a.path a.procedure
    exact ⟨(Catalogue.signature_eq_ok hs).1, hserved.trans (if_pos rfl)⟩

/-- The procedures of a kind are served on paths of their own if the name of the kind consists of
characters that the name of a procedure may have. Each one is served on its path, in any case. -/
theorem Introduced.servedAlone_iff_routable {k : Kind} (hk : Introduced k) :
    (∀ name, ProcedureName.validate name (some k.name) = .ok () →
      (ServedAlone k.name name ↔ ∀ c ∈ k.name.toList, ProcedureName.isUnroutable c = false)) ∧
    ∀ a p p', a.scope.kind? = some k.name → Assembly.attach a p = .ok () p' →
      ProcedureName.validate a.name (some k.name) = .ok () ∧
        p'.server.table.routes.get? (routePath a.name (some k.name)) = some a.procedure := by
  refine ⟨fun name hname => servedAlone_iff hk.name_ne_empty hname, fun a p p' hscope h => ?_⟩
  rw [← hscope]
  exact served_of_attach h

/-- The declaration of a kind about which nothing is said. -/
def plainDeclaration (name : String) : Value :=
  .object [(name, .object [(behaviourMarker, .string "basic")])]

/-- Every text but the empty one names a kind. -/
theorem introduced_of_ne_empty {name : String} (h : name ≠ "") :
    Introduced (Kind.bare name .basic (plainDeclaration name)) := by
  refine .made (Kind.declare_of_leadsTo (.made (b := .basic) ?_ ⟨_, rfl, rfl⟩))
  intro m hm
  rw [List.mem_singleton.mp hm]
  exact ⟨h, _, _, rfl, rfl⟩

/-- A provider that has a kind, and nothing attached to it. -/
def withKind (name : String) : Provider :=
  { Provider.fresh {} with
    catalogue := ((Provider.fresh {}).catalogue.addKind
      (Kind.bare name .basic (plainDeclaration name))).1 }

theorem servedAlone_iff_routable_bucket :
    Introduced (Kind.bare "Bucket" .basic (plainDeclaration "Bucket")) ∧
    ServedAlone "Bucket" "resize" ∧
    ∃ a p', a.scope.kind? = some "Bucket" ∧ Assembly.attach a (withKind "Bucket") = .ok () p' ∧
      p'.server.table.routes.get? (routePath a.name (some "Bucket")) = some a.procedure := by
  have hbucket : Introduced (Kind.bare "Bucket" .basic (plainDeclaration "Bucket")) :=
    introduced_of_ne_empty (by decide)
  obtain ⟨halone, hserved⟩ := Introduced.servedAlone_iff_routable hbucket
  have hname : ProcedureName.validate "resize" (some "Bucket") = .ok () :=
    ProcedureName.validate_eq_ok_iff_fault?.mpr (by decide +kernel)
  have hroutable : "Bucket".toList.all (!ProcedureName.isUnroutable ·) = true := by decide +kernel
  refine ⟨hbucket, (halone "resize" hname).mpr fun c hc => ?_, ?_⟩
  · simpa using List.all_eq_true.mp hroutable c hc
  · have hkind : (withKind "Bucket").catalogue.kind? "Bucket" =
        some (Kind.bare "Bucket" .basic (plainDeclaration "Bucket")) :=
      Assembly.kind?_addKind_self rfl
    obtain ⟨p', hattach, -⟩ :=
      Assembly.attachHook_stateField hkind fun _ _ _ => .done (.value .null)
    rw [Assembly.attachHook_eq] at hattach
    exact ⟨_, p', rfl, hattach, (hserved _ _ p' rfl hattach).2⟩

/-- A kind whose name starts a capture is sent the requests of others. -/
theorem captures_another_kind :
    Introduced (Kind.bare ":any" .basic (plainDeclaration ":any")) ∧
    ProcedureName.validate "resize" (some ":any") = .ok () ∧
    ProcedureName.validate "resize" (some "Bucket") = .ok () ∧
    Route.serves (routePath "resize" (some ":any")).toList
      (routePath "resize" (some "Bucket")).toList = true ∧
    ¬ServedAlone ":any" "resize" := by
  have hany : Route.serves (routePath "resize" (some ":any")).toList
      (routePath "resize" (some "Bucket")).toList = true := by decide +kernel
  have hname : ProcedureName.validate "resize" (some ":any") = .ok () :=
    ProcedureName.validate_eq_ok_iff_fault?.mpr (by decide +kernel)
  have hother : ProcedureName.validate "resize" (some "Bucket") = .ok () :=
    ProcedureName.validate_eq_ok_iff_fault?.mpr (by decide +kernel)
  refine ⟨introduced_of_ne_empty (by decide), hname, hother, hany, fun h => ?_⟩
  have hapart := h.apart "Bucket" "resize" (by decide) hother
  rw [hany] at hapart
  cases hapart

end IntentProvider
