import IntentProvider.Catalogue.Basic
import IntentProvider.Provider.Descriptor

/-!
The signatures that a catalogue advertises. A signature is recorded in one of four scopes, and all
of them make it in the same way.
-/

namespace IntentProvider

namespace SortedMap

variable {α : Type}

def values (m : SortedMap α) : List α :=
  m.entries.map (·.2)

end SortedMap

namespace Kind

def signatures (k : Kind) : List Signature :=
  k.entityProcedures.values ++ k.kindProcedures.values ++ k.hooks.map (·.procedure)

theorem signatures_of_declare {declaration : Json.Value} {k : Kind}
    (h : Kind.declare declaration = .ok k) : k.signatures = [] := by
  unfold declare at h
  split at h
  · cases h
  · split at h
    · cases h
    · split at h
      · cases h
        rfl
      · cases h
  · cases h

end Kind

/-- Whether kinds, or the procedures that belong to none, advertise a signature. -/
def Advertises (kinds : List Kind) (procedures : SortedMap Signature) (kind : Option String)
    (s : Signature) : Prop :=
  match kind with
  | none => s ∈ procedures.values
  | some name => ∃ k ∈ kinds, k.name = name ∧ s ∈ k.signatures

def Descriptor.Advertises (d : Descriptor) : Option String → Signature → Prop :=
  IntentProvider.Advertises d.kinds d.procedures

/-- Where the signature of a procedure is recorded. -/
inductive Scope where
  | provider
  | kind (name : String)
  | entity (name : String)
  | hook (name : String)
  deriving DecidableEq

namespace Scope

def kind? : Scope → Option String
  | provider => none
  | kind name => some name
  | entity name => some name
  | hook name => some name

def insert : Scope → Signature → Catalogue → Except Failure Catalogue
  | provider, s, c => .ok (c.insertProcedure s)
  | kind name, s, c => c.insertKindProcedure name s
  | entity name, s, c => c.insertEntityProcedure name s
  | hook name, s, c => c.insertHook name ⟨s.name, s⟩

end Scope

namespace Catalogue

def Advertises (c : Catalogue) : Option String → Signature → Prop :=
  IntentProvider.Advertises c.kinds c.procedures

/-- What is said about every hook when it is attached. -/
def hookDescription : Description where
  input := some hookInput
  output := some hookOutput

/-- A hook is made from a signature like any other. -/
theorem hook_eq (c : Catalogue) (path kind : String) :
    c.hook path kind = (c.signature path (some kind) hookDescription).map (⟨path, ·⟩) := by
  unfold hook signature
  cases ProcedureName.validate path (some kind) <;> rfl

theorem signature_eq_ok {c : Catalogue} {name : String} {kind : Option String} {d : Description}
    {s : Signature} (h : c.signature name kind d = .ok s) :
    ProcedureName.validate name kind = .ok () ∧ ErrorCode.validate name d.errors = .ok () ∧
      s = {
        name
        argument := d.input.getD (.object [])
        result := d.output.getD (.object [])
        strategy := .basic
        procedureCallback := c.address.url name kind
        baseCallback := c.address.base
        errors := d.errors
        description := d.text } := by
  unfold signature at h
  cases hname : ProcedureName.validate name kind with
  | error f =>
      rw [hname] at h
      cases h
  | ok _ =>
      cases herrors : ErrorCode.validate name d.errors with
      | error f =>
          rw [hname, herrors] at h
          cases h
      | ok _ =>
          rw [hname, herrors] at h
          cases h
          exact ⟨rfl, rfl, rfl⟩

theorem onKind_eq_ok {c c' : Catalogue} {name : String} {f : Kind → Kind}
    (h : c.onKind name f = .ok c') : (c.kind? name).isSome ∧ c' = c.modifyKind name f := by
  unfold onKind at h
  split at h
  · rename_i k hk
    cases h
    rw [hk]
    exact ⟨rfl, rfl⟩
  · cases h

end Catalogue

end IntentProvider
