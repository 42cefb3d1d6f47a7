import IntentProvider.Catalogue.Address
import IntentProvider.Catalogue.Declaration
import IntentProvider.Catalogue.Name

/-!
The catalogue of a provider: its kinds, in the order of their declaration, with what is attached to
each, and the procedures that belong to no kind.
-/

namespace IntentProvider

open IntentProvider.Json

/-- The kinds and procedures of a provider. -/
structure Catalogue where
  address : CallbackAddress
  kinds : List Kind := []
  procedures : SortedMap Signature := {}

namespace Catalogue

/-- The kind with a name. -/
def kind? (c : Catalogue) (name : String) : Option Kind :=
  c.kinds.find? fun k => k.name == name

/-- Adds a kind at the end, unless one with its name is there. -/
def addKind (c : Catalogue) (k : Kind) : Catalogue × Bool :=
  match c.kind? k.name with
  | some _ => (c, false)
  | none => ({ c with kinds := c.kinds ++ [k] }, true)

/-- Takes out a kind with all that is attached to it. Tells whether it was there. -/
def removeKind (c : Catalogue) (name : String) : Catalogue × Bool :=
  ({ c with kinds := c.kinds.filter fun k => k.name != name }, (c.kind? name).isSome)

/-- Changes the kind with a name. -/
def modifyKind (c : Catalogue) (name : String) (f : Kind → Kind) : Catalogue :=
  { c with kinds := c.kinds.map fun k => if k.name = name then f k else k }

theorem kind?_addKind (c : Catalogue) (k : Kind) (name : String) :
    (c.addKind k).1.kind? name = (c.kind? name).or (if k.name = name then some k else none) := by
  unfold addKind
  split
  · rename_i k' h
    by_cases hn : k.name = name
    · subst hn
      simp [h]
    · simp [hn]
  · by_cases hn : k.name = name <;> simp [kind?, List.find?_append, hn]

theorem kind?_removeKind (c : Catalogue) (name other : String) :
    (c.removeKind name).1.kind? other = if other = name then none else c.kind? other := by
  unfold removeKind kind?
  induction c.kinds with
  | nil => simp
  | cons k rest ih =>
      by_cases hk : k.name = name
      · by_cases ho : other = name
        · simp [hk, ho]
        · have hne : name ≠ other := fun h => ho h.symm
          simpa [hk, ho, hne] using ih
      · by_cases ho : k.name = other
        · subst ho
          simp [hk]
        · simpa [hk, ho] using ih

theorem kind?_modifyKind (c : Catalogue) (name other : String) {f : Kind → Kind}
    (hf : ∀ k, (f k).name = k.name) :
    (c.modifyKind name f).kind? other =
      (c.kind? other).map fun k => if k.name = name then f k else k := by
  have hname : ∀ k : Kind, (if k.name = name then f k else k).name = k.name := by
    intro k
    split
    · exact hf k
    · rfl
  unfold modifyKind kind?
  rw [List.find?_map]
  congr 1
  refine congrArg (List.find? · c.kinds) (funext fun k => ?_)
  simp only [Function.comp_apply, hname]

/-- Changes the kind with a name, which must be there. -/
def onKind (c : Catalogue) (name : String) (f : Kind → Kind) : Except Failure Catalogue :=
  match c.kind? name with
  | some _ => .ok (c.modifyKind name f)
  | none => .error (.schema (.unknownKind name))

/-- The signature of a procedure, which is not recorded yet. -/
def signature (c : Catalogue) (name : String) (kind : Option String) (d : Description) :
    Except Failure Signature := do
  ProcedureName.validate name kind
  ErrorCode.validate name d.errors
  return {
    name
    argument := d.input.getD (.object [])
    result := d.output.getD (.object [])
    strategy := .basic
    procedureCallback := c.address.url name kind
    baseCallback := c.address.base
    errors := d.errors
    description := d.text }

/-- A schema that says nothing but its type. -/
def typed (name : String) : Value :=
  .object [("type", .string name)]

/-- The schema of what the engine sends to a hook. -/
def hookInput : Value :=
  .object [("IntentfulInput", .object
    [("type", .string "array"),
      ("items", .object
        [("type", .string "object"),
          ("properties", .object
            [("keys", typed "object"), ("key", typed "string"), ("spec-val", typed "array"),
              ("status-val", typed "array")])])])]

/-- The schema of what a hook answers. -/
def hookOutput : Value :=
  .object [("IntentfulOutput", .object
    [("type", .string "object"),
      ("properties", .object [("delay_secs", typed "integer")]),
      ("description", .string
        ("Amount of seconds to wait before this entity will be checked again " ++
          "by the intent engine"))])]

/-- The hook of a kind for a path, which is not recorded yet. -/
def hook (c : Catalogue) (path kind : String) : Except Failure Hook := do
  ProcedureName.validate path (some kind)
  return {
    signature := path
    procedure := {
      name := path
      argument := hookInput
      result := hookOutput
      strategy := .basic
      procedureCallback := c.address.url path (some kind)
      baseCallback := c.address.base
      errors := {}
      description := none } }

/-- Records a procedure of the provider. -/
def insertProcedure (c : Catalogue) (s : Signature) : Catalogue :=
  { c with procedures := c.procedures.insert s.name s }

/-- Records a procedure of a kind as a whole. -/
def insertKindProcedure (c : Catalogue) (kind : String) (s : Signature) :
    Except Failure Catalogue :=
  c.onKind kind fun k => { k with kindProcedures := k.kindProcedures.insert s.name s }

/-- Records a procedure of the entities of a kind. -/
def insertEntityProcedure (c : Catalogue) (kind : String) (s : Signature) :
    Except Failure Catalogue :=
  c.onKind kind fun k => { k with entityProcedures := k.entityProcedures.insert s.name s }

/-- Records a hook, in place of the one that the kind has for the same path. -/
def insertHook (c : Catalogue) (kind : String) (h : Hook) : Except Failure Catalogue :=
  c.onKind kind fun k =>
    { k with hooks := k.hooks.filter (fun h' => h'.signature != h.signature) ++ [h] }

/-- Says how the delays between two attempts of a kind grow. -/
def setRetryExponent (c : Catalogue) (kind : String) (exponent : Option UInt32) : Catalogue :=
  c.modifyKind kind fun k => { k with retryExponent := exponent }

end Catalogue

namespace Kind

/-- The signature of a name in a kind: the entities' procedure, or else the kind's, or else the
hook's. -/
def lookup? (k : Kind) (name : String) : Option Signature :=
  (k.entityProcedures.get? name).or <| (k.kindProcedures.get? name).or <|
    (k.hooks.find? fun h => h.procedure.name == name).map (·.procedure)

end Kind

/-- The signature of a name in a kind, or of the provider itself. -/
def Catalogue.lookup? (c : Catalogue) (kind : Option String) (name : String) : Option Signature :=
  match kind with
  | none => c.procedures.get? name
  | some k => (c.kind? k).bind (·.lookup? name)

end IntentProvider
