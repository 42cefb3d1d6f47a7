import IntentProvider.Provider.Basic
import IntentProvider.Task.Basic
import IntentProvider.Task.Schema

/-!
The assembly of a provider: kinds are declared, and procedures, hooks, constructors, destructors and
background tasks are attached to them. Every attachment makes its signature first, then records it
in the catalogue, and then serves the handler on the route of the procedure.
-/

namespace IntentProvider

open IntentProvider.Json

/-- A step in the assembly of a provider, which may fail. -/
abbrev Assembly (α : Type) : Type :=
  EStateM Failure Provider α

namespace Assembly

/-- What can be said from the catalogue, or a failure. -/
def consult {α : Type} (f : Catalogue → Except Failure α) : Assembly α :=
  fun p =>
    match f p.catalogue with
    | .ok a => .ok a p
    | .error e => .error e p

/-- Changes the catalogue, unless the change fails. -/
def record (f : Catalogue → Except Failure Catalogue) : Assembly Unit :=
  fun p =>
    match f p.catalogue with
    | .ok c => .ok () { p with catalogue := c }
    | .error e => .error e p

/-- Serves a handler on the route of a procedure. -/
def serve (name : String) (kind : Option String) (h : Handler) : Assembly Unit :=
  fun p =>
    .ok () { p with
      server := p.server.register (routePath name kind) ⟨operationName name kind, h⟩ }

/-- Adds a kind, unless one with its name is there, and tells whether it did. -/
def addKind (k : Kind) : Assembly Bool :=
  fun p =>
    let (c, added) := p.catalogue.addKind k
    .ok added { p with catalogue := c }

/-- Takes out a kind and tells whether it was there. Its routes stay served. -/
def removeKind (name : String) : Assembly Bool :=
  fun p =>
    let (c, removed) := p.catalogue.removeKind name
    .ok removed { p with catalogue := c }

/-- Adds the kind that a declaration makes, and gives its name. -/
def declareKind (declaration : Value) : Assembly String := do
  let k ← consult fun _ => Kind.declare declaration
  if ← addKind k then return k.name else throw (.schema (.alreadyDeclared k.name))

/-- Attaches a procedure to the provider itself. -/
def attachProcedure (name : String) (d : Description) (work : InputWork) : Assembly Unit := do
  let signature ← consult fun c => c.signature name none d
  record fun c => .ok (c.insertProcedure signature)
  serve name none (.inputOnly work)

/-- Attaches a procedure to the entities of a kind. -/
def attachEntityProcedure (kind name : String) (d : Description) (work : EntityWork) :
    Assembly Unit := do
  let signature ← consult fun c => c.signature name (some kind) d
  record fun c => c.insertEntityProcedure kind signature
  serve name (some kind) (.withEntity work)

/-- Attaches a procedure to a kind as a whole. -/
def attachKindProcedure (kind name : String) (d : Description) (work : InputWork) :
    Assembly Unit := do
  let signature ← consult fun c => c.signature name (some kind) d
  record fun c => c.insertKindProcedure kind signature
  serve name (some kind) (.inputOnly work)

/-- Attaches a hook that observes a path of the entities of a kind. -/
def attachHook (kind path : String) (work : EntityWork) : Assembly Unit := do
  let hook ← consult fun c => c.hook path kind
  record fun c => c.insertHook kind hook
  serve path (some kind) (.withEntity work)

/-- The name of the procedure that makes the entities of a kind. -/
def constructorName (kind : String) : String :=
  "__" ++ kind ++ "_create"

/-- The name of the procedure that is called before an entity of a kind is deleted. -/
def destructorName (kind : String) : String :=
  "__" ++ kind ++ "_delete"

/-- The schema of a kind, which must be declared. -/
def schemaOf (kind : String) (c : Catalogue) : Except Failure Value :=
  match c.kind? kind with
  | some k => .ok k.schema
  | none => .error (.schema (.unknownKind kind))

/-- The description of a constructor. Its input is described by the schema of the kind, unless
another schema is given. -/
def constructorDescription (kind : String) (d : Description) : Assembly Description :=
  match d.input with
  | some _ => return d
  | none => do
    let schema ← consult (schemaOf kind)
    return { d with input := some schema }

/-- Attaches the constructor of a kind. -/
def attachConstructor (kind : String) (d : Description)
    (work : Callback → Value → Activity (Outcome Construction)) : Assembly Unit := do
  let d ← constructorDescription kind d
  attachKindProcedure kind (constructorName kind) d (.constructing work)

/-- Attaches the destructor of a kind. -/
def attachDestructor (kind : String) (work : Callback → Entity → Activity (Outcome Value)) :
    Assembly Unit :=
  attachKindProcedure kind (destructorName kind) {} (.destructing work)

/-- Says how the delays between two attempts of a kind grow. -/
def setRetryExponent (kind : String) (exponent : Option UInt32) : Assembly Unit :=
  record fun c => .ok (c.setRetryExponent kind exponent)

/-- Declares the kind of a background task and attaches the hook that observes it. The payload of
the task is handed to `work` each time, and the engine is asked to come back after an interval,
given in milliseconds. -/
def attachTask (name : String) (interval : Nat)
    (work : Callback → Value → Activity (Outcome Unit)) (extension : Option Document)
    (payload : Option Value) : Assembly Task := do
  let p ← get
  if p.wantsExtension && extension.isNone then throw (.missingMetadataExtension name)
  let kind ← declareKind (Task.schema name (payload.map Task.markStatusOnly))
  attachHook kind Task.stateField (.observing interval work)
  return { name, extension := extension.getD {} }

end Assembly

end IntentProvider
