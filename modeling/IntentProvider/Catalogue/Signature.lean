import IntentProvider.Json.Wire

/-!
Signatures of procedures as they are advertised to the engine, and hooks, which are signatures that
observe a path of an entity's fields.
-/

namespace IntentProvider

open IntentProvider.Json

/-- Whether intentful work pauses while a procedure runs. -/
inductive Strategy where
  | basic
  | haltIntentful
  deriving DecidableEq, Repr

namespace Strategy

/-- The name of a strategy on the wire. -/
def name : Strategy → String
  | basic => "basic"
  | haltIntentful => "halt_intentful"

/-- The strategy with a name. -/
def ofName? : String → Option Strategy
  | "basic" => some basic
  | "halt_intentful" => some haltIntentful
  | _ => none

end Strategy

instance : Wire Strategy where
  read? depth t := (tag? depth t).bind Strategy.ofName?
  write s := .string s.name

/-- The error codes that a procedure declares, each with the schema of its details. -/
abbrev ErrorSchemas := SortedMap Value

/-- What is said about a procedure when it is attached. -/
structure Description where
  input : Option Value := none
  output : Option Value := none
  errors : ErrorSchemas := {}
  text : Option String := none

/-- A procedure as advertised to the engine. -/
structure Signature where
  name : String
  /-- The schema of the input. -/
  argument : Value
  /-- The schema of the output. -/
  result : Value
  strategy : Strategy
  /-- The URL at which the procedure is called. -/
  procedureCallback : String
  /-- The URL of the provider. -/
  baseCallback : String
  errors : ErrorSchemas
  description : Option String

namespace Signature

/-- The names of the fields of a signature, in their order. -/
def fieldNames : List String :=
  ["name", "argument", "result", "execution_strategy", "procedure_callback", "base_callback",
    "errors_schemas", "description"]

/-- The signature with the given fields and strategy. -/
def ofFields? (depth : Nat) (fs : Fields) (strategy : Option Strategy) : Option Signature := do
  let name ← fs.required depth "name"
  let argument ← fs.required depth "argument"
  let result ← fs.required depth "result"
  let strategy ← strategy
  let procedureCallback ← fs.required depth "procedure_callback"
  let baseCallback ← fs.required depth "base_callback"
  let errors ← fs.orDefault depth "errors_schemas" {}
  let description ← fs.orDefault depth "description" none
  some { name, argument, result, strategy, procedureCallback, baseCallback, errors, description }

/-- The members of a signature. The error codes are written only if there are any. -/
def members (s : Signature) : List (String × Value) :=
  [("name", .string s.name), ("argument", s.argument), ("result", s.result),
    ("execution_strategy", Wire.write s.strategy),
    ("procedure_callback", .string s.procedureCallback),
    ("base_callback", .string s.baseCallback)] ++
  (if s.errors.isEmpty then [] else [("errors_schemas", Wire.write s.errors)]) ++
  optionalMember "description" s.description

end Signature

instance : Wire Signature where
  read? depth t := do
    let fs ← Fields.read? Signature.fieldNames depth t
    Signature.ofFields? depth fs (fs.required depth "execution_strategy")
  write s := .object s.members

/-- A hook that the engine calls when it reconciles what a path of an entity's fields shows. -/
structure Hook where
  /-- The observed path. -/
  signature : String
  procedure : Signature

namespace Hook

/-- The strategy in a hook, whose tag may also stand over an empty object. -/
def strategy? (depth : Nat) : Tree → Option Strategy
  | .object [(key, .object [])] => if depth < 2 then none else key.bind Strategy.ofName?
  | t => Wire.read? depth t

end Hook

/-- A hook is read by name only. Its path and its procedure share one object, in which every member
must have a value, also one of another name. -/
instance : Wire Hook where
  read?
    | depth, .object members => do
      let fs ← Fields.read? ("signature" :: Signature.fieldNames) depth (.object members)
      let signature ← fs.required depth "signature"
      let _ ← Tree.value? depth (.object members)
      let strategy := (fs.lookup "execution_strategy").bind (Hook.strategy? (depth - 1))
      let procedure ← Signature.ofFields? depth fs strategy
      some { signature, procedure }
    | _, _ => none
  write h := .object (("signature", .string h.signature) :: h.procedure.members)

end IntentProvider
