import IntentProvider.Catalogue.Declaration
import IntentProvider.Task.Mode

/-!
Schemas of background tasks. What a task publishes may be seen in its status only, so every field of
its payload that has a type is marked, at every depth that object types open. The state itself is
never marked.
-/

namespace IntentProvider

open IntentProvider.Json

/-- The member of a schema that restricts a field to one half of an entity. -/
def visibilityMarker : String := "x-papiea"

/-- The mark of fields that only the status has. -/
def statusOnly : String := "status-only"

namespace Task

/-- A schema of an object has properties that are schemas again. -/
def isObjectType (members : List (String × Value)) : Bool :=
  (members.lookup "type").bind Value.string? == some "object"

/-- The members of a schema with a type, marked; other members as they are. -/
def putMarker (members : List (String × Value)) : List (String × Value) :=
  if (members.lookup "type").isSome then putEntry visibilityMarker (.string statusOnly) members
  else members

mutual

/-- The schema of a field, marked if it has a type and walked into if that type is an object. -/
def markField : Value → Value
  | .object members =>
    .object (putMarker (if isObjectType members then markNested members else members))
  | v => v

/-- The members of a schema with all fields among its properties marked. -/
def markNested : List (String × Value) → List (String × Value)
  | [] => []
  | (key, v) :: rest =>
    (key, if key = "properties" then markIfObject v else v) :: markNested rest

/-- Properties with all fields marked. -/
def markIfObject : Value → Value
  | .object members => .object (markProperties members)
  | v => v

/-- Properties with all fields marked but the state. -/
def markProperties : List (String × Value) → List (String × Value)
  | [] => []
  | (name, v) :: rest =>
    (name, if name = stateField then v else markField v) :: markProperties rest

end

/-- The schema of a payload with its fields marked. It is a schema of an object, or else the
properties themselves. -/
def markStatusOnly : Value → Value
  | .object members =>
    if (members.lookup "type").isSome && (members.lookup "properties").isSome then
      .object (markNested members)
    else .object (markProperties members)
  | v => v

/-- The description of the kind of a task, which may have a schema of its payload. -/
def schema (name : String) (payload : Option Value) : Value :=
  let properties :=
    (stateField, .object [("type", .string "string")]) ::
      (match payload with
        | some fields => [(payloadField, fields)]
        | none => [])
  .object [(name, .object
    [("type", .string "object"), (behaviourMarker, .string Behaviour.differ.name),
      ("properties", .object properties)])]

end Task

end IntentProvider
