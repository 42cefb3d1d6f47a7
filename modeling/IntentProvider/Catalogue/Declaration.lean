import IntentProvider.Catalogue.Kind
import IntentProvider.Catalogue.Plural
import IntentProvider.Error.Failure

/-!
Declarations of kinds. A declaration is an object with a schema under the name of the kind, and the
schema names the behaviour of the kind under a marker. Further members must have the marker too, but
only the first one makes a kind.
-/

namespace IntentProvider

open IntentProvider.Json

/-- The member of a schema that names the behaviour of a kind. -/
def behaviourMarker : String := "x-papiea-entity"

namespace Kind

/-- What is wrong with a member of a declaration, apart from the behaviour that it names. -/
def memberFault? (name : String) (schema : Value) : Option SchemaFault :=
  if name.isEmpty then some .emptyName
  else if (schema.get? behaviourMarker).isNone then some (.missingMarker behaviourMarker name)
  else none

/-- The name of a behaviour in a schema, which is empty if it is not given as text. -/
def behaviourName (schema : Value) : String :=
  ((schema.get? behaviourMarker).bind Value.string?).getD ""

/-- A kind to which nothing is attached yet. -/
def bare (name : String) (behaviour : Behaviour) (declaration : Value) : Kind where
  name := name
  namePlural := Plural.of name
  schema := declaration
  behaviour := behaviour

/-- The kind that a declaration makes. -/
def declare (declaration : Value) : Except Failure Kind :=
  match declaration with
  | .object [] => .error .emptyKind
  | .object ((name, schema) :: rest) =>
    match ((name, schema) :: rest).findSome? fun m => memberFault? m.1 m.2 with
    | some fault => .error (.schema fault)
    | none =>
      match Behaviour.ofName? (behaviourName schema) with
      | some behaviour => .ok (bare name behaviour declaration)
      | none => .error (.schema (.unknownMarker behaviourMarker (behaviourName schema) name))
  | _ => .error (.schema .notAnObject)

end Kind

end IntentProvider
