import IntentProvider.Catalogue.Signature

/-!
Kinds of entities with everything attached to them: hooks, procedures of the kind as a whole and
procedures of a single entity.
-/

namespace IntentProvider

open IntentProvider.Json

/-- How the engine reconciles the entities of a kind. -/
inductive Behaviour where
  | specOnly
  | basic
  | differ
  deriving DecidableEq, Repr

namespace Behaviour

/-- The name of a behaviour in a schema and on the wire. -/
def name : Behaviour → String
  | specOnly => "spec-only"
  | basic => "basic"
  | differ => "differ"

/-- The behaviour with a name. -/
def ofName? : String → Option Behaviour
  | "spec-only" => some specOnly
  | "basic" => some basic
  | "differ" => some differ
  | _ => none

theorem ofName?_name (b : Behaviour) : ofName? b.name = some b := by
  cases b <;> rfl

end Behaviour

instance : Wire Behaviour where
  read? depth t := (tag? depth t).bind Behaviour.ofName?
  write b := .string b.name

/-- A kind and what is attached to it. -/
structure Kind where
  name : String
  namePlural : String
  /-- The schema that describes the entities of the kind. -/
  schema : Value
  behaviour : Behaviour
  hooks : List Hook := []
  dependencies : SortedMap (List String) := {}
  kindProcedures : SortedMap Signature := {}
  entityProcedures : SortedMap Signature := {}
  /-- The exponent of the delay between two attempts to mend a difference. -/
  retryExponent : Option UInt32 := none

instance : Wire Kind where
  read? depth t := do
    let fs ← Fields.read?
      ["name", "name_plural", "kind_structure", "intentful_behaviour", "intentful_signatures",
        "dependency_tree", "kind_procedures", "entity_procedures", "diff_retry_exponent"] depth t
    let name ← fs.required depth "name"
    let namePlural ← fs.required depth "name_plural"
    let schema ← fs.required depth "kind_structure"
    let behaviour ← fs.required depth "intentful_behaviour"
    let hooks ← fs.required depth "intentful_signatures"
    let dependencies ← fs.required depth "dependency_tree"
    let kindProcedures ← fs.required depth "kind_procedures"
    let entityProcedures ← fs.required depth "entity_procedures"
    let retryExponent ← fs.orDefault depth "diff_retry_exponent" none
    some { name, namePlural, schema, behaviour, hooks, dependencies, kindProcedures,
           entityProcedures, retryExponent }
  write k := .object (
    [("name", .string k.name), ("name_plural", .string k.namePlural),
      ("kind_structure", k.schema), ("intentful_behaviour", Wire.write k.behaviour),
      ("intentful_signatures", Wire.write k.hooks), ("dependency_tree", Wire.write k.dependencies),
      ("kind_procedures", Wire.write k.kindProcedures),
      ("entity_procedures", Wire.write k.entityProcedures)] ++
    optionalMember "diff_retry_exponent" k.retryExponent)

end IntentProvider
