import IntentProvider.Catalogue.Kind

/-!
The description of a provider that is posted to the engine.
-/

namespace IntentProvider

open IntentProvider.Json

/-- A provider as described to the engine. -/
structure Descriptor where
  /-- The name space of the provider's kinds. -/
  nameSpace : String
  version : String
  kinds : List Kind
  procedures : SortedMap Signature
  /-- The schema of the metadata extension of every entity. -/
  extensionSchema : Value
  allowExtraProps : Bool
  policy : Option String := none
  oauth2 : Option Value := none
  authModel : Option String := none

instance : Wire Descriptor where
  read? depth t := do
    let fs ← Fields.read?
      ["prefix", "version", "kinds", "procedures", "extension_structure", "allowExtraProps",
        "policy", "oauth2", "authModel"] depth t
    let nameSpace ← fs.required depth "prefix"
    let version ← fs.required depth "version"
    let kinds ← fs.required depth "kinds"
    let procedures ← fs.required depth "procedures"
    let extensionSchema ← fs.required depth "extension_structure"
    let allowExtraProps ← fs.required depth "allowExtraProps"
    let policy ← fs.orDefault depth "policy" none
    let oauth2 ← fs.orDefault depth "oauth2" none
    let authModel ← fs.orDefault depth "authModel" none
    some { nameSpace, version, kinds, procedures, extensionSchema, allowExtraProps, policy,
           oauth2, authModel }
  write d := .object (
    [("prefix", .string d.nameSpace), ("version", .string d.version),
      ("kinds", Wire.write d.kinds), ("procedures", Wire.write d.procedures),
      ("extension_structure", d.extensionSchema),
      ("allowExtraProps", .bool d.allowExtraProps)] ++
    optionalMember "policy" d.policy ++ optionalMember "oauth2" d.oauth2 ++
    optionalMember "authModel" d.authModel)

end IntentProvider
