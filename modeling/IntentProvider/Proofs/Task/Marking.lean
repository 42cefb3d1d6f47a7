import IntentProvider.Proofs.Json.Place
import IntentProvider.Proofs.Task.Visibility

/-!
What the marks change in the schema of a payload. Main statement: the marked schema is the schema
with the mark put into those fields that have a type, and nothing else; marking it again changes
nothing.
-/

namespace IntentProvider.Task

open IntentProvider.Json

mutual

/-- Whether a path leads from a field to one with a type: to the field itself, or on through its
properties if its type is that of an object. -/
def fieldLeads (field : Value) : List String → Bool
  | [] => (field.get? "type").isSome
  | key :: path =>
      (field.get? "type").bind Value.string? == some "object" && key == "properties" &&
        (field.get? "properties").any (propertiesLead · path)

/-- Whether a path leads from properties to a field with a type, by names none of which is that of
the state. -/
def propertiesLead (properties : Value) : List String → Bool
  | [] => false
  | name :: path => name != stateField && (properties.get? name).any (fieldLeads · path)

end

/-- Where the properties are that a payload describes: it is a schema with a type and properties, or
else the properties themselves. -/
def propertiesPlace (payload : Value) : List String :=
  if (payload.get? "type").isSome && (payload.get? "properties").isSome then ["properties"] else []

/-- Whether a place in a payload is that of a field to be marked. -/
def isMarkedAt (payload : Value) (path : List String) : Bool :=
  (propertiesPlace payload).isPrefixOf path &&
    (payload.at? (propertiesPlace payload)).any
      (propertiesLead · (path.drop (propertiesPlace payload).length))

/-! Which paths lead to fields with a type. -/

theorem intersperse_cons (name : String) (names : List String) :
    (name :: names).intersperse "properties" =
      name :: names.flatMap fun next => ["properties", next] := by
  induction names generalizing name with
  | nil => rfl
  | cons next names ih =>
      rw [List.intersperse_cons_cons, ih, List.flatMap_cons]
      rfl

theorem field?_eq_some_iff {field f : Value} {name : String} :
    field? field name = some f ↔ field.get? "type" = some (.string "object") ∧
      ∃ properties, field.get? "properties" = some properties ∧ properties.get? name = some f := by
  unfold field?
  split
  · rename_i htype
    rw [Option.bind_eq_some_iff]
    simp [htype]
  · rename_i hother
    constructor
    · intro hnone
      cases hnone
    · rintro ⟨htype, -⟩
      exact absurd htype hother

theorem fieldLeads_cons_iff {field : Value} {key : String} {path : List String} :
    fieldLeads field (key :: path) = true ↔ key = "properties" ∧
      field.get? "type" = some (.string "object") ∧ ∃ properties,
        field.get? "properties" = some properties ∧ propertiesLead properties path = true := by
  rw [fieldLeads, Bool.and_eq_true, Bool.and_eq_true, beq_iff_eq, Value.bind_string?_eq_some_iff,
    beq_iff_eq, Option.any_eq_true, and_assoc, and_left_comm]

theorem propertiesLead_cons_iff {properties : Value} {name : String} {path : List String} :
    propertiesLead properties (name :: path) = true ↔ name ≠ stateField ∧
      ∃ field, properties.get? name = some field ∧ fieldLeads field path = true := by
  rw [propertiesLead, Bool.and_eq_true, bne_iff_ne, Option.any_eq_true]

theorem fieldLeads_of_fieldAt? {names : List String} (hstate : stateField ∉ names)
    {field f : Value} (hf : fieldAt? field names = some f) (htyped : Typed f) :
    fieldLeads field (names.flatMap fun name => ["properties", name]) = true := by
  induction names generalizing field with
  | nil =>
      cases hf
      exact htyped
  | cons name names ih =>
      rw [List.mem_cons, not_or] at hstate
      obtain ⟨next, hnext, hf⟩ := Option.bind_eq_some_iff.mp hf
      obtain ⟨htype, properties, hproperties, hname⟩ := field?_eq_some_iff.mp hnext
      rw [List.flatMap_cons, List.cons_append, List.singleton_append]
      refine fieldLeads_cons_iff.mpr ⟨rfl, htype, properties, hproperties, ?_⟩
      exact propertiesLead_cons_iff.mpr ⟨Ne.symm hstate.1, next, hname, ih hstate.2 hf⟩

mutual

theorem exists_of_fieldLeads {field : Value} : {path : List String} →
    fieldLeads field path = true → ∃ names f,
      path = names.flatMap (fun name => ["properties", name]) ∧ stateField ∉ names ∧
        fieldAt? field names = some f ∧ Typed f
  | [], h => ⟨[], field, rfl, List.not_mem_nil, rfl, h⟩
  | _ :: _, h => by
      obtain ⟨rfl, htype, properties, hproperties, hlead⟩ := fieldLeads_cons_iff.mp h
      obtain ⟨name, names, next, f, rfl, hstate, hnext, hf, htyped⟩ :=
        exists_of_propertiesLead hlead
      refine ⟨name :: names, f, rfl, hstate, ?_, htyped⟩
      rw [fieldAt?, field?_eq_some_iff.mpr ⟨htype, properties, hproperties, hnext⟩]
      exact hf

theorem exists_of_propertiesLead {properties : Value} : {path : List String} →
    propertiesLead properties path = true → ∃ name names field f,
      path = name :: names.flatMap (fun next => ["properties", next]) ∧
        stateField ∉ name :: names ∧ properties.get? name = some field ∧
        fieldAt? field names = some f ∧ Typed f
  | [], h => nomatch h
  | name :: _, h => by
      obtain ⟨hname, field, hfield, hlead⟩ := propertiesLead_cons_iff.mp h
      obtain ⟨names, f, rfl, hstate, hf, htyped⟩ := exists_of_fieldLeads hlead
      refine ⟨name, names, field, f, rfl, ?_, hfield, hf, htyped⟩
      rw [List.mem_cons, not_or]
      exact ⟨Ne.symm hname, hstate⟩

end

theorem propertiesLead_iff {properties : Value} {path : List String} :
    propertiesLead properties path = true ↔ ∃ name names field f,
      path = (name :: names).intersperse "properties" ∧ stateField ∉ name :: names ∧
        properties.get? name = some field ∧ fieldAt? field names = some f ∧ Typed f := by
  constructor
  · intro h
    obtain ⟨name, names, field, f, hpath, hrest⟩ := exists_of_propertiesLead h
    exact ⟨name, names, field, f, hpath.trans (intersperse_cons name names).symm, hrest⟩
  · rintro ⟨name, names, field, f, rfl, hstate, hfield, hf, htyped⟩
    rw [List.mem_cons, not_or] at hstate
    rw [intersperse_cons]
    exact propertiesLead_cons_iff.mpr
      ⟨Ne.symm hstate.1, field, hfield, fieldLeads_of_fieldAt? hstate.2 hf htyped⟩

/-- The places to be marked are those of the fields with a type, by names through properties. -/
theorem isMarkedAt_iff {payload : Value} {path : List String} :
    isMarkedAt payload path = true ↔ ∃ properties name names field f,
      payload.at? (propertiesPlace payload) = some properties ∧
        path = propertiesPlace payload ++ (name :: names).intersperse "properties" ∧
        stateField ∉ name :: names ∧ properties.get? name = some field ∧
        fieldAt? field names = some f ∧ Typed f := by
  rw [isMarkedAt, Bool.and_eq_true, List.isPrefixOf_iff_prefix, Option.any_eq_true]
  constructor
  · rintro ⟨⟨rest, rfl⟩, properties, hplace, hlead⟩
    rw [List.drop_left] at hlead
    obtain ⟨name, names, field, f, rfl, hrest⟩ := propertiesLead_iff.mp hlead
    exact ⟨properties, name, names, field, f, hplace, rfl, hrest⟩
  · rintro ⟨properties, name, names, field, f, hplace, rfl, hrest⟩
    refine ⟨List.prefix_append _ _, properties, hplace, ?_⟩
    rw [List.drop_left]
    exact propertiesLead_iff.mpr ⟨name, names, field, f, rfl, hrest⟩

/-! What is marked. -/

theorem markNested_eq_map (members : List (String × Value)) :
    markNested members =
      members.map fun m => (m.1, if m.1 = "properties" then markIfObject m.2 else m.2) := by
  induction members with
  | nil => rfl
  | cons m rest ih => rw [markNested, ih, List.map_cons]

theorem markProperties_eq_map (members : List (String × Value)) :
    markProperties members =
      members.map fun m => (m.1, if m.1 = stateField then m.2 else markField m.2) := by
  induction members with
  | nil => rfl
  | cons m rest ih => rw [markProperties, ih, List.map_cons]

section Exact

variable {members : List (String × Value)} {select : List String → Bool}

/-- The members of a schema are marked where the paths through its properties lead. -/
theorem markNested_eq_putMembersWhere (hkeys : (members.map (·.1)).Nodup)
    (hdistinct : ∀ m ∈ members, m.2.Distinct)
    (hmembers : ∀ m ∈ members, markIfObject m.2 =
      m.2.putWhere (propertiesLead m.2) visibilityMarker statusOnly)
    (hselect : ∀ key path, select (key :: path) =
      (key == "properties" && (members.lookup "properties").any (propertiesLead · path))) :
    markNested members = Value.putMembersWhere select visibilityMarker statusOnly members := by
  rw [markNested_eq_map, Value.putMembersWhere_eq_map]
  apply List.map_congr_left
  rintro ⟨key, v⟩ hm
  dsimp only
  by_cases hkey : key = "properties"
  · subst hkey
    have hlookup : members.lookup "properties" = some v :=
      (OrderedMap.lookup_eq_some_iff_mem hkeys).mpr hm
    have hlead : (fun path => select ("properties" :: path)) = propertiesLead v := by
      funext path
      simp [hselect, hlookup]
    rw [if_pos rfl, hlead, hmembers _ hm]
  · rw [if_neg hkey, Value.putWhere_of_forall_false (hdistinct _ hm)]
    intro path
    simp [hselect, hkey]

/-- Properties are marked where the paths through them lead. -/
theorem markProperties_eq_putMembersWhere (hkeys : (members.map (·.1)).Nodup)
    (hdistinct : ∀ m ∈ members, m.2.Distinct)
    (hmembers : ∀ m ∈ members, markField m.2 =
      m.2.putWhere (fieldLeads m.2) visibilityMarker statusOnly) :
    markProperties members =
      Value.putMembersWhere (propertiesLead (.object members)) visibilityMarker statusOnly
        members := by
  rw [markProperties_eq_map, Value.putMembersWhere_eq_map]
  apply List.map_congr_left
  rintro ⟨name, v⟩ hm
  dsimp only
  by_cases hname : name = stateField
  · rw [if_pos hname, Value.putWhere_of_forall_false (hdistinct _ hm)]
    intro path
    simp [propertiesLead, hname]
  · have hlookup : (Value.object members).get? name = some v :=
      (OrderedMap.lookup_eq_some_iff_mem hkeys).mpr hm
    have hlead : (fun path => propertiesLead (.object members) (name :: path)) = fieldLeads v := by
      funext path
      simp [propertiesLead, hlookup, hname]
    rw [if_neg hname, hlead, hmembers _ hm]

/-- A field is marked where the paths from it lead, and so are properties. -/
theorem marked_of_distinct {v : Value} (h : v.Distinct) :
    markField v = v.putWhere (fieldLeads v) visibilityMarker statusOnly ∧
      markIfObject v = v.putWhere (propertiesLead v) visibilityMarker statusOnly := by
  induction h with
  | @object members hkeys hdistinct ih =>
      have htype : (((Value.object members).get? "type").bind Value.string? == some "object") =
          isObjectType members := rfl
      constructor
      -- only objects are walked into, and from other fields no path leads on
      · have hbelow : (if isObjectType members then markNested members else members) =
            Value.putMembersWhere (fieldLeads (.object members)) visibilityMarker statusOnly
              members := by
          split
          · rename_i hobject
            refine markNested_eq_putMembersWhere hkeys hdistinct (fun m hm => (ih m hm).2) ?_
            intro key path
            rw [fieldLeads, htype, hobject, Bool.true_and]
            rfl
          · rename_i hother
            refine (Value.putMembersWhere_eq_self fun m hm => ?_).symm
            apply Value.putWhere_of_forall_false (hdistinct m hm)
            intro path
            rw [fieldLeads, htype, eq_false_of_ne_true hother, Bool.false_and, Bool.false_and]
        have htyped : ((if isObjectType members then markNested members else members).lookup
            "type").isSome = (members.lookup "type").isSome := by
          split
          · rw [lookup_markNested_of_ne (by decide)]
          · rfl
        rw [markField, putMarker, htyped, hbelow]
        rfl
      · rw [markIfObject, markProperties_eq_putMembersWhere hkeys hdistinct fun m hm => (ih m hm).1]
        rfl
  | _ => exact ⟨rfl, rfl⟩

theorem markStatusOnly_eq_putWhere {payload : Value} (h : payload.Distinct) :
    markStatusOnly payload =
      payload.putWhere (isMarkedAt payload) visibilityMarker statusOnly := by
  cases h with
  | @object members hkeys hdistinct =>
      rw [markStatusOnly]
      split
      · rename_i hschema
        have hplace : propertiesPlace (.object members) = ["properties"] := if_pos hschema
        have hroot : isMarkedAt (.object members) [] = false := by
          simp [isMarkedAt, hplace]
        have hbelow (key : String) (path : List String) :
            isMarkedAt (.object members) (key :: path) =
              (key == "properties" &&
                (members.lookup "properties").any (propertiesLead · path)) := by
          have hprefix : ["properties"].isPrefixOf (key :: path) = (key == "properties") := by
            rw [List.isPrefixOf, List.isPrefixOf, Bool.and_true, Bool.beq_comm]
          simp [isMarkedAt, hplace, hprefix, Value.at?, Value.get?, Value.members?]
        rw [markNested_eq_putMembersWhere hkeys hdistinct
            (fun m hm => (marked_of_distinct (hdistinct m hm)).2) hbelow,
          Value.putWhere, hroot]
        rfl
      · rename_i hbare
        have hplace : propertiesPlace (.object members) = [] := if_neg hbare
        have hlead : isMarkedAt (.object members) = propertiesLead (.object members) := by
          funext path
          simp [isMarkedAt, hplace, Value.at?]
        rw [hlead, ← (marked_of_distinct (.object hkeys hdistinct)).2, markIfObject]
  | _ => rfl

end Exact

/-! Marking again. -/

theorem putMarker_putMarker (members : List (String × Value)) :
    putMarker (putMarker members) = putMarker members := by
  have htyped : ((putMarker members).lookup "type").isSome = (members.lookup "type").isSome := by
    rw [lookup_putMarker_of_ne (by decide)]
  rw [putMarker, htyped]
  split
  · rename_i h
    rw [putMarker, if_pos h, OrderedMap.putEntry_putEntry]
  · rfl

/-- The mark is none of the properties. -/
theorem markNested_putMarker (members : List (String × Value)) :
    markNested (putMarker members) = putMarker (markNested members) := by
  have htyped : ((markNested members).lookup "type").isSome = (members.lookup "type").isSome := by
    rw [lookup_markNested_of_ne (by decide)]
  rw [putMarker, putMarker, htyped]
  split
  · simp only [markNested_eq_map]
    exact OrderedMap.map_putEntry (fun k v => if k = "properties" then markIfObject v else v) _ _ _
  · rfl

mutual

theorem markField_markField : (v : Value) → markField (markField v) = markField v
  | .object members => by
      have hnested := markNested_markNested members
      have htype : isObjectType (putMarker (if isObjectType members then markNested members
          else members)) = isObjectType members := by
        apply isObjectType_congr
        rw [lookup_putMarker_of_ne (by decide)]
        split
        · exact lookup_markNested_of_ne (by decide)
        · rfl
      rw [markField, markField, htype]
      split
      · rw [markNested_putMarker, hnested, putMarker_putMarker]
      · rw [putMarker_putMarker]
  | .null | .bool _ | .number _ | .string _ | .array _ => rfl

theorem markNested_markNested : (members : List (String × Value)) →
    markNested (markNested members) = markNested members
  | [] => rfl
  | (key, v) :: rest => by
      have hv := markIfObject_markIfObject v
      have hrest := markNested_markNested rest
      by_cases hkey : key = "properties" <;> simp [markNested, hkey, hv, hrest]

theorem markIfObject_markIfObject : (v : Value) → markIfObject (markIfObject v) = markIfObject v
  | .object members => by
      rw [markIfObject, markIfObject, markProperties_markProperties members]
  | .null | .bool _ | .number _ | .string _ | .array _ => rfl

theorem markProperties_markProperties : (members : List (String × Value)) →
    markProperties (markProperties members) = markProperties members
  | [] => rfl
  | (name, v) :: rest => by
      have hv := markField_markField v
      have hrest := markProperties_markProperties rest
      by_cases hname : name = stateField <;> simp [markProperties, hname, hv, hrest]

end

/-- A marked payload is read in the same way as before, as a schema or as the properties. -/
theorem markStatusOnly_markStatusOnly (payload : Value) :
    markStatusOnly (markStatusOnly payload) = markStatusOnly payload := by
  cases payload with
  | object members =>
      rw [markStatusOnly]
      split
      · rename_i hschema
        have hsame : ((markNested members).lookup "type").isSome &&
            ((markNested members).lookup "properties").isSome := by
          rw [lookup_markNested, lookup_markNested, Option.isSome_map, Option.isSome_map]
          exact hschema
        rw [markStatusOnly, if_pos hsame, markNested_markNested]
      · rename_i hbare
        have hsame : ¬ (((markProperties members).lookup "type").isSome &&
            ((markProperties members).lookup "properties").isSome) := by
          rw [lookup_markProperties, lookup_markProperties, Option.isSome_map, Option.isSome_map]
          exact hbare
        rw [markStatusOnly, if_neg hsame, markProperties_markProperties]
  | _ => rfl

/-! Below a state. -/

theorem at?_markField {path : List String}
    (h : ∀ properties : Value, (markIfObject properties).at? path = properties.at? path)
    (field : Value) :
    (markField field).at? ("properties" :: path) = field.at? ("properties" :: path) := by
  cases field with
  | object members =>
      have hget : (markField (.object members)).get? "properties" =
          (if isObjectType members then markNested members else members).lookup "properties" :=
        lookup_putMarker_of_ne (by decide)
      rw [Value.at?, Value.at?, hget]
      split
      · rw [lookup_markNested, Option.bind_map]
        exact Option.bind_congr fun properties _ => h properties
      · rfl
  | _ => rfl

/-- A state among properties stays as it is, and so does one further below. -/
theorem at?_markIfObject {names : List String} (h : stateField ∈ names) (properties : Value) :
    (markIfObject properties).at? (names.intersperse "properties") =
      properties.at? (names.intersperse "properties") := by
  induction names generalizing properties with
  | nil => cases h
  | cons name names ih =>
      by_cases hname : name = stateField
      · have hget : (markIfObject properties).get? name = properties.get? name := by
          simp [get?_markIfObject, hname]
        cases names with
        | nil => rw [List.intersperse_singleton, Value.at?, Value.at?, hget]
        | cons next names => rw [List.intersperse_cons_cons, Value.at?, Value.at?, hget]
      · have hbelow : stateField ∈ names := (List.mem_cons.mp h).resolve_left (Ne.symm hname)
        obtain ⟨next, names, rfl⟩ := List.exists_cons_of_ne_nil (List.ne_nil_of_mem hbelow)
        rw [List.intersperse_cons_cons, Value.at?, Value.at?, get?_markIfObject, Option.bind_map]
        refine Option.bind_congr fun field _ => ?_
        rw [Function.comp_apply, if_neg hname]
        exact at?_markField (ih hbelow) field

theorem at?_markStatusOnly {names : List String} (h : stateField ∈ names) (payload : Value) :
    (markStatusOnly payload).at? (propertiesPlace payload ++ names.intersperse "properties") =
      payload.at? (propertiesPlace payload ++ names.intersperse "properties") := by
  cases payload with
  | object members =>
      rw [markStatusOnly]
      split
      · rename_i hschema
        have hplace : propertiesPlace (.object members) = ["properties"] := if_pos hschema
        have hget : (Value.object (markNested members)).get? "properties" =
            ((Value.object members).get? "properties").map markIfObject := lookup_markNested _ _
        rw [hplace, List.singleton_append, Value.at?, Value.at?, hget, Option.bind_map]
        exact Option.bind_congr fun properties _ => at?_markIfObject h properties
      · rename_i hbare
        have hplace : propertiesPlace (.object members) = [] := if_neg hbare
        rw [hplace, List.nil_append]
        exact at?_markIfObject h (.object members)
  | _ => rfl

/-- The mark is put into the fields with a type, in place of any other, and nothing else changes. -/
theorem markStatusOnly_exact {payload : Value} (h : payload.Distinct) :
    markStatusOnly payload =
        payload.putWhere (isMarkedAt payload) visibilityMarker statusOnly ∧
      (∀ path, isMarkedAt payload path = true ↔ ∃ properties name names field f,
        payload.at? (propertiesPlace payload) = some properties ∧
          path = propertiesPlace payload ++ (name :: names).intersperse "properties" ∧
          stateField ∉ name :: names ∧ properties.get? name = some field ∧
          fieldAt? field names = some f ∧ Typed f) ∧
      (payload.members? = none → markStatusOnly payload = payload) ∧
      (∀ names : List String, stateField ∈ names →
        (markStatusOnly payload).at? (propertiesPlace payload ++ names.intersperse "properties") =
          payload.at? (propertiesPlace payload ++ names.intersperse "properties")) ∧
      markStatusOnly (markStatusOnly payload) = markStatusOnly payload := by
  refine ⟨markStatusOnly_eq_putWhere h, fun _ => isMarkedAt_iff, ?_,
    fun _ hnames => at?_markStatusOnly hnames payload, markStatusOnly_markStatusOnly payload⟩
  intro hother
  cases payload with
  | object members => cases hother
  | _ => rfl

/-- A payload whose properties have the names that the marks go by. -/
def namesakeSchema : Value :=
  .object
    [("type", .string "custom"),
      ("properties", .object
        [("type", .object [("type", .string "string"), ("x-papiea", .string "spec-only")]),
          ("x-papiea", .object [("title", .string "untyped")]),
          ("properties", .object
            [("properties", .object
              [("state", .object [("type", .string "object")]),
                ("state-of-rest", .object [("type", .string "array")])]),
              ("type", .string "object")]),
          ("state", .object [("type", .string "string")])])]

theorem markStatusOnly_namesakeSchema :
    namesakeSchema.Distinct ∧
      namesakeSchema.putWhere (isMarkedAt namesakeSchema) visibilityMarker statusOnly =
        .object
          [("type", .string "custom"),
            ("properties", .object
              [("type", .object [("type", .string "string"), ("x-papiea", .string "status-only")]),
                ("x-papiea", .object [("title", .string "untyped")]),
                ("properties", .object
                  [("properties", .object
                    [("state", .object [("type", .string "object")]),
                      ("state-of-rest", .object
                        [("type", .string "array"), ("x-papiea", .string "status-only")])]),
                    ("type", .string "object"), ("x-papiea", .string "status-only")]),
                ("state", .object [("type", .string "string")])])] ∧
      markStatusOnly (markStatusOnly namesakeSchema) = markStatusOnly namesakeSchema := by
  have hread : (Tree.ofValue namesakeSchema).value? 127 = some namesakeSchema := by rfl
  have hdistinct := Tree.distinct_of_value? _ hread
  obtain ⟨hequal, -, -, -, hagain⟩ := markStatusOnly_exact hdistinct
  exact ⟨hdistinct, hequal.symm.trans rfl, hagain⟩

end IntentProvider.Task
