import IntentProvider.Proofs.Catalogue.Stored
import IntentProvider.Proofs.Provider.Assembly

/-!
What of a task's payload may be set. The schema of the payload becomes a property in the schema of
the kind, and its fields are marked, so that they are seen in the status only. Main statement: every
field with a type is marked, however deep it is, unless its path goes through a state. The payload
as a whole is none of its own fields.
-/

namespace IntentProvider.Task

open IntentProvider.Json

/-- The schema of a field, where the schema is one of an object. -/
def field? (schema : Value) (name : String) : Option Value :=
  match schema.get? "type" with
  | some (.string "object") => (schema.get? "properties").bind (·.get? name)
  | _ => none

def fieldAt? (schema : Value) : List String → Option Value
  | [] => some schema
  | name :: path => (field? schema name).bind (fieldAt? · path)

theorem fieldAt?_concat (schema : Value) (path : List String) (name : String) :
    fieldAt? schema (path ++ [name]) = (fieldAt? schema path).bind (field? · name) := by
  induction path generalizing schema with
  | nil => simp [fieldAt?]
  | cons first path ih =>
      simp only [List.cons_append, fieldAt?, ih, Option.bind_assoc]

/-- The fields of one schema are those of the other, marked but for the state. -/
def MarksFields (schema marked : Value) : Prop :=
  ∀ name, field? marked name =
    (field? schema name).map fun f => if name = stateField then f else markField f

def Typed (schema : Value) : Prop :=
  (schema.get? "type").isSome

/-- The field can be seen in the status, and cannot be set through the spec. -/
def Hidden (schema : Value) : Prop :=
  schema.get? visibilityMarker = some (.string statusOnly)

section Members

variable {members : List (String × Value)} {key name : String} {v : Value}

theorem lookup_putMarker_of_ne (h : key ≠ visibilityMarker) :
    (putMarker members).lookup key = members.lookup key := by
  rw [putMarker]
  split
  · rw [OrderedMap.lookup_putEntry, if_neg h]
  · rfl

theorem lookup_putMarker_self (h : (members.lookup "type").isSome) :
    (putMarker members).lookup visibilityMarker = some (.string statusOnly) := by
  rw [putMarker, if_pos h, OrderedMap.lookup_putEntry, if_pos rfl]

theorem lookup_markNested (key : String) (members : List (String × Value)) :
    (markNested members).lookup key =
      (members.lookup key).map fun v => if key = "properties" then markIfObject v else v := by
  induction members with
  | nil => rfl
  | cons m rest ih =>
      rcases m with ⟨k, v⟩
      rw [markNested, List.lookup_cons, List.lookup_cons, ih]
      by_cases hk : key = k
      · simp [hk]
      · simp [beq_false_of_ne hk]

theorem lookup_markNested_of_ne (h : key ≠ "properties") :
    (markNested members).lookup key = members.lookup key := by
  simp [lookup_markNested, h]

theorem lookup_markProperties (name : String) (members : List (String × Value)) :
    (markProperties members).lookup name =
      (members.lookup name).map fun v => if name = stateField then v else markField v := by
  induction members with
  | nil => rfl
  | cons m rest ih =>
      rcases m with ⟨k, v⟩
      rw [markProperties, List.lookup_cons, List.lookup_cons, ih]
      by_cases hk : name = k
      · simp [hk]
      · simp [beq_false_of_ne hk]

theorem get?_markIfObject (name : String) (v : Value) :
    (markIfObject v).get? name =
      (v.get? name).map fun f => if name = stateField then f else markField f := by
  cases v with
  | object members => exact lookup_markProperties name members
  | _ => rfl

theorem isObjectType_iff :
    isObjectType members = true ↔ members.lookup "type" = some (.string "object") := by
  rw [isObjectType, beq_iff_eq, Value.bind_string?_eq_some_iff]

theorem field?_object (members : List (String × Value)) (name : String) :
    field? (.object members) name =
      if isObjectType members then (members.lookup "properties").bind (·.get? name) else none := by
  unfold field?
  split
  · rename_i htype
    rw [if_pos (isObjectType_iff.mpr htype)]
    rfl
  · rename_i hother
    rw [if_neg fun htype => hother (isObjectType_iff.mp htype)]

theorem isObjectType_congr {others : List (String × Value)}
    (h : members.lookup "type" = others.lookup "type") :
    isObjectType members = isObjectType others := by
  rw [isObjectType, h, isObjectType]

theorem field?_putMarker (members : List (String × Value)) (name : String) :
    field? (.object (putMarker members)) name = field? (.object members) name := by
  have htype : isObjectType (putMarker members) = isObjectType members :=
    isObjectType_congr (lookup_putMarker_of_ne (by decide))
  rw [field?_object, field?_object, htype, lookup_putMarker_of_ne (by decide)]

theorem marksFields_markNested (members : List (String × Value)) :
    MarksFields (.object members) (.object (markNested members)) := by
  intro name
  have htype : isObjectType (markNested members) = isObjectType members :=
    isObjectType_congr (lookup_markNested_of_ne (by decide))
  rw [field?_object, field?_object, htype, lookup_markNested]
  split
  · cases members.lookup "properties" with
    | none => rfl
    | some properties => exact get?_markIfObject name properties
  · rfl

end Members

theorem marksFields_markField (v : Value) : MarksFields v (markField v) := by
  cases v with
  | object members =>
      intro name
      rw [markField, field?_putMarker]
      cases hobject : isObjectType members with
      | true => exact marksFields_markNested members name
      | false => simp [field?_object, hobject]
  | _ => exact fun _ => rfl

theorem MarksFields.fieldAt? {schema marked : Value} (h : MarksFields schema marked)
    {path : List String} (hne : path ≠ []) (hpath : stateField ∉ path) :
    Task.fieldAt? marked path = (Task.fieldAt? schema path).map markField := by
  induction path generalizing schema marked with
  | nil => exact absurd rfl hne
  | cons name path ih =>
      rw [List.mem_cons, not_or] at hpath
      rw [Task.fieldAt?, Task.fieldAt?, h name]
      cases field? schema name with
      | none => rfl
      | some f =>
          rw [Option.map_some, Option.bind_some, Option.bind_some, if_neg (Ne.symm hpath.1)]
          by_cases hlast : path = []
          · subst hlast
            rfl
          · exact ih (marksFields_markField f) hlast hpath.2

theorem hidden_markField {v : Value} (h : Typed (markField v)) : Hidden (markField v) := by
  cases v with
  | object members =>
      rw [Typed, markField, Value.get?, Value.members?, Option.bind_some,
        lookup_putMarker_of_ne (by decide)] at h
      exact lookup_putMarker_self h
  | _ => cases h

section Payload

variable {payload : Value} {type : String}

/-- Whether the payload is taken for a schema or for the properties themselves, its fields are those
of a schema. -/
theorem marksFields_markStatusOnly (htype : payload.get? "type" = some (.string type)) :
    MarksFields payload (markStatusOnly payload) := by
  cases payload with
  | object members =>
      change members.lookup "type" = some (.string type) at htype
      rw [markStatusOnly]
      split
      · exact marksFields_markNested members
      -- a type without properties opens no fields, and the mark brings none
      · rename_i hbare
        have hnone : members.lookup "properties" = none := by
          cases hproperties : members.lookup "properties" with
          | none => rfl
          | some v =>
              rw [htype, hproperties] at hbare
              exact absurd rfl hbare
        intro name
        simp [field?_object, lookup_markProperties, hnone]
  | _ => exact fun _ => rfl

/-- What the schema of a payload has become in the schema of the kind. -/
structure Concealed (payload schema : Value) : Prop where
  hidden : ∀ path f, path ≠ [] → stateField ∉ path → fieldAt? schema path = some f → Typed f →
    Hidden f
  /-- No field comes or goes. -/
  fields : ∀ path, stateField ∉ path →
    ((fieldAt? schema path).isSome ↔ (fieldAt? payload path).isSome)
  /-- A state and all below it are left as they are. -/
  state : ∀ path, stateField ∉ path →
    fieldAt? schema (path ++ [stateField]) = fieldAt? payload (path ++ [stateField])
  /-- The payload itself is not among its fields. -/
  whole : (payload.get? "properties").isSome → (Hidden schema ↔ Hidden payload)

theorem concealed_markStatusOnly (htype : payload.get? "type" = some (.string type)) :
    Concealed payload (markStatusOnly payload) := by
  have hmarks := marksFields_markStatusOnly htype
  constructor
  · intro path f hne hpath hf htyped
    rw [hmarks.fieldAt? hne hpath] at hf
    obtain ⟨g, -, rfl⟩ := Option.map_eq_some_iff.mp hf
    exact hidden_markField htyped
  · intro path hpath
    by_cases hne : path = []
    · subst hne
      simp [fieldAt?]
    · rw [hmarks.fieldAt? hne hpath, Option.isSome_map]
  · intro path hpath
    rw [fieldAt?_concat, fieldAt?_concat]
    by_cases hne : path = []
    · subst hne
      simp [fieldAt?, hmarks stateField]
    · rw [hmarks.fieldAt? hne hpath, Option.bind_map]
      congr 1
      funext f
      simp [marksFields_markField f stateField]
  · intro hproperties
    cases payload with
    | object members =>
        have htyped : (members.lookup "type").isSome := by
          change members.lookup "type" = _ at htype
          rw [htype]
          rfl
        have hschema : (members.lookup "type").isSome && (members.lookup "properties").isSome := by
          rw [htyped]
          exact hproperties
        have hmark : (markStatusOnly (.object members)).get? visibilityMarker =
            (Value.object members).get? visibilityMarker := by
          rw [markStatusOnly, if_pos hschema]
          exact lookup_markNested_of_ne (by decide)
        rw [Hidden, hmark, Hidden]
    | _ => cases hproperties

end Payload

end IntentProvider.Task

namespace IntentProvider

open IntentProvider.Json

theorem Kind.schema_of_declare {declaration : Value} {k : Kind}
    (h : Kind.declare declaration = .ok k) : k.schema = declaration := by
  unfold Kind.declare at h
  split at h
  · cases h
  · split at h
    · cases h
    · split at h
      · cases h
        rfl
      · cases h
  · cases h

theorem Scope.record_schema (scope : Scope) (s : Signature) (k : Kind) :
    (scope.record s k).schema = k.schema := by
  cases scope <;> rfl

theorem Provider.schema_of_attach {p q : Provider} {a : Attachment} {name : String} {k : Kind}
    (h : p.Step (.attach a) q) (hkind : p.catalogue.kind? name = some k) :
    ∃ k', q.catalogue.kind? name = some k' ∧ k'.schema = k.schema := by
  cases h with
  | @attach _ s _ hs hc =>
      rcases Scope.insert_eq_ok hc with ⟨-, rfl⟩ | ⟨other, -, -, rfl⟩
      · exact ⟨k, hkind, rfl⟩
      · have hfound := Catalogue.kind?_modifyKind p.catalogue other name (a.scope.record_name s)
        rw [hkind] at hfound
        refine ⟨_, hfound, ?_⟩
        dsimp only
        split
        · exact a.scope.record_schema s k
        · rfl

/-- The schema of a task's payload in the schema of the kind of the task. -/
def Task.payloadSchema? (name : String) (schema : Value) : Option Value :=
  (schema.get? name).bind (field? · payloadField)

theorem Task.payloadSchema?_schema (name : String) (payload : Value) :
    payloadSchema? name (Task.schema name (some payload)) = some payload := by
  have hkind : (Task.schema name (some payload)).get? name = some (.object
      [("type", .string "object"), (behaviourMarker, .string Behaviour.differ.name),
        ("properties", .object
          [(stateField, .object [("type", .string "string")]), (payloadField, payload)])]) :=
    List.lookup_cons_self
  rw [payloadSchema?, hkind]
  rfl

namespace Assembly

theorem schema_of_attachTask {name : String} {interval : Nat}
    {work : Callback → Value → Activity (Outcome Unit)} {extension : Option Document}
    {payload : Option Value} {p p' : Provider} {t : Task}
    (h : attachTask name interval work extension payload p = .ok t p') :
    ∃ k, p'.catalogue.kind? name = some k ∧ k.schema = taskSchema name payload := by
  rcases attachTask_cases name interval work extension payload p with
    ⟨f, -, hrejected⟩ | ⟨k, q, hdeclare, hfree, htask, -, hattach⟩
  · rw [hrejected] at h
    cases h
  · rw [htask] at h
    cases h
    obtain rfl : k.name = name := name_of_declare_schema hdeclare
    obtain ⟨k', hkind, hschema⟩ := Provider.schema_of_attach hattach (kind?_addKind_self hfree)
    exact ⟨k', hkind, hschema.trans (Kind.schema_of_declare hdeclare)⟩

/-- Where a task is attached with a typed schema of its payload, the kind that this declares has the
payload concealed. -/
theorem payload_concealed {name : String} {interval : Nat}
    {work : Callback → Value → Activity (Outcome Unit)} {extension : Option Document}
    {payload : Value} {type : String} {p p' : Provider} {t : Task}
    (htype : payload.get? "type" = some (.string type))
    (h : Assembly.attachTask name interval work extension (some payload) p = .ok t p') :
    ∃ k schema, p'.catalogue.kind? name = some k ∧
      Task.payloadSchema? name k.schema = some schema ∧ Task.Concealed payload schema := by
  obtain ⟨k, hkind, hschema⟩ := Assembly.schema_of_attachTask h
  refine ⟨k, Task.markStatusOnly payload, hkind, ?_, Task.concealed_markStatusOnly htype⟩
  rw [hschema]
  exact Task.payloadSchema?_schema name (Task.markStatusOnly payload)

/-- A provider to which nothing is attached yet. -/
def bareProvider : Provider :=
  Provider.fresh { engineUrl := "http://engine:3000", key := "k" }

/-- Attaches a task that does nothing, with a schema of its payload. -/
def attachBeat (payload : Value) : EStateM.Result Failure Provider Task :=
  attachTask "beat" 1000 (fun _ _ => .done (.value ())) none (some payload) bareProvider

def progressSchema : Value :=
  .object [("type", .string "object"), ("properties", .object
    [("progress", .object [("type", .string "object"), ("properties", .object
      [("done", .object [("type", .string "integer")]),
        ("state", .object [("type", .string "string")])])])])]

theorem payload_concealed_progress :
    ∃ t p' k schema, attachBeat progressSchema = .ok t p' ∧
      p'.catalogue.kind? "beat" = some k ∧
      Task.payloadSchema? "beat" k.schema = some schema ∧
      Task.Concealed progressSchema schema := by
  have h : ∃ t p', attachBeat progressSchema = .ok t p' := ⟨_, _, rfl⟩
  obtain ⟨t, p', htask⟩ := h
  obtain ⟨k, schema, hkind, hschema, hconcealed⟩ := payload_concealed rfl htask
  exact ⟨t, p', k, schema, htask, hkind, hschema, hconcealed⟩

def countSchema : Value :=
  .object [("type", .string "object"), ("properties", .object
    [("count", .object [("type", .string "integer")])])]

/-- The schema of the payload is not marked itself, though it has a type. -/
theorem payload_settable_as_a_whole :
    ∃ t p' k schema, attachBeat countSchema = .ok t p' ∧
      p'.catalogue.kind? "beat" = some k ∧
      Task.payloadSchema? "beat" k.schema = some schema ∧
      Task.Typed schema ∧ ¬ Task.Hidden schema :=
  ⟨_, _, _, _, rfl, rfl, rfl, rfl, nofun⟩

end Assembly

end IntentProvider
