import IntentProvider.Callback.Dispatch
import IntentProvider.Proofs.Json.Wire

/-!
What the body of a callback carries. A blank body carries nothing; any other one is a document that
gives the fields of an envelope by name or by position. The entity that a handler is given is made
of what the body gives, with default metadata and empty halves in place of what it does not give.
-/

namespace IntentProvider

open IntentProvider.Json
open IntentProvider.Text

namespace Json

namespace Fields

/-- What a document gives for a field: the member with its name, or the item at its place. -/
def given? (names : List String) (name : String) : Tree → Option Tree
  | .object members => members.lookup (some name)
  | .array items => (names.zip items).lookup name
  | .null => none
  | .bool _ => none
  | .number _ => none
  | .string _ => none

theorem lookup_select? {names : List String} {name : String} (hname : name ∈ names)
    {found fs : Fields} {members : List (Option String × Tree)}
    (h : select? names found members = some fs) :
    fs.lookup name = (found.lookup name).or (members.lookup (some name)) := by
  induction members generalizing found with
  | nil =>
      cases h
      simp
  | cons member rest ih =>
      obtain ⟨_ | key, t⟩ := member
      · cases h
      · change (if names.contains key then
          if (found.lookup key).isSome then none else select? names (found ++ [(key, t)]) rest
          else select? names found rest) = some fs at h
        split at h
        · split at h
          · cases h
          · rw [ih h, List.lookup_append, Option.or_assoc]
            by_cases hkey : name = key
            · simp [hkey]
            · simp [List.lookup_cons, beq_false_of_ne hkey]
        · rename_i hother
          have hkey : name ≠ key := by
            rintro rfl
            exact hother (List.contains_iff_mem.mpr hname)
          rw [ih h]
          simp [List.lookup_cons, beq_false_of_ne hkey]

theorem lookup_read? {names : List String} {name : String} (hname : name ∈ names) {depth : Nat}
    {t : Tree} {fs : Fields} (h : read? names depth t = some fs) :
    fs.lookup name = given? names name t := by
  cases t with
  | object members =>
      rw [read?] at h
      split at h
      · cases h
      · exact lookup_select? hname h
  | array items =>
      rw [read?] at h
      split at h
      · cases h
      · cases h
        rfl
  | null => cases h
  | bool b => cases h
  | number n => cases h
  | string s => cases h

end Fields

theorem Wire.read?_option_cases {α : Type} [Wire α] {depth : Nat} {t : Tree} {a : Option α}
    (h : Wire.read? depth t = some a) :
    t = .null ∧ a = none ∨ t ≠ .null ∧ ∃ b, Wire.read? depth t = some b ∧ a = some b := by
  by_cases hnull : t = .null
  · subst hnull
    cases h
    exact .inl ⟨rfl, rfl⟩
  · rw [Wire.read?_some hnull] at h
    obtain ⟨b, hb, rfl⟩ := Option.map_eq_some_iff.mp h
    exact .inr ⟨hnull, b, hb, rfl⟩

/-- A field that may be left out or be null. -/
theorem Fields.orDefault_none_cases {α : Type} [Wire α] {depth : Nat} {name : String}
    {fs : Fields} {a : Option α} (h : fs.orDefault depth name none = some a) :
    (fs.lookup name = none ∨ fs.lookup name = some .null) ∧ a = none ∨
      ∃ t b, fs.lookup name = some t ∧ t ≠ .null ∧ Wire.read? (depth - 1) t = some b ∧
        a = some b := by
  unfold orDefault at h
  cases hlookup : fs.lookup name with
  | none =>
      rw [hlookup] at h
      cases h
      exact .inl ⟨.inl rfl, rfl⟩
  | some t =>
      rw [hlookup] at h
      rcases Wire.read?_option_cases h with ⟨rfl, rfl⟩ | ⟨hnull, b, hb, rfl⟩
      · exact .inl ⟨.inr rfl, rfl⟩
      · exact .inr ⟨t, b, rfl, hnull, hb, rfl⟩

/-- Only objects have documents as their values. -/
theorem Tree.document?_of_value? {depth : Nat} {t : Tree} {v : Value} (h : t.value? depth = some v)
    (hobject : ∀ members, t ≠ .object members) : v.document? = none := by
  cases t with
  | null =>
      cases h
      rfl
  | bool b =>
      cases h
      rfl
  | number n =>
      obtain ⟨_, -, rfl⟩ := Option.map_eq_some_iff.mp h
      rfl
  | string s =>
      obtain ⟨_, -, rfl⟩ := Option.map_eq_some_iff.mp h
      rfl
  | array items =>
      rw [value?] at h
      split at h
      · cases h
      · obtain ⟨_, -, rfl⟩ := Option.map_eq_some_iff.mp h
        rfl
  | object members => exact absurd rfl (hobject members)

theorem Tree.exists_document? {depth : Nat} {members : List (Option String × Tree)} {v : Value}
    (h : (Tree.object members).value? depth = some v) : ∃ d, v.document? = some d := by
  rw [value?] at h
  split at h
  · cases h
  · obtain ⟨_, -, rfl⟩ := Option.map_eq_some_iff.mp h
    exact ⟨_, rfl⟩

end Json

namespace Envelope

def fieldNames : List String :=
  ["metadata", "spec", "status", "input"]

/-- An envelope is carried by a body that is blank, or from whose document it is read. -/
inductive Carries (body : ByteArray) : Envelope → Prop where
  | blank (h : body.toList.all isAsciiBlank = true) : Carries body {}
  | document {e : Envelope} (h : body.toList.all isAsciiBlank = false)
      (he : Wire.ofBytes? Envelope body = some e) : Carries body e

structure Unreadable (body : ByteArray) : Prop where
  notBlank : body.toList.all isAsciiBlank = false
  refused : Wire.ofBytes? Envelope body = none

theorem ofBody_cases (body : ByteArray) :
    Unreadable body ∧ ofBody body = .error malformed ∨
      ∃ e, Carries body e ∧ ofBody body = .ok e := by
  unfold ofBody
  cases hblank : body.toList.all isAsciiBlank with
  | true => exact .inr ⟨{}, .blank hblank, rfl⟩
  | false =>
      cases he : Wire.ofBytes? Envelope body with
      | none => exact .inl ⟨⟨hblank, he⟩, rfl⟩
      | some e => exact .inr ⟨e, .document hblank he, rfl⟩

theorem ofBody_of_carries {body : ByteArray} {e : Envelope} (h : Carries body e) :
    ofBody body = .ok e := by
  unfold ofBody
  cases h with
  | blank h => rw [if_pos h]
  | document h he => rw [if_neg (Bool.eq_false_iff.mp h), he]

theorem ofBody_of_unreadable {body : ByteArray} (h : Unreadable body) :
    ofBody body = .error malformed := by
  rw [ofBody, if_neg (Bool.eq_false_iff.mp h.notBlank), h.refused]

/-- What a body gives for a field of the envelope. -/
def given? (body : ByteArray) (name : String) : Option Tree :=
  if body.toList.all isAsciiBlank then none
  else (Tree.ofBytes? body).bind (Fields.given? fieldNames name)

/-- A half of an entity is what the body gives for it if this is an object, and empty if not. -/
structure DeliveredHalf (given : Option Tree) (half : Document) : Prop where
  missing : (∀ members, given ≠ some (.object members)) → half = {}
  present : ∀ members, given = some (.object members) →
    Wire.read? (Tree.depthLimit - 1) (.object members) = some half

structure DeliveredMetadata (given : Option Tree) (metadata : Metadata) : Prop where
  missing : given = none ∨ given = some .null → metadata = {}
  present : ∀ t, given = some t → t ≠ .null →
    Wire.read? (Tree.depthLimit - 1) t = some metadata

/-- The entity that a handler is given has what the body gives, and otherwise defaults. -/
structure Delivered (body : ByteArray) (entity : Entity) : Prop where
  metadata : DeliveredMetadata (given? body "metadata") entity.metadata
  spec : DeliveredHalf (given? body "spec") entity.spec
  status : DeliveredHalf (given? body "status") entity.status

theorem deliveredHalf_documentOf {name : String} {fs : Fields} {half : Option Value}
    (h : fs.orDefault Tree.depthLimit name none = some half) :
    DeliveredHalf (fs.lookup name) (documentOf half) := by
  rcases Fields.orDefault_none_cases h with ⟨habsent, rfl⟩ | ⟨t, v, hlookup, -, hv, rfl⟩
  · constructor
    · intro _
      rfl
    · intro members hmembers
      rcases habsent with habsent | habsent
      · cases habsent.symm.trans hmembers
      · cases habsent.symm.trans hmembers
  · rw [hlookup]
    constructor
    · intro hother
      have hobject : ∀ members, t ≠ .object members := by
        rintro members rfl
        exact hother members rfl
      rw [documentOf, Option.bind_some, Tree.document?_of_value? hv hobject]
      rfl
    · rintro members hmembers
      cases hmembers
      obtain ⟨d, hd⟩ := Tree.exists_document? hv
      change (Tree.value? _ _).bind Value.document? = _
      rw [documentOf, Option.bind_some, hd]
      exact (congrArg (Option.bind · Value.document?) hv).trans hd

theorem deliveredMetadata_getD {name : String} {fs : Fields} {metadata : Option Metadata}
    (h : fs.orDefault Tree.depthLimit name none = some metadata) :
    DeliveredMetadata (fs.lookup name) (metadata.getD {}) := by
  rcases Fields.orDefault_none_cases h with ⟨habsent, rfl⟩ | ⟨t, m, hlookup, hnull, hm, rfl⟩
  · constructor
    · intro _
      rfl
    · intro t ht hnull
      rcases habsent with habsent | habsent
      · cases habsent.symm.trans ht
      · cases habsent.symm.trans ht
        exact absurd rfl hnull
  · rw [hlookup]
    constructor
    · rintro (habsent | habsent)
      · cases habsent
      · cases habsent
        exact absurd rfl hnull
    · rintro t' ht' -
      cases ht'
      exact hm

/-- The parts of a document from which an envelope has been read. -/
theorem exists_fields {t : Tree} {e : Envelope} (h : Wire.ofTree? Envelope t = some e) :
    ∃ fs, Fields.read? fieldNames Tree.depthLimit t = some fs ∧
      fs.orDefault Tree.depthLimit "metadata" none = some e.metadata ∧
      fs.orDefault Tree.depthLimit "spec" none = some e.spec ∧
      fs.orDefault Tree.depthLimit "status" none = some e.status := by
  obtain ⟨fs, hfs, h⟩ := Option.bind_eq_some_iff.mp h
  obtain ⟨metadata, hmetadata, h⟩ := Option.bind_eq_some_iff.mp h
  obtain ⟨spec, hspec, h⟩ := Option.bind_eq_some_iff.mp h
  obtain ⟨status, hstatus, h⟩ := Option.bind_eq_some_iff.mp h
  obtain ⟨input, -, h⟩ := Option.bind_eq_some_iff.mp h
  cases h
  exact ⟨fs, hfs, hmetadata, hspec, hstatus⟩

theorem delivered_entity {body : ByteArray} {e : Envelope} (h : Carries body e) :
    Delivered body e.entity := by
  cases h with
  | blank h =>
      have hgiven : ∀ name, given? body name = none := fun name => if_pos h
      constructor
      · rw [hgiven]
        exact ⟨fun _ => rfl, nofun⟩
      · rw [hgiven]
        exact ⟨fun _ => rfl, nofun⟩
      · rw [hgiven]
        exact ⟨fun _ => rfl, nofun⟩
  | document h he =>
      obtain ⟨t, ht, he⟩ := Option.bind_eq_some_iff.mp he
      obtain ⟨fs, hfs, hmetadata, hspec, hstatus⟩ := exists_fields he
      have hgiven : ∀ name ∈ fieldNames, given? body name = fs.lookup name := by
        intro name hname
        rw [given?, if_neg (Bool.eq_false_iff.mp h), ht, Fields.lookup_read? hname hfs]
        rfl
      constructor
      · rw [hgiven "metadata" (by decide)]
        exact deliveredMetadata_getD hmetadata
      · rw [hgiven "spec" (by decide)]
        exact deliveredHalf_documentOf hspec
      · rw [hgiven "status" (by decide)]
        exact deliveredHalf_documentOf hstatus

end Envelope

end IntentProvider
