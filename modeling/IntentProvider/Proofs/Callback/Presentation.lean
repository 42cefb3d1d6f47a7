import IntentProvider.Proofs.Callback.Boundary
import IntentProvider.Proofs.Json.Grammar
import IntentProvider.Proofs.Map.Ordered
import Mathlib.Logic.Relation

/-!
How the body of a callback is presented does not matter. Its members may come in another order,
members of other names may come between them, blanks may be anywhere, a half of the entity that is
no object may be null or left out, and the four values may be given by position: handlers are
given the same entity and the same input. Only to give a member twice is an error.
-/

namespace IntentProvider

open IntentProvider.Http
open IntentProvider.Json
open IntentProvider.Text

namespace Json

namespace Fields

/-- The members that are fields. -/
def known (names : List String) (members : List (Option String × Tree)) : Fields :=
  members.filterMap fun m => m.1.bind fun key => if key ∈ names then some (key, m.2) else none

theorem known_append (names : List String) (before after : List (Option String × Tree)) :
    known names (before ++ after) = known names before ++ known names after :=
  List.filterMap_append

theorem known_cons_of_mem {names : List String} {key : String} (h : key ∈ names) (t : Tree)
    (members : List (Option String × Tree)) :
    known names ((some key, t) :: members) = (key, t) :: known names members := by
  rw [known, List.filterMap_cons, Option.bind_some, if_pos h]
  rfl

theorem known_cons_of_notMem {names : List String} {key : String} (h : key ∉ names) (t : Tree)
    (members : List (Option String × Tree)) :
    known names ((some key, t) :: members) = known names members := by
  rw [known, List.filterMap_cons, Option.bind_some, if_neg h]
  rfl

theorem count_known {names : List String} {name : String} (h : name ∈ names)
    (members : List (Option String × Tree)) :
    ((known names members).map (·.1)).count name = (members.map (·.1)).count (some name) := by
  induction members with
  | nil => rfl
  | cons m members ih =>
      obtain ⟨_ | key, t⟩ := m
      · exact ih
      · by_cases hkey : key ∈ names
        · rw [known_cons_of_mem hkey, List.map_cons, List.map_cons, List.count_cons,
            List.count_cons, ih]
          rfl
        · have hne : some key ≠ some name := by
            rintro ⟨⟩
            exact hkey h
          rw [known_cons_of_notMem hkey, List.map_cons, List.count_cons_of_ne hne, ih]

theorem select?_cons_of_notMem {names : List String} {key : String} (h : key ∉ names) (t : Tree)
    (found : Fields) (members : List (Option String × Tree)) :
    select? names found ((some key, t) :: members) = select? names found members := by
  simp [select?, h]

theorem select?_cons_of_mem {names : List String} {key : String} (h : key ∈ names) (t : Tree)
    (found : Fields) (members : List (Option String × Tree)) :
    select? names found ((some key, t) :: members) =
      if found.lookup key = none then select? names (found ++ [(key, t)]) members else none := by
  cases hfound : found.lookup key <;> simp [select?, h, hfound]

/-- Members are selected if their keys are texts and no field comes twice. -/
theorem select?_eq_some_iff {names : List String} {found fs : Fields}
    {members : List (Option String × Tree)} (hfound : (found.map (·.1)).Nodup) :
    select? names found members = some fs ↔
      (∀ m ∈ members, m.1.isSome) ∧ ((found ++ known names members).map (·.1)).Nodup ∧
        found ++ known names members = fs := by
  induction members generalizing found with
  | nil => simp [select?, known, hfound]
  | cons m members ih =>
      obtain ⟨_ | key, t⟩ := m
      · constructor
        · rintro ⟨⟩
        · rintro ⟨hkeys, -⟩
          cases hkeys (none, t) List.mem_cons_self
      · have hkeys : (∀ m ∈ (some key, t) :: members, m.1.isSome) ↔ ∀ m ∈ members, m.1.isSome := by
          simp
        rw [hkeys]
        by_cases hkey : key ∈ names
        · rw [select?_cons_of_mem hkey, known_cons_of_mem hkey]
          -- a key that was found before is refused, and it stands twice among the fields
          by_cases hmem : key ∈ found.map (·.1)
          · rw [if_neg fun hnone => ?_]
            · constructor
              · rintro ⟨⟩
              · rintro ⟨-, hnodup, -⟩
                rw [List.map_append, List.map_cons] at hnodup
                exact absurd List.mem_cons_self (List.disjoint_of_nodup_append hnodup hmem)
            · obtain ⟨f, hf, rfl⟩ := List.mem_map.mp hmem
              simpa using List.lookup_eq_none_iff.mp hnone f hf
          · have hnodup : ((found ++ [(key, t)]).map (·.1)).Nodup := by
              rw [List.map_append, List.map_singleton, ← List.concat_eq_append]
              exact hfound.concat hmem
            rw [if_pos (OrderedMap.lookup_eq_none_of_notMem hmem), ih hnodup, List.append_assoc]
            rfl
        · rw [select?_cons_of_notMem hkey, known_cons_of_notMem hkey, ih hfound]

theorem lookup_of_perm {fs others : Fields} (h : fs.Perm others) (hdistinct : (fs.map (·.1)).Nodup)
    (name : String) : others.lookup name = fs.lookup name := by
  have hdistinct' : (others.map (·.1)).Nodup := (h.map _).nodup_iff.mp hdistinct
  refine Option.ext fun t => ?_
  rw [OrderedMap.lookup_eq_some_iff_mem hdistinct', OrderedMap.lookup_eq_some_iff_mem hdistinct,
    h.mem_iff]

end Fields

end Json

namespace Text

theorem isAsciiBlank_cases {b : UInt8} (h : isAsciiBlank b = true) :
    b ∈ [0x20, 0x09, 0x0A, 0x0C, 0x0D] := by
  simpa [isAsciiBlank, or_assoc] using h

/-- Blank bytes are characters of their own. -/
theorem decodeOnto_blank {bytes : List UInt8} (h : ∀ b ∈ bytes, isAsciiBlank b = true)
    (done : List Glyph) :
    Glyph.decodeOnto done 0 bytes =
      done.reverse ++ bytes.map fun b => .char (Char.ofNat b.toNat) := by
  have hfirst : ∀ b ∈ [0x20, 0x09, 0x0A, 0x0C, 0x0D], ∀ rest,
      Glyph.first b rest = (some (Char.ofNat b.toNat), 0) := by
    intro b hb rest
    simp only [List.mem_cons, List.not_mem_nil, or_false] at hb
    rcases hb with rfl | rfl | rfl | rfl | rfl <;> rfl
  induction bytes generalizing done with
  | nil => simp [Glyph.decodeOnto]
  | cons b bytes ih =>
      obtain ⟨hb, hbytes⟩ := List.forall_mem_cons.mp h
      rw [Glyph.decodeOnto, hfirst b (isAsciiBlank_cases hb)]
      simp [ih hbytes, Glyph.ofChar?]

end Text

open IntentProvider.Json.Tree

namespace Envelope

/-- The fields that are halves of the entity. -/
def halves : List String :=
  ["spec", "status"]

/-- What may be given for a field in place of something else. -/
inductive Stands (name : String) : Option Tree → Option Tree → Prop where
  | same (given : Option Tree) : Stands name given given
  | absent : Stands name none (some .null)
  | half {given other : Option Tree} (hname : name ∈ halves)
      (hgiven : ∀ members, given ≠ some (.object members))
      (hother : other = none ∨ other = some .null) : Stands name given other

/-- Two envelopes that give handlers the same. -/
structure Alike (e f : Envelope) : Prop where
  entity : f.entity = e.entity
  input : f.input = e.input

theorem Alike.trans {e f g : Envelope} (h : Alike e f) (h' : Alike f g) : Alike e g :=
  ⟨h'.entity.trans h.entity, h'.input.trans h.input⟩

def ofFields? (fs : Fields) : Option Envelope := do
  let metadata ← fs.orDefault depthLimit "metadata" none
  let spec ← fs.orDefault depthLimit "spec" none
  let status ← fs.orDefault depthLimit "status" none
  let input ← fs.orDefault depthLimit "input" Value.null
  some { metadata, spec, status, input }

theorem ofTree?_eq (t : Tree) :
    Wire.ofTree? Envelope t = (Fields.read? fieldNames depthLimit t).bind ofFields? :=
  rfl

section

variable {fs others : Fields} {name : String}

theorem orDefault_of_stands {α : Type} [Wire α] {default a : α} (hname : name ∉ halves)
    (hnull : Wire.read? (depthLimit - 1) .null = some default)
    (h : Stands name (fs.lookup name) (others.lookup name))
    (ha : fs.orDefault depthLimit name default = some a) :
    others.orDefault depthLimit name default = some a := by
  unfold Fields.orDefault at ha ⊢
  generalize fs.lookup name = given at h ha
  generalize others.lookup name = other at h
  cases h with
  | same => exact ha
  | absent => exact hnull.trans ha
  | half hhalf => exact absurd hhalf hname

theorem documentOf_of_stands {half : Option Value}
    (h : Stands name (fs.lookup name) (others.lookup name))
    (hhalf : fs.orDefault depthLimit name none = some half) :
    ∃ other, others.orDefault depthLimit name none = some other ∧
      documentOf other = documentOf half := by
  have hdelivered := deliveredHalf_documentOf hhalf
  unfold Fields.orDefault at hhalf ⊢
  generalize fs.lookup name = given at h hhalf hdelivered
  generalize others.lookup name = other at h
  cases h with
  | same => exact ⟨half, hhalf, rfl⟩
  | absent =>
      cases hhalf
      exact ⟨none, rfl, rfl⟩
  | half hname hgiven hother =>
      refine ⟨none, ?_, (hdelivered.missing hgiven).symm⟩
      rcases hother with rfl | rfl <;> rfl

theorem ofFields?_of_stands {e : Envelope}
    (h : ∀ name ∈ fieldNames, Stands name (fs.lookup name) (others.lookup name))
    (he : ofFields? fs = some e) : ∃ f, ofFields? others = some f ∧ Alike e f := by
  obtain ⟨metadata, hmetadata, he⟩ := Option.bind_eq_some_iff.mp he
  obtain ⟨spec, hspec, he⟩ := Option.bind_eq_some_iff.mp he
  obtain ⟨status, hstatus, he⟩ := Option.bind_eq_some_iff.mp he
  obtain ⟨input, hinput, he⟩ := Option.bind_eq_some_iff.mp he
  cases he
  have hmetadata' := orDefault_of_stands (by decide) rfl (h "metadata" (by decide)) hmetadata
  have hinput' := orDefault_of_stands (by decide) rfl (h "input" (by decide)) hinput
  obtain ⟨spec', hspec', hsame⟩ := documentOf_of_stands (h "spec" (by decide)) hspec
  obtain ⟨status', hstatus', hsame'⟩ := documentOf_of_stands (h "status" (by decide)) hstatus
  refine ⟨⟨metadata, spec', status', input⟩, ?_, ?_, rfl⟩
  · simp [ofFields?, hmetadata', hspec', hstatus', hinput']
  · rw [Envelope.entity, Envelope.entity, hsame, hsame']

end

/-! Members as they are spelled. -/

abbrev Members := List (Quoted × Phrase)

def fields (ms : Members) : Fields :=
  Fields.known fieldNames (Phrase.memberTrees ms)

/-- The keys are texts, and no field comes twice. -/
structure Readable (ms : Members) : Prop where
  keys : ∀ m ∈ ms, m.1.text.isSome
  distinct : ((fields ms).map (·.1)).Nodup

theorem read?_object_iff {ms : Members} {fs : Fields} :
    Fields.read? fieldNames depthLimit (Phrase.object ms).tree = some fs ↔
      Readable ms ∧ fields ms = fs := by
  have hkeys : (∀ m ∈ Phrase.memberTrees ms, m.1.isSome) ↔ ∀ m ∈ ms, m.1.text.isSome := by
    rw [Phrase.memberTrees_eq_map, List.forall_mem_map]
  have hnodup : (([] : Fields).map (·.1)).Nodup := List.nodup_nil
  change Fields.select? fieldNames [] (Phrase.memberTrees ms) = some fs ↔ _
  rw [Fields.select?_eq_some_iff hnodup, hkeys, List.nil_append, ← and_assoc]
  exact and_congr_left' ⟨fun h => ⟨h.1, h.2⟩, fun h => ⟨h.keys, h.distinct⟩⟩

/-- An object in which a field comes twice is refused. -/
theorem ofTree?_eq_none_of_repeated {ms : Members} {name : String} (hname : name ∈ fieldNames)
    (h : 1 < ((Phrase.memberTrees ms).map (·.1)).count (some name)) :
    Wire.ofTree? Envelope (Phrase.object ms).tree = none := by
  rw [ofTree?_eq, Option.bind_eq_none_iff]
  intro fs hfs
  obtain ⟨hms, -⟩ := read?_object_iff.mp hfs
  have hcount := List.nodup_iff_count_le_one.mp hms.distinct name
  rw [fields, Fields.count_known hname] at hcount
  omega

theorem fields_append (before after : Members) :
    fields (before ++ after) = fields before ++ fields after := by
  rw [fields, Phrase.memberTrees_eq_map, List.map_append, Fields.known_append,
    ← Phrase.memberTrees_eq_map, ← Phrase.memberTrees_eq_map]
  rfl

theorem fields_cons_of_mem {key : Quoted} {name : String} (hkey : key.text = some name)
    (hname : name ∈ fieldNames) (x : Phrase) (ms : Members) :
    fields ((key, x) :: ms) = (name, x.tree) :: fields ms := by
  rw [fields, Phrase.memberTrees, hkey]
  exact Fields.known_cons_of_mem hname x.tree _

theorem fields_cons_of_notMem {key : Quoted} {name : String} (hkey : key.text = some name)
    (hname : name ∉ fieldNames) (x : Phrase) (ms : Members) :
    fields ((key, x) :: ms) = fields ms := by
  rw [fields, Phrase.memberTrees, hkey]
  exact Fields.known_cons_of_notMem hname x.tree _

/-- One change to how the members of a body are presented. -/
inductive Restated : Members → Members → Prop where
  | permuted {ms others : Members} (h : ms.Perm others) : Restated ms others
  | added (before : Members) (m : Quoted × Phrase) (after : Members) {name : String}
      (hname : m.1.text = some name) (hunknown : name ∉ fieldNames) :
      Restated (before ++ after) (before ++ m :: after)
  | dropped (before : Members) (m : Quoted × Phrase) (after : Members) {name : String}
      (hname : m.1.text = some name) (hhalf : name ∈ halves) (hnull : m.2.tree = .null) :
      Restated (before ++ m :: after) (before ++ after)
  | nulled (before : Members) (key : Quoted) (x y : Phrase) (after : Members) {name : String}
      (hname : key.text = some name) (hhalf : name ∈ halves)
      (hother : ∀ members, x.tree ≠ .object members) (hnull : y.tree = .null) :
      Restated (before ++ (key, x) :: after) (before ++ (key, y) :: after)

theorem mem_fieldNames_of_mem_halves {name : String} (h : name ∈ halves) : name ∈ fieldNames := by
  simp only [halves, List.mem_cons, List.not_mem_nil, or_false] at h
  rcases h with rfl | rfl <;> decide

/-- A half that is no object may be null or left out. -/
theorem stands_of_half {before after others : Fields} {name : String} {t : Tree}
    (hhalf : name ∈ halves) (ht : ∀ members, t ≠ .object members)
    (hothers : others = [] ∨ others = [(name, .null)])
    (hdistinct : ((before ++ (name, t) :: after).map (·.1)).Nodup) :
    ((before ++ (others ++ after)).map (·.1)).Nodup ∧
      ∀ n, Stands n ((before ++ (name, t) :: after).lookup n)
        ((before ++ (others ++ after)).lookup n) := by
  have hmiddle : (name :: (before ++ after).map (·.1)).Nodup := by
    rw [List.map_append, List.map_cons] at hdistinct
    rw [List.map_append]
    exact List.nodup_middle.mp hdistinct
  have hothers' : ((before ++ (others ++ after)).map (·.1)).Nodup := by
    rcases hothers with rfl | rfl
    · exact (List.nodup_cons.mp hmiddle).2
    · simpa using hdistinct
  refine ⟨hothers', fun n => ?_⟩
  by_cases hn : n = name
  · subst hn
    have hgiven : (before ++ (n, t) :: after).lookup n = some t :=
      (OrderedMap.lookup_eq_some_iff_mem hdistinct).mpr (by simp)
    rw [hgiven]
    refine .half hhalf (fun members h => ht members (Option.some.inj h)) ?_
    rcases hothers with rfl | rfl
    · exact .inl (OrderedMap.lookup_eq_none_of_notMem (List.nodup_cons.mp hmiddle).1)
    · exact .inr ((OrderedMap.lookup_eq_some_iff_mem hothers').mpr (by simp))
  · have hsame : (before ++ (others ++ after)).lookup n =
        (before ++ (name, t) :: after).lookup n := by
      rcases hothers with rfl | rfl <;>
        simp [List.lookup_append, List.lookup_cons, beq_false_of_ne hn]
    rw [hsame]
    exact .same _

theorem stands_of_emptied {before after others : Members} {key : Quoted} {x : Phrase}
    {name : String} (hname : key.text = some name) (hhalf : name ∈ halves)
    (hx : ∀ members, x.tree ≠ .object members)
    (hothers : others = [] ∨ ∃ y : Phrase, others = [(key, y)] ∧ y.tree = .null)
    (hms : Readable (before ++ (key, x) :: after)) :
    Readable (before ++ (others ++ after)) ∧
      ∀ n, Stands n ((fields (before ++ (key, x) :: after)).lookup n)
        ((fields (before ++ (others ++ after))).lookup n) := by
  have hmem : name ∈ fieldNames := mem_fieldNames_of_mem_halves hhalf
  have hfields : fields others = [] ∨ fields others = [(name, .null)] := by
    rcases hothers with rfl | ⟨y, rfl, hy⟩
    · exact .inl rfl
    · right
      rw [fields_cons_of_mem hname hmem, hy]
      rfl
  have hkeys : ∀ m ∈ before ++ (others ++ after), m.1.text.isSome := by
    have hall := hms.keys
    rw [List.forall_mem_append, List.forall_mem_cons] at hall
    rw [List.forall_mem_append, List.forall_mem_append]
    refine ⟨hall.1, ?_, hall.2.2⟩
    rcases hothers with rfl | ⟨y, rfl, -⟩
    · exact List.forall_mem_nil _
    · exact List.forall_mem_singleton.mpr hall.2.1
  have hdistinct := hms.distinct
  rw [fields_append, fields_cons_of_mem hname hmem] at hdistinct ⊢
  obtain ⟨hdistinct', hstands⟩ := stands_of_half hhalf hx hfields hdistinct
  rw [← fields_append, ← fields_append] at hdistinct'
  rw [fields_append before, fields_append others]
  exact ⟨⟨hkeys, hdistinct'⟩, hstands⟩

theorem Restated.stands {ms others : Members} (h : Restated ms others) (hms : Readable ms) :
    Readable others ∧
      ∀ name, Stands name ((fields ms).lookup name) ((fields others).lookup name) := by
  cases h with
  | permuted h =>
      have hperm : (fields ms).Perm (fields others) := by
        rw [fields, fields, Phrase.memberTrees_eq_map, Phrase.memberTrees_eq_map]
        exact (h.map _).filterMap _
      refine ⟨⟨fun m hm => hms.keys m (h.mem_iff.mpr hm), ?_⟩, fun name => ?_⟩
      · exact (hperm.map _).nodup_iff.mp hms.distinct
      · rw [Fields.lookup_of_perm hperm hms.distinct]
        exact .same _
  | added before m after hname hunknown =>
      obtain ⟨key, x⟩ := m
      have hfields : fields (before ++ (key, x) :: after) = fields (before ++ after) := by
        rw [fields_append, fields_append, fields_cons_of_notMem hname hunknown]
      have hkeys : ∀ m ∈ before ++ (key, x) :: after, m.1.text.isSome := by
        intro m hm
        rcases List.mem_cons.mp (List.perm_middle.mem_iff.mp hm) with rfl | hm
        · exact hname ▸ rfl
        · exact hms.keys m hm
      rw [hfields]
      exact ⟨⟨hkeys, hfields ▸ hms.distinct⟩, fun name => .same _⟩
  | dropped before m after hname hhalf hnull =>
      exact stands_of_emptied hname hhalf (by simp [hnull]) (.inl rfl) hms
  | nulled before key x y after hname hhalf hother hnull =>
      exact stands_of_emptied hname hhalf hother (.inr ⟨y, rfl, hnull⟩) hms

theorem Restated.alike {ms others : Members} (h : Restated ms others) {e : Envelope}
    (he : Wire.ofTree? Envelope (Phrase.object ms).tree = some e) :
    ∃ f, Wire.ofTree? Envelope (Phrase.object others).tree = some f ∧ Alike e f := by
  rw [ofTree?_eq] at he
  obtain ⟨fs, hfs, he⟩ := Option.bind_eq_some_iff.mp he
  obtain ⟨hms, rfl⟩ := read?_object_iff.mp hfs
  obtain ⟨hothers, hstands⟩ := h.stands hms
  obtain ⟨f, hf, halike⟩ := ofFields?_of_stands (fun name _ => hstands name) he
  refine ⟨f, ?_, halike⟩
  rw [ofTree?_eq, read?_object_iff.mpr ⟨hothers, rfl⟩]
  exact hf

theorem alike_of_restatements {ms others : Members} (h : Relation.ReflTransGen Restated ms others)
    {e : Envelope} (he : Wire.ofTree? Envelope (Phrase.object ms).tree = some e) :
    ∃ f, Wire.ofTree? Envelope (Phrase.object others).tree = some f ∧ Alike e f := by
  induction h with
  | refl => exact ⟨e, he, rfl, rfl⟩
  | tail _ hlast ih =>
      obtain ⟨f, hf, halike⟩ := ih
      obtain ⟨g, hg, halike'⟩ := hlast.alike hf
      exact ⟨g, hg, halike.trans halike'⟩

/-! The values by position. -/

def nullPhrase : Phrase :=
  .word ⟨Glyph.ofChars ['n', 'u', 'l', 'l'], by decide, by decide⟩ .null rfl

/-- The value under a name as it is spelled, and null if there is none. -/
def valueOf (ms : Members) (name : String) : Phrase :=
  ((ms.find? fun m => m.1.text == some name).map (·.2)).getD nullPhrase

/-- The array of the values of the fields. -/
def positional (ms : Members) : Phrase :=
  .array (fieldNames.map (valueOf ms))

theorem tree_valueOf (ms : Members) (name : String) :
    (valueOf ms name).tree = ((Phrase.memberTrees ms).lookup (some name)).getD .null := by
  induction ms with
  | nil => rfl
  | cons m ms ih =>
      obtain ⟨key, x⟩ := m
      rw [valueOf, List.find?_cons, Phrase.memberTrees, List.lookup_cons, BEq.comm]
      cases some name == key.text with
      | true => rfl
      | false => exact ih

theorem positional_alike {ms : Members} {e : Envelope}
    (he : Wire.ofTree? Envelope (Phrase.object ms).tree = some e) :
    ∃ f, Wire.ofTree? Envelope (positional ms).tree = some f ∧ Alike e f := by
  rw [ofTree?_eq] at he
  obtain ⟨fs, hfs, he⟩ := Option.bind_eq_some_iff.mp he
  have hread : Fields.read? fieldNames depthLimit (positional ms).tree =
      some (fieldNames.map fun name => (name, (valueOf ms name).tree)) := rfl
  have hstands : ∀ name ∈ fieldNames, Stands name (fs.lookup name)
      ((fieldNames.map fun name => (name, (valueOf ms name).tree)).lookup name) := by
    intro name hname
    have hgiven : fs.lookup name = (Phrase.memberTrees ms).lookup (some name) :=
      Fields.lookup_read? hname hfs
    have hother : (fieldNames.map fun name => (name, (valueOf ms name).tree)).lookup name =
        some (valueOf ms name).tree := by
      simp only [fieldNames, List.mem_cons, List.not_mem_nil, or_false] at hname
      rcases hname with rfl | rfl | rfl | rfl <;> rfl
    rw [hother, tree_valueOf, hgiven]
    cases (Phrase.memberTrees ms).lookup (some name) with
    | none => exact .absent
    | some t => exact .same (some t)
  obtain ⟨f, hf, halike⟩ := ofFields?_of_stands hstands he
  refine ⟨f, ?_, halike⟩
  rw [ofTree?_eq, hread]
  exact hf

/-! Bodies. -/

/-- A body has the phrase, with blanks anywhere between its lexemes. -/
def Written (x : Phrase) (body : ByteArray) : Prop :=
  LaidOut x.lexemes (Glyph.ofBytes body.toList)

theorem ofBytes?_of_written {x : Phrase} {body : ByteArray} (h : Written x body) :
    Tree.ofBytes? body = some x.tree :=
  ofGlyphs?_eq_some_iff.mpr ⟨x, rfl, h⟩

theorem exists_written {body : ByteArray} {members : List (Option String × Tree)}
    (h : Tree.ofBytes? body = some (.object members)) :
    ∃ ms, Phrase.memberTrees ms = members ∧ Written (.object ms) body := by
  obtain ⟨x, hx, hlaid⟩ := ofGlyphs?_eq_some_iff.mp h
  obtain ⟨ms, rfl, hms⟩ := Phrase.exists_members_of_tree hx
  exact ⟨ms, hms, hlaid⟩

theorem notBlank_of_mark {m : Mark} {ls : List Lexeme} {body : ByteArray}
    (h : LaidOut (.mark m :: ls) (Glyph.ofBytes body.toList)) :
    body.toList.all isAsciiBlank = false := by
  have hmark : .char m.char ∈ Glyph.ofBytes body.toList :=
    h.subset_of_mem List.mem_cons_self List.mem_cons_self
  have hother : ∀ b, b ∈ [0x20, 0x09, 0x0A, 0x0C, 0x0D] → Char.ofNat (UInt8.toNat b) ≠ m.char := by
    intro b hb
    simp only [List.mem_cons, List.not_mem_nil, or_false] at hb
    rcases hb with rfl | rfl | rfl | rfl | rfl <;> cases m <;> decide
  rw [Bool.eq_false_iff]
  intro hblank
  rw [List.all_eq_true] at hblank
  rw [Glyph.ofBytes, decodeOnto_blank hblank, List.reverse_nil, List.nil_append,
    List.mem_map] at hmark
  obtain ⟨b, hb, heq⟩ := hmark
  exact hother b (isAsciiBlank_cases (hblank b hb)) (Glyph.char.inj heq)

theorem ofBody_eq_ok_iff {x : Phrase} {body : ByteArray} (h : Written x body)
    (hblank : body.toList.all isAsciiBlank = false) {e : Envelope} :
    ofBody body = .ok e ↔ Wire.ofTree? Envelope x.tree = some e := by
  have hread : Wire.ofBytes? Envelope body = Wire.ofTree? Envelope x.tree := by
    rw [Wire.ofBytes?, ofBytes?_of_written h, Option.bind_some]
  rw [ofBody, if_neg (Bool.eq_false_iff.mp hblank), hread]
  cases Wire.ofTree? Envelope x.tree <;> simp

/-- Handlers are given the same by both bodies. -/
structure GivesSame (body other : ByteArray) : Prop where
  carried : ∃ e f, ofBody body = .ok e ∧ ofBody other = .ok f ∧ f.entity = e.entity ∧
    f.input = e.input
  answers : ∀ (p : Procedure) identity client draw headers,
    p.answer identity client draw headers other = p.answer identity client draw headers body

theorem givesSame_of_alike {body other : ByteArray} {e f : Envelope} (he : ofBody body = .ok e)
    (hf : ofBody other = .ok f) (h : Alike e f) : GivesSame body other := by
  refine ⟨⟨e, f, he, hf, h.entity, h.input⟩, ?_⟩
  intro p identity client draw headers
  have hcall : ∀ c, p.handler.call c f = p.handler.call c e := by
    intro c
    cases p.handler with
    | withEntity run => exact congrArg₂ (run c) h.entity h.input
    | inputOnly run => exact congrArg (run c) h.input
  rw [Procedure.answer, Procedure.answer, Procedure.invoke, Procedure.invoke, he, hf]
  cases identity with
  | none => rfl
  | some i =>
      dsimp only
      rw [hcall]

/-- How a body that is an object is presented does not matter, and no field may come twice. -/
structure Insensitive (body : ByteArray) : Prop where
  spelled : ∀ members, Tree.ofBytes? body = some (.object members) →
    ∃ ms, Phrase.memberTrees ms = members ∧ Written (.object ms) body
  restated : ∀ ms e, Written (.object ms) body → ofBody body = .ok e →
    ∀ others, Relation.ReflTransGen Restated ms others →
      ∀ other, Written (.object others) other → GivesSame body other
  positional : ∀ ms e, Written (.object ms) body → ofBody body = .ok e →
    ∀ other, Written (positional ms) other → GivesSame body other
  repeated : ∀ members name, Tree.ofBytes? body = some (.object members) → name ∈ fieldNames →
    1 < (members.map (·.1)).count (some name) →
      ∃ message, ∀ (p : Procedure) identity client draw headers,
        p.answer identity client draw headers body =
          .done (failureAnswer 400 "bad_request" 400 message [])

theorem insensitive (body : ByteArray) : Insensitive body := by
  constructor
  · intro members h
    exact exists_written h
  · intro ms e hbody he others h other hother
    have hread := (ofBody_eq_ok_iff hbody (notBlank_of_mark hbody)).mp he
    obtain ⟨f, hf, halike⟩ := alike_of_restatements h hread
    have hf' := (ofBody_eq_ok_iff hother (notBlank_of_mark hother)).mpr hf
    exact givesSame_of_alike he hf' halike
  · intro ms e hbody he other hother
    have hread := (ofBody_eq_ok_iff hbody (notBlank_of_mark hbody)).mp he
    obtain ⟨f, hf, halike⟩ := positional_alike hread
    have hf' := (ofBody_eq_ok_iff hother (notBlank_of_mark hother)).mpr hf
    exact givesSame_of_alike he hf' halike
  · intro members name h hname htwice
    obtain ⟨ms, rfl, hbody⟩ := exists_written h
    have hrefused : Wire.ofBytes? Envelope body = none := by
      rw [Wire.ofBytes?, ofBytes?_of_written hbody, Option.bind_some]
      exact ofTree?_eq_none_of_repeated hname htwice
    have hunreadable : Unreadable body := ⟨notBlank_of_mark hbody, hrefused⟩
    exact ⟨_, fun p identity client draw headers =>
      Procedure.answer_of_unreadable client draw headers identity hunreadable p⟩

/-- A spec that is no object may as well be null, after a member that is no field. -/
theorem insensitive_spec_null :
    GivesSame "\x7b\"spec\":true\x7d".toUTF8 "\x7b \"x\":[],\"spec\": null\x7d\n".toUTF8 := by
  let spec : Quoted := ⟨Glyph.ofChars ['s', 'p', 'e', 'c', '"'], some "spec", by decide⟩
  let x : Quoted := ⟨Glyph.ofChars ['x', '"'], some "x", by decide⟩
  let yes : Word := ⟨Glyph.ofChars ['t', 'r', 'u', 'e'], by decide, by decide⟩
  let null : Word := ⟨Glyph.ofChars ['n', 'u', 'l', 'l'], by decide, by decide⟩
  let given : Phrase := .word yes (.bool true) rfl
  have hbody : Written (.object [(spec, given)]) "\x7b\"spec\":true\x7d".toUTF8 := by
    have hglyphs : Glyph.ofBytes "\x7b\"spec\":true\x7d".toUTF8.toList = .char '\x7b' ::
        .char '"' :: (spec.glyphs ++ .char ':' :: (yes.glyphs ++ [.char '\x7d'])) := by
      decide +kernel
    rw [Written, hglyphs]
    exact .mark .openBrace <| .quoted spec <| .mark .colon <| .word yes (Ended.cons rfl _) <|
      .mark .closeBrace .nil
  have hother : Written (.object [(x, .array []), (spec, nullPhrase)])
      "\x7b \"x\":[],\"spec\": null\x7d\n".toUTF8 := by
    have hglyphs : Glyph.ofBytes "\x7b \"x\":[],\"spec\": null\x7d\n".toUTF8.toList =
        .char '\x7b' :: .char ' ' :: .char '"' :: (x.glyphs ++ .char ':' :: .char '[' ::
          .char ']' :: .char ',' :: .char '"' :: (spec.glyphs ++ .char ':' :: .char ' ' ::
            (null.glyphs ++ [.char '\x7d', .char '\n']))) := by
      decide +kernel
    rw [Written, hglyphs]
    exact .mark .openBrace <| .blank rfl <| .quoted x <| .mark .colon <| .mark .openBracket <|
      .mark .closeBracket <| .mark .comma <| .quoted spec <| .mark .colon <| .blank rfl <|
      .word null (Ended.cons rfl _) <| .mark .closeBrace <| .blank rfl .nil
  have hnulled : Restated [(spec, given)] [(spec, nullPhrase)] :=
    .nulled [] spec given nullPhrase [] rfl (by decide) (by rintro members ⟨⟩) rfl
  have hadded : Restated [(spec, nullPhrase)] [(x, .array []), (spec, nullPhrase)] :=
    .added [] (x, .array []) [(spec, nullPhrase)] rfl (by decide)
  have haccepted := (ofBody_eq_ok_iff hbody (notBlank_of_mark hbody)).mpr rfl
  exact (insensitive _).restated _ _ hbody haccepted _ (.tail (.single hnulled) hadded) _ hother

end Envelope

end IntentProvider
