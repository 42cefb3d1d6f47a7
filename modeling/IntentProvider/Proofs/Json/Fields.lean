import IntentProvider.Proofs.Json.Wire

/-!
Records are read from what is written for them. The members that a record writes have the names of
its fields, in their order, and those that were read lend their fields only settled values.
-/

namespace IntentProvider.Json

/-- Members whose keys are names of fields, in the order of these names, with lasting values. -/
structure Layout (names : List String) (depth : Nat) (members : List (String × Value)) : Prop where
  keys : (members.map (·.1)).Sublist names
  lasting : ∀ m ∈ members, m.2.Lasting depth

namespace Layout

variable {names more : List String} {depth : Nat} {members others : List (String × Value)}

theorem nil : Layout [] depth [] :=
  ⟨List.Sublist.refl _, fun _ hm => absurd hm List.not_mem_nil⟩

theorem cons {name : String} {v : Value} (hv : v.Lasting depth) (h : Layout names depth members) :
    Layout (name :: names) depth ((name, v) :: members) :=
  ⟨h.keys.cons_cons name, List.forall_mem_cons.mpr ⟨hv, h.lasting⟩⟩

theorem append (h : Layout names depth members) (h' : Layout more depth others) :
    Layout (names ++ more) depth (members ++ others) := by
  refine ⟨?_, List.forall_mem_append.mpr ⟨h.lasting, h'.lasting⟩⟩
  rw [List.map_append]
  exact h.keys.append h'.keys

theorem skip (name : String) : Layout [name] depth [] :=
  ⟨List.nil_sublist _, fun _ hm => absurd hm List.not_mem_nil⟩

theorem optional {α : Type} [Wire α] {name : String} {a : Option α} (h : Wire.Settled depth a) :
    Layout [name] depth (optionalMember name a) := by
  cases a with
  | none => exact skip name
  | some a => exact cons h.lasting nil

end Layout

namespace Fields

/-- The parts that are read from the members of an object which was written. -/
def written (members : List (String × Value)) : Fields :=
  members.map fun m => (m.1, Tree.ofValue m.2)

theorem lookup_written (members : List (String × Value)) (name : String) :
    (written members).lookup name = (members.lookup name).map Tree.ofValue := by
  induction members with
  | nil => rfl
  | cons m members ih =>
      obtain ⟨key, v⟩ := m
      change List.lookup name ((key, Tree.ofValue v) :: written members) = _
      rw [List.lookup_cons, List.lookup_cons]
      split
      · rfl
      · exact ih

theorem select?_ofMembers {names : List String} {found : Fields} {members : List (String × Value)}
    (hnames : ∀ m ∈ members, m.1 ∈ names)
    (hdistinct : ((found ++ written members).map (·.1)).Nodup) :
    select? names found (Tree.ofMembers members) = some (found ++ written members) := by
  induction members generalizing found with
  | nil => rw [written, List.map_nil, List.append_nil, Tree.ofMembers, select?]
  | cons m members ih =>
      obtain ⟨key, v⟩ := m
      have hkey : names.contains key = true :=
        List.contains_iff_mem.mpr (hnames (key, v) List.mem_cons_self)
      have hnew : found.lookup key = none := by
        refine OrderedMap.lookup_eq_none_of_notMem fun hmem => ?_
        rw [List.map_append, List.nodup_append] at hdistinct
        exact hdistinct.2.2 key hmem key List.mem_cons_self rfl
      have hsame : found ++ written ((key, v) :: members) =
          found ++ [(key, Tree.ofValue v)] ++ written members := by
        rw [List.append_assoc]
        rfl
      rw [hsame] at hdistinct ⊢
      rw [← ih (fun m hm => hnames m (List.mem_cons_of_mem _ hm)) hdistinct, Tree.ofMembers,
        select?, Option.bind_eq_bind, Option.bind_some, if_pos hkey, hnew]
      rfl

theorem read?_written {names : List String} {depth : Nat} {members : List (String × Value)}
    (h : Layout names (depth - 1) members) (hdistinct : names.Nodup) (hdepth : depth ≠ 0) :
    read? names depth (Tree.ofValue (.object members)) = some (written members) := by
  have hnames : ∀ m ∈ members, m.1 ∈ names := fun m hm =>
    h.keys.subset (List.mem_map_of_mem hm)
  have hkeys : ((([] : Fields) ++ written members).map (·.1)).Nodup := by
    rw [List.nil_append, written, List.map_map]
    exact hdistinct.sublist h.keys
  rw [Tree.ofValue, read?, if_neg hdepth, select?_ofMembers hnames hkeys, List.nil_append]

theorem bind_read? {β : Type} {f : Fields → Option β} {names : List String} {depth : Nat}
    {members : List (String × Value)} (h : Layout names (depth - 1) members)
    (hdistinct : names.Nodup) (hdepth : depth ≠ 0) :
    (read? names depth (Tree.ofValue (.object members))).bind f = f (written members) := by
  rw [read?_written h hdistinct hdepth, Option.bind_some]

end Fields

namespace Wire

/-- A record that writes members from which it is read is settled. -/
theorem settled_of_layout {α : Type} [Wire α] {names : List String} {depth : Nat} {a : α}
    {members : List (String × Value)} (hwrite : Wire.write a = .object members)
    (h : Layout names (depth - 1) members) (hdistinct : names.Nodup) (hdepth : depth ≠ 0)
    (hread : Wire.read? depth (Tree.ofValue (.object members)) = some a) : Settled depth a := by
  have hlasting : (Value.object members).Lasting depth :=
    Value.lasting_object hdepth (hdistinct.sublist h.keys) h.lasting
  exact ⟨hwrite ▸ hread, hwrite ▸ hlasting⟩

end Wire

namespace Fields

/-! Fields that are read. -/

variable {α : Type} [Wire α]

theorem mem_of_lookup {fs : Fields} {name : String} {t : Tree} (h : fs.lookup name = some t) :
    (name, t) ∈ fs := by
  induction fs with
  | nil => cases h
  | cons f fs ih =>
      obtain ⟨key, t'⟩ := f
      rw [List.lookup_cons] at h
      split at h
      · rename_i hkey
        rw [beq_iff_eq] at hkey
        cases h
        exact hkey ▸ List.mem_cons_self
      · exact List.mem_cons_of_mem _ (ih h)

/-- The parts of a document with integers for numbers. -/
def Whole (fs : Fields) : Prop :=
  ∀ f ∈ fs, f.2.Whole

theorem whole_select? {names : List String} {found fs : Fields}
    {members : List (Option String × Tree)} (hfound : Whole found)
    (hmembers : ∀ m ∈ members, m.2.Whole) (h : select? names found members = some fs) :
    Whole fs := by
  induction members generalizing found with
  | nil =>
      cases h
      exact hfound
  | cons m members ih =>
      obtain ⟨key, t⟩ := m
      rw [List.forall_mem_cons] at hmembers
      rw [select?] at h
      obtain ⟨k, -, h⟩ := Option.bind_eq_some_iff.mp h
      split at h
      · split at h
        · cases h
        · refine ih ?_ hmembers.2 h
          exact List.forall_mem_append.mpr ⟨hfound, List.forall_mem_singleton.mpr hmembers.1⟩
      · exact ih hfound hmembers.2 h

theorem whole_of_read? {names : List String} {depth : Nat} {t : Tree} {fs : Fields} (ht : t.Whole)
    (h : read? names depth t = some fs) : Whole fs ∧ depth ≠ 0 := by
  cases ht with
  | object hmembers =>
      rw [read?] at h
      split at h
      · cases h
      · rename_i hdepth
        exact ⟨whole_select? (fun f hf => absurd hf List.not_mem_nil) hmembers h, hdepth⟩
  | array hitems =>
      rw [read?] at h
      split at h
      · cases h
      · rename_i hshape
        cases h
        refine ⟨fun f hf => hitems f.2 (List.of_mem_zip hf).2, ?_⟩
        rintro rfl
        exact hshape rfl
  | null => cases h
  | bool b => cases h
  | number hn => cases h
  | string s => cases h

variable {fs : Fields} {depth least : Nat} {name : String}

theorem settled_of_required (hfs : Whole fs) (hsteady : Wire.Steady α least)
    (hdepth : least ≤ depth - 1) {a : α} (h : fs.required depth name = some a) :
    Wire.Settled (depth - 1) a := by
  obtain ⟨t, ht, ha⟩ := Option.bind_eq_some_iff.mp h
  exact hsteady (depth - 1) t a hdepth (hfs _ (mem_of_lookup ht)) ha

theorem settled_of_orDefault (hfs : Whole fs) (hsteady : Wire.Steady α least)
    (hdepth : least ≤ depth - 1) {default a : α} (hdefault : Wire.Settled (depth - 1) default)
    (h : fs.orDefault depth name default = some a) : Wire.Settled (depth - 1) a := by
  rw [orDefault] at h
  split at h
  · rename_i t ht
    exact hsteady (depth - 1) t a hdepth (hfs _ (mem_of_lookup ht)) h
  · cases h
    exact hdefault

/-! Fields that were written. -/

variable {members : List (String × Value)}

theorem required_written {a : α} (ha : Wire.Settled (depth - 1) a)
    (h : members.lookup name = some (Wire.write a)) :
    (written members).required depth name = some a := by
  rw [required, lookup_written, h]
  exact ha.read?_write

theorem bind_required {β : Type} {f : α → Option β} {a : α} (ha : Wire.Settled (depth - 1) a)
    (h : members.lookup name = some (Wire.write a)) :
    ((written members).required depth name).bind f = f a := by
  rw [required_written ha h, Option.bind_some]

theorem bind_orDefault {β : Type} {f : α → Option β} {default a : α}
    (ha : Wire.Settled (depth - 1) a)
    (h : members.lookup name = some (Wire.write a) ∨ members.lookup name = none ∧ a = default) :
    ((written members).orDefault depth name default).bind f = f a := by
  rw [orDefault, lookup_written]
  rcases h with h | ⟨h, rfl⟩
  · rw [h, Option.map_some]
    dsimp only
    rw [ha.read?_write, Option.bind_some]
  · rw [h]
    rfl

theorem bind_optional {β : Type} {f : Option α → Option β} {a : Option α}
    (ha : Wire.Settled (depth - 1) a) (h : members.lookup name = a.map Wire.write) :
    ((written members).orDefault depth name none).bind f = f a := by
  cases a with
  | none => exact bind_orDefault ha (.inr ⟨h, rfl⟩)
  | some a => exact bind_orDefault ha (.inl h)

end Fields

@[simp] theorem lookup_optionalMember {α : Type} [Wire α] (name key : String) (a : Option α) :
    (optionalMember name a).lookup key = if key = name then a.map Wire.write else none := by
  cases a with
  | none => simp [optionalMember]
  | some a =>
      by_cases hkey : key = name
      · simp [optionalMember, hkey]
      · simp [optionalMember, hkey, List.lookup_cons, beq_false_of_ne hkey]

end IntentProvider.Json
