import IntentProvider.Catalogue.Kind
import IntentProvider.Proofs.Json.Fields

/-!
Signatures, hooks and kinds are read again from what is written for them. Their schemas are free and
settled because they were read. A hook shares its object with its procedure, whose fields are found
in it as in the object of the procedure alone.
-/

namespace IntentProvider

open IntentProvider.Json
open IntentProvider.Json.Fields
open IntentProvider.Json.Wire

variable {depth : Nat}

theorem Strategy.ofName?_name (s : Strategy) : ofName? s.name = some s := by
  cases s <;> rfl

theorem Strategy.plain : Plain Strategy :=
  plain_of_string Strategy.name (fun _ => rfl) fun _ s => ofName?_name s

theorem Behaviour.plain : Plain Behaviour :=
  plain_of_string Behaviour.name (fun _ => rfl) fun _ b => ofName?_name b

namespace Signature

/-- The parts of a signature that are not plain are settled. -/
structure Sound (depth : Nat) (s : Signature) : Prop where
  argument : Wire.Settled depth s.argument
  result : Wire.Settled depth s.result
  errors : Wire.Settled depth s.errors

theorem layout_errors {s : Signature} (h : Settled depth s.errors) :
    Layout ["errors_schemas"] depth
      (if s.errors.isEmpty then [] else [("errors_schemas", Wire.write s.errors)]) := by
  split
  · exact .skip "errors_schemas"
  · exact .cons h.lasting .nil

theorem layout {s : Signature} (h : s.Sound depth) : Layout fieldNames depth s.members :=
  have hname := plain_string.settled depth s.name
  have hstrategy := Strategy.plain.settled depth s.strategy
  have hcallback := plain_string.settled depth s.procedureCallback
  have hbase := plain_string.settled depth s.baseCallback
  have hdescription := plain_string.settled_option depth s.description
  .append (.append (.cons hname.lasting (.cons h.argument.lasting (.cons h.result.lasting
    (.cons hstrategy.lasting (.cons hcallback.lasting (.cons hbase.lasting .nil))))))
    (layout_errors h.errors)) (.optional hdescription)

theorem lookup_errors (s : Signature) :
    s.members.lookup "errors_schemas" = some (Wire.write s.errors) ∨
      s.members.lookup "errors_schemas" = none ∧ s.errors = {} := by
  by_cases hempty : s.errors.isEmpty
  · have herrors : s.errors = {} := SortedMap.ext_entries (List.isEmpty_iff.mp hempty)
    exact .inr ⟨by simp [members, List.lookup_cons, hempty], herrors⟩
  · exact .inl (by simp [members, List.lookup_cons, hempty])

/-- The fields of a signature are read from every object in which they are found as in its own. -/
theorem ofFields?_written {s : Signature} (h : s.Sound (depth - 1))
    {others : List (String × Value)}
    (hothers : ∀ name ∈ fieldNames, others.lookup name = s.members.lookup name) :
    ofFields? depth (written others) (some s.strategy) = some s := by
  have hname := plain_string.settled (depth - 1) s.name
  have hcallback := plain_string.settled (depth - 1) s.procedureCallback
  have hbase := plain_string.settled (depth - 1) s.baseCallback
  have hdescription := plain_string.settled_option (depth - 1) s.description
  have hlookup : others.lookup "description" = s.description.map Wire.write := by
    rw [hothers _ (by decide)]
    by_cases hempty : s.errors.isEmpty
    · simp [members, List.lookup_cons, hempty]
    · simp [members, List.lookup_cons, hempty]
  have herrors := lookup_errors s
  rw [← hothers _ (by decide)] at herrors
  refine (bind_required hname (hothers _ (by decide))).trans ?_
  refine (bind_required h.argument (hothers _ (by decide))).trans ?_
  refine (bind_required h.result (hothers _ (by decide))).trans ?_
  refine (bind_required hcallback (hothers _ (by decide))).trans ?_
  refine (bind_required hbase (hothers _ (by decide))).trans ?_
  refine (bind_orDefault h.errors herrors).trans ?_
  exact bind_optional hdescription hlookup

theorem sound_of_ofFields? {fs : Fields} {strategy : Option Strategy} {s : Signature}
    (hfs : Whole fs) (hdepth : 2 ≤ depth) (h : ofFields? depth fs strategy = some s) :
    s.Sound (depth - 1) := by
  simp only [ofFields?, Option.bind_eq_bind, Option.bind_eq_some_iff] at h
  obtain ⟨_, -, argument, hargument, result, hresult, _, -, _, -, _, -, errors, herrors, _, -, h⟩
    := h
  cases h
  have hempty : Settled (depth - 1) ({} : SortedMap Value) :=
    settled_map (by omega) fun _ he => absurd he List.not_mem_nil
  exact {
    argument := settled_of_required hfs steady_value (Nat.zero_le _) hargument
    result := settled_of_required hfs steady_value (Nat.zero_le _) hresult
    errors := settled_of_orDefault hfs (steady_map steady_value) (by omega) hempty herrors }

theorem settled (hdepth : depth ≠ 0) {s : Signature} (h : s.Sound (depth - 1)) :
    Settled depth s := by
  have hlayout := layout h
  have hstrategy := Strategy.plain.settled (depth - 1) s.strategy
  refine settled_of_layout rfl hlayout (by decide) hdepth ?_
  refine (bind_read? hlayout (by decide) hdepth).trans ?_
  have hread : (written s.members).required depth "execution_strategy" = some s.strategy :=
    required_written hstrategy rfl
  rw [hread]
  exact ofFields?_written h fun _ _ => rfl

theorem steady : Steady Signature 2 := by
  intro depth t s hdepth ht h
  obtain ⟨fs, hfs, h⟩ := Option.bind_eq_some_iff.mp h
  exact settled (by omega) (sound_of_ofFields? (whole_of_read? ht hfs).1 hdepth h)

end Signature

namespace Hook

/-- The members of a hook: its path, and the members of its procedure. -/
def members (h : Hook) : List (String × Value) :=
  ("signature", .string h.signature) :: h.procedure.members

theorem lookup_members (h : Hook) :
    ∀ name ∈ Signature.fieldNames, h.members.lookup name = h.procedure.members.lookup name := by
  intro name hname
  have hother : ∀ name ∈ Signature.fieldNames, name ≠ "signature" := by decide
  rw [members, List.lookup_cons, beq_false_of_ne (hother name hname)]

theorem strategy?_written (h : Hook) :
    ((written h.members).lookup "execution_strategy").bind (strategy? (depth - 1)) =
      some h.procedure.strategy := by
  rw [lookup_written, lookup_members h _ (by decide)]
  exact Strategy.ofName?_name h.procedure.strategy

theorem settled (hdepth : depth ≠ 0) {h : Hook} (hprocedure : h.procedure.Sound (depth - 1)) :
    Settled depth h := by
  have hpath := plain_string.settled (depth - 1) h.signature
  have hdistinct : ("signature" :: Signature.fieldNames).Nodup := by decide
  have hlayout : Layout ("signature" :: Signature.fieldNames) (depth - 1) h.members :=
    .cons hpath.lasting (Signature.layout hprocedure)
  have hobject : (Value.object h.members).Lasting depth :=
    Value.lasting_object hdepth (hdistinct.sublist hlayout.keys) hlayout.lasting
  refine settled_of_layout rfl hlayout hdistinct hdepth ?_
  refine (bind_read? hlayout hdistinct hdepth).trans ?_
  refine (bind_required hpath rfl).trans ?_
  -- Every member of the object must have a value, not only those that are asked for.
  refine (congrArg (Option.bind · _) hobject.holds).trans ?_
  have hread := Signature.ofFields?_written hprocedure h.lookup_members
  rw [← strategy?_written h] at hread
  exact congrArg (Option.bind · _) hread

theorem steady : Steady Hook 2 := by
  intro depth t h hdepth ht hread
  cases t with
  | object members =>
      obtain ⟨fs, hfs, hread⟩ := Option.bind_eq_some_iff.mp hread
      obtain ⟨_, -, hread⟩ := Option.bind_eq_some_iff.mp hread
      obtain ⟨_, -, hread⟩ := Option.bind_eq_some_iff.mp hread
      obtain ⟨procedure, hprocedure, hread⟩ := Option.bind_eq_some_iff.mp hread
      cases hread
      exact settled (by omega)
        (Signature.sound_of_ofFields? (whole_of_read? ht hfs).1 hdepth hprocedure)
  | null => cases hread
  | bool b => cases hread
  | number n => cases hread
  | string s => cases hread
  | array items => cases hread

end Hook

namespace Kind

theorem settled (hdepth : depth ≠ 0) {k : Kind} (hschema : Settled (depth - 1) k.schema)
    (hhooks : Settled (depth - 1) k.hooks) (hdependencies : Settled (depth - 1) k.dependencies)
    (hkind : Settled (depth - 1) k.kindProcedures)
    (hentity : Settled (depth - 1) k.entityProcedures) : Settled depth k := by
  have hname := plain_string.settled (depth - 1) k.name
  have hplural := plain_string.settled (depth - 1) k.namePlural
  have hbehaviour := Behaviour.plain.settled (depth - 1) k.behaviour
  have hexponent := plain_uint32.settled_option (depth - 1) k.retryExponent
  have hlayout : Layout (["name", "name_plural", "kind_structure", "intentful_behaviour",
      "intentful_signatures", "dependency_tree", "kind_procedures", "entity_procedures"] ++
      ["diff_retry_exponent"]) (depth - 1) _ :=
    .append (.cons hname.lasting (.cons hplural.lasting (.cons hschema.lasting
      (.cons hbehaviour.lasting (.cons hhooks.lasting (.cons hdependencies.lasting
        (.cons hkind.lasting (.cons hentity.lasting .nil)))))))) (.optional hexponent)
  refine settled_of_layout rfl hlayout (by decide) hdepth ?_
  refine (bind_read? hlayout (by decide) hdepth).trans ?_
  refine (bind_required hname rfl).trans ?_
  refine (bind_required hplural rfl).trans ?_
  refine (bind_required hschema rfl).trans ?_
  refine (bind_required hbehaviour rfl).trans ?_
  refine (bind_required hhooks rfl).trans ?_
  refine (bind_required hdependencies rfl).trans ?_
  refine (bind_required hkind rfl).trans ?_
  refine (bind_required hentity rfl).trans ?_
  exact bind_optional hexponent (by simp [List.lookup_cons])

theorem steady : Steady Kind 4 := by
  intro depth t k hdepth ht h
  simp only [Wire.read?, Option.bind_eq_bind, Option.bind_eq_some_iff] at h
  obtain ⟨fs, hfs, _, -, _, -, schema, hschema, _, -, hooks, hhooks, dependencies, hdependencies,
    kindProcedures, hkind, entityProcedures, hentity, _, -, h⟩ := h
  cases h
  have hwhole := (whole_of_read? ht hfs).1
  have hnames : Steady (SortedMap (List String)) 2 := steady_map (steady_list plain_string.steady)
  have hprocedures : Steady (SortedMap Signature) 3 := steady_map Signature.steady
  exact settled (by omega)
    (settled_of_required hwhole steady_value (Nat.zero_le _) hschema)
    (settled_of_required hwhole (steady_list Hook.steady) (by omega) hhooks)
    (settled_of_required hwhole hnames (by omega) hdependencies)
    (settled_of_required hwhole hprocedures (by omega) hkind)
    (settled_of_required hwhole hprocedures (by omega) hentity)

end Kind

end IntentProvider
