import IntentProvider.Catalogue.Declaration

/-!
Which declarations make a kind, and what is said about the others. Every declaration leads to one
kind or to one failure. The members are gone through in their order first, so that the first one
without a name or without a marker is what is reported, whatever behaviour the first member names.
-/

namespace IntentProvider

open IntentProvider.Json

theorem Behaviour.ofName?_eq_some_iff {name : String} {b : Behaviour} :
    ofName? name = some b ↔ name = b.name := by
  constructor
  · intro h
    unfold ofName? at h
    split at h <;> cases h <;> rfl
  · rintro rfl
    exact ofName?_name b

namespace Kind

/-- A schema is an object that has a value under the marker. -/
def HasMarker (schema marker : Value) : Prop :=
  ∃ members, schema = .object members ∧ members.lookup behaviourMarker = some marker

/-- A member of a declaration that may stand there, whatever behaviour it names. -/
def IsSound (m : String × Value) : Prop :=
  m.1 ≠ "" ∧ ∃ marker, HasMarker m.2 marker

/-- What a declaration leads to. -/
inductive LeadsTo : Value → Except Failure Kind → Prop where
  | notAnObject {d : Value} (h : ∀ members, d ≠ .object members) :
      LeadsTo d (.error (.schema .notAnObject))
  | empty : LeadsTo (.object []) (.error .emptyKind)
  /-- The first member that may not stand there has no name. -/
  | nameless {before after : List (String × Value)} {schema : Value}
      (hbefore : ∀ m ∈ before, IsSound m) :
      LeadsTo (.object (before ++ ("", schema) :: after)) (.error (.schema .emptyName))
  /-- The first member that may not stand there has a name, but no marker. -/
  | unmarked {before after : List (String × Value)} {name : String} {schema : Value}
      (hbefore : ∀ m ∈ before, IsSound m) (hname : name ≠ "")
      (hmarker : ∀ marker, ¬ HasMarker schema marker) :
      LeadsTo (.object (before ++ (name, schema) :: after))
        (.error (.schema (.missingMarker behaviourMarker name)))
  /-- All members may stand there, but the first one names no behaviour. -/
  | unrecognised {rest : List (String × Value)} {name : String} {schema marker : Value}
      (hsound : ∀ m ∈ (name, schema) :: rest, IsSound m) (hmarker : HasMarker schema marker)
      (hnone : ∀ b : Behaviour, marker ≠ .string b.name) :
      LeadsTo (.object ((name, schema) :: rest))
        (.error (.schema (.unknownMarker behaviourMarker (marker.string?.getD "") name)))
  | made {rest : List (String × Value)} {name : String} {schema : Value} {b : Behaviour}
      (hsound : ∀ m ∈ (name, schema) :: rest, IsSound m)
      (hmarker : HasMarker schema (.string b.name)) :
      LeadsTo (.object ((name, schema) :: rest))
        (.ok {
          name
          namePlural := Plural.of name
          schema := .object ((name, schema) :: rest)
          behaviour := b
          hooks := []
          dependencies := {}
          kindProcedures := {}
          entityProcedures := {}
          retryExponent := none })

theorem hasMarker_iff {schema marker : Value} :
    HasMarker schema marker ↔ schema.get? behaviourMarker = some marker := by
  rw [Value.get?, Option.bind_eq_some_iff]
  constructor
  · rintro ⟨members, rfl, hlookup⟩
    exact ⟨members, rfl, hlookup⟩
  · rintro ⟨members, hmembers, hlookup⟩
    cases schema <;> cases hmembers
    exact ⟨members, rfl, hlookup⟩

theorem memberFault?_eq_none_iff {name : String} {schema : Value} :
    memberFault? name schema = none ↔ IsSound (name, schema) := by
  have hmarked : (∃ marker, HasMarker schema marker) ↔ schema.get? behaviourMarker ≠ none := by
    simp only [hasMarker_iff, Option.ne_none_iff_exists']
  rw [IsSound, hmarked, memberFault?]
  by_cases hname : name = "" <;> simp [hname]

theorem memberFault?_empty (schema : Value) : memberFault? "" schema = some .emptyName := rfl

theorem memberFault?_of_unmarked {name : String} {schema : Value} (hname : name ≠ "")
    (hmarker : ∀ marker, ¬ HasMarker schema marker) :
    memberFault? name schema = some (.missingMarker behaviourMarker name) := by
  have hnone : schema.get? behaviourMarker = none :=
    Option.eq_none_iff_forall_ne_some.mpr fun marker h => hmarker marker (hasMarker_iff.mpr h)
  simp [memberFault?, hname, hnone]

/-- The first fault of the members of a declaration. -/
def firstFault? (members : List (String × Value)) : Option SchemaFault :=
  members.findSome? fun m => memberFault? m.1 m.2

theorem firstFault?_eq_none_iff {members : List (String × Value)} :
    firstFault? members = none ↔ ∀ m ∈ members, IsSound m := by
  rw [firstFault?, List.findSome?_eq_none_iff]
  exact forall₂_congr fun m _ => memberFault?_eq_none_iff

theorem firstFault?_append_cons {before after : List (String × Value)} {m : String × Value}
    {fault : SchemaFault} (hbefore : ∀ m ∈ before, IsSound m)
    (hm : memberFault? m.1 m.2 = some fault) :
    firstFault? (before ++ m :: after) = some fault := by
  have hnone : before.findSome? (fun m => memberFault? m.1 m.2) = none :=
    firstFault?_eq_none_iff.mpr hbefore
  rw [firstFault?, List.findSome?_append, hnone, Option.none_or, List.findSome?_cons, hm]

theorem declare_of_fault {members : List (String × Value)} {fault : SchemaFault}
    (h : firstFault? members = some fault) : declare (.object members) = .error (.schema fault) := by
  cases members with
  | nil => cases h
  | cons m rest =>
      rw [firstFault?] at h
      rw [declare, h]

theorem declare_of_sound {rest : List (String × Value)} {name : String} {schema marker : Value}
    (hsound : ∀ m ∈ (name, schema) :: rest, IsSound m) (hmarker : HasMarker schema marker) :
    declare (.object ((name, schema) :: rest)) =
      match Behaviour.ofName? (marker.string?.getD "") with
      | some b => .ok (bare name b (.object ((name, schema) :: rest)))
      | none => .error (.schema (.unknownMarker behaviourMarker (marker.string?.getD "") name)) := by
  have hnone := firstFault?_eq_none_iff.mpr hsound
  rw [firstFault?] at hnone
  rw [declare, hnone, behaviourName, hasMarker_iff.mp hmarker]
  rfl

theorem ofName?_eq_none_of_marker {marker : Value} (h : ∀ b : Behaviour, marker ≠ .string b.name) :
    Behaviour.ofName? (marker.string?.getD "") = none := by
  cases marker with
  | string s =>
      refine Option.eq_none_iff_forall_ne_some.mpr fun b hb => ?_
      exact h b (congrArg Value.string (Behaviour.ofName?_eq_some_iff.mp hb))
  | _ => rfl

theorem declare_of_leadsTo {d : Value} {r : Except Failure Kind} (h : LeadsTo d r) :
    declare d = r := by
  cases h with
  | notAnObject h =>
      cases d with
      | object members => exact absurd rfl (h members)
      | _ => rfl
  | empty => rfl
  | nameless hbefore =>
      exact declare_of_fault (firstFault?_append_cons hbefore (memberFault?_empty _))
  | unmarked hbefore hname hmarker =>
      exact declare_of_fault
        (firstFault?_append_cons hbefore (memberFault?_of_unmarked hname hmarker))
  | unrecognised hsound hmarker hnone =>
      rw [declare_of_sound hsound hmarker, ofName?_eq_none_of_marker hnone]
  | @made rest name schema b hsound hmarker =>
      rw [declare_of_sound hsound hmarker]
      change (match Behaviour.ofName? b.name with | some b => _ | none => _) = _
      rw [Behaviour.ofName?_name]
      rfl

theorem leadsTo_of_fault {members : List (String × Value)} {fault : SchemaFault}
    (h : firstFault? members = some fault) : LeadsTo (.object members) (.error (.schema fault)) := by
  obtain ⟨before, ⟨name, schema⟩, after, rfl, hfault, hbefore⟩ := List.findSome?_eq_some_iff.mp h
  have hsound : ∀ m ∈ before, IsSound m := fun m hm => memberFault?_eq_none_iff.mp (hbefore m hm)
  by_cases hname : name = ""
  · subst hname
    cases hfault
    exact .nameless hsound
  · have hmarker : ∀ marker, ¬ HasMarker schema marker := by
      intro marker hmarker
      have hnone := memberFault?_eq_none_iff.mpr ⟨hname, marker, hmarker⟩
      rw [hnone] at hfault
      cases hfault
    rw [memberFault?_of_unmarked hname hmarker] at hfault
    cases hfault
    exact .unmarked hsound hname hmarker

theorem leadsTo_of_sound {rest : List (String × Value)} {name : String} {schema : Value}
    (hsound : ∀ m ∈ (name, schema) :: rest, IsSound m) :
    ∃ r, LeadsTo (.object ((name, schema) :: rest)) r := by
  obtain ⟨-, marker, hmarker⟩ := hsound _ List.mem_cons_self
  by_cases hb : ∃ b : Behaviour, marker = .string b.name
  · obtain ⟨b, rfl⟩ := hb
    exact ⟨_, .made hsound hmarker⟩
  · exact ⟨_, .unrecognised hsound hmarker (not_exists.mp hb)⟩

theorem exists_leadsTo (d : Value) : ∃ r, LeadsTo d r := by
  cases d with
  | object members =>
      cases members with
      | nil => exact ⟨_, .empty⟩
      | cons m rest =>
          cases hfault : firstFault? (m :: rest) with
          | some fault => exact ⟨_, leadsTo_of_fault hfault⟩
          | none => exact leadsTo_of_sound (firstFault?_eq_none_iff.mp hfault)
  | _ => exact ⟨_, .notAnObject (by simp)⟩

theorem leadsTo_declare (d : Value) : LeadsTo d (declare d) := by
  obtain ⟨r, hr⟩ := exists_leadsTo d
  rw [declare_of_leadsTo hr]
  exact hr

/-- A declaration makes a kind, or fails, exactly as its members say. -/
theorem declare_eq_iff (d : Value) (r : Except Failure Kind) : declare d = r ↔ LeadsTo d r := by
  constructor
  · rintro rfl
    exact leadsTo_declare d
  · exact declare_of_leadsTo

theorem name_ne_empty_of_declare {d : Value} {k : Kind} (h : declare d = .ok k) : k.name ≠ "" := by
  have hleads := leadsTo_declare d
  rw [h] at hleads
  cases hleads with
  | made hsound _ => exact (hsound _ List.mem_cons_self).1

end Kind

end IntentProvider
