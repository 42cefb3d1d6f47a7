import IntentProvider.Json.Wire
import IntentProvider.Proofs.Json.Render
import IntentProvider.Proofs.Map.Sorted
import IntentProvider.Proofs.Time.Rfc3339

/-!
What is read into a type with a form on the wire is settled: from what is written for it, it is
read again. Of plain types every value is settled; of free values, and of what is made of them,
those that were read.
-/

namespace IntentProvider.Json

/-- A value with integers for numbers that is read again from what is written for it. -/
structure Value.Lasting (depth : Nat) (v : Value) : Prop where
  holds : Tree.Holds depth v
  whole : v.Whole

theorem Tree.lasting_of_value? {t : Tree} (ht : t.Whole) {depth : Nat} {v : Value}
    (h : t.value? depth = some v) : v.Lasting depth :=
  ⟨(holds_of_value? ht h).1, (holds_of_value? ht h).2⟩

namespace Value

theorem lasting_string (depth : Nat) (s : String) : (Value.string s).Lasting depth :=
  ⟨rfl, .string s⟩

theorem lasting_bool (depth : Nat) (b : Bool) : (Value.bool b).Lasting depth :=
  ⟨rfl, .bool b⟩

theorem lasting_ofUInt64 (depth : Nat) (n : UInt64) : (Value.ofUInt64 n).Lasting depth :=
  ⟨rfl, .number (.int _ _)⟩

theorem lasting_array {depth : Nat} {vs : List Value} (hdepth : depth ≠ 0)
    (h : ∀ v ∈ vs, v.Lasting (depth - 1)) : (Value.array vs).Lasting depth :=
  ⟨Tree.holds_array hdepth fun v hv => (h v hv).holds, .array fun v hv => (h v hv).whole⟩

theorem lasting_object {depth : Nat} {ms : List (String × Value)} (hdepth : depth ≠ 0)
    (hkeys : (ms.map (·.1)).Nodup) (h : ∀ m ∈ ms, m.2.Lasting (depth - 1)) :
    (Value.object ms).Lasting depth :=
  ⟨Tree.holds_object hdepth hkeys fun m hm => (h m hm).holds, .object fun m hm => (h m hm).whole⟩

end Value

namespace Wire

open IntentProvider.Time

/-- What is written for `a` is a document from which `a` is read. -/
structure Settled {α : Type} [Wire α] (depth : Nat) (a : α) : Prop where
  read?_write : Wire.read? depth (Tree.ofValue (Wire.write a)) = some a
  lasting : (Wire.write a).Lasting depth

/-- Whatever is read from a document with integers for numbers is settled. `least` levels suffice
for what stands in place of a part that is not given. -/
def Steady (α : Type) [Wire α] (least : Nat) : Prop :=
  ∀ depth t a, least ≤ depth → t.Whole → (Wire.read? depth t : Option α) = some a → Settled depth a

/-! Plain types. -/

/-- A type of which every value is settled and none is written as null. -/
structure Plain (α : Type) [Wire α] : Prop where
  settled : ∀ depth (a : α), Settled depth a
  ne_null : ∀ a : α, Wire.write a ≠ .null

theorem Plain.steady {α : Type} [Wire α] (h : Plain α) : Steady α 0 :=
  fun depth _ a _ _ _ => h.settled depth a

/-- A type whose values are written as strings, each of which is read as the value. -/
theorem plain_of_string {α : Type} [Wire α] (text : α → String)
    (hwrite : ∀ a : α, Wire.write a = .string (text a))
    (hread : ∀ depth (a : α), Wire.read? depth (.string (some (text a))) = some a) : Plain α := by
  refine ⟨fun depth a => ⟨?_, ?_⟩, fun a => ?_⟩
  · rw [hwrite, Tree.ofValue, hread]
  · rw [hwrite]
    exact Value.lasting_string depth (text a)
  · rw [hwrite]
    exact Value.noConfusion

theorem plain_string : Plain String :=
  plain_of_string id (fun _ => rfl) fun _ _ => rfl

theorem plain_instant : Plain Instant := by
  refine plain_of_string Instant.text (fun _ => rfl) fun depth t => ?_
  simp only [Wire.read?, Option.bind_some, Instant.text, String.toList_ofList,
    Rfc3339.read?_render]

theorem plain_bool : Plain Bool where
  settled depth b := ⟨rfl, Value.lasting_bool depth b⟩
  ne_null _ := Value.noConfusion

/-- A type whose values are written as words, from each of which the value is read. -/
theorem plain_of_word {α : Type} [Wire α] (word : α → UInt64)
    (hwrite : ∀ a : α, Wire.write a = .ofUInt64 (word a))
    (hread : ∀ depth (a : α), Wire.read? depth (.number (some (.ofUInt64 (word a)))) = some a) :
    Plain α := by
  refine ⟨fun depth a => ⟨?_, ?_⟩, fun a => ?_⟩
  · rw [hwrite, Value.ofUInt64, Tree.ofValue, hread]
  · rw [hwrite]
    exact Value.lasting_ofUInt64 depth (word a)
  · rw [hwrite]
    exact Value.noConfusion

theorem toNat?_ofUInt64 {n : UInt64} {limit : Nat} (h : n.toNat < limit) :
    (Number.ofUInt64 n).toNat? limit = some n.toNat :=
  if_pos ⟨Int.natCast_nonneg _, h⟩

theorem plain_uint64 : Plain UInt64 := by
  refine plain_of_word id (fun _ => rfl) fun depth n => ?_
  change (if (0 : Int) ≤ n.toNat then some (UInt64.ofNat (n.toNat : Int).toNat) else none) = some n
  rw [if_pos (by omega), Int.toNat_natCast, UInt64.ofNat_toNat]

theorem plain_uint32 : Plain UInt32 := by
  refine plain_of_word UInt32.toUInt64 (fun _ => rfl) fun depth n => ?_
  have hlt : n.toUInt64.toNat < Nat.pow 2 32 := by
    rw [UInt32.toNat_toUInt64]
    exact n.toNat_lt
  change ((some (Number.ofUInt64 n.toUInt64)).bind (Number.toNat? (Nat.pow 2 32))).map
    UInt32.ofNat = some n
  rw [Option.bind_some, toNat?_ofUInt64 hlt, Option.map_some, UInt32.toNat_toUInt64,
    UInt32.ofNat_toNat]

/-! Values and documents. -/

theorem steady_value : Steady Value 0 := by
  intro depth t v _ ht h
  have hlasting := Tree.lasting_of_value? ht h
  exact ⟨hlasting.holds, hlasting⟩

theorem document?_object {ms : List (String × Value)} (h : (ms.map (·.1)).Nodup) :
    ∃ d, (Value.object ms).document? = some d ∧ Value.ofDocument d = .object ms := by
  refine ⟨OrderedMap.ofList ms, rfl, ?_⟩
  rw [Value.ofDocument, Value.object.injEq]
  exact OrderedMap.putEntries_of_nodup h

theorem steady_document : Steady Document 0 := by
  intro depth t d _ ht h
  obtain ⟨v, hv, hd⟩ := Option.bind_eq_some_iff.mp h
  have hlasting := Tree.lasting_of_value? ht hv
  cases v with
  | object ms =>
      obtain ⟨d', hd', hwrite⟩ := document?_object (Tree.nodup_keys_of_value? hv)
      cases hd.symm.trans hd'
      have hsame : Wire.write d = .object ms := hwrite
      refine ⟨?_, hsame ▸ hlasting⟩
      change ((Tree.ofValue (Wire.write d)).value? depth).bind Value.document? = some d
      rw [hsame, hlasting.holds]
      exact hd
  | null => cases hd
  | bool b => cases hd
  | number n => cases hd
  | string s => cases hd
  | array items => cases hd

theorem settled_lax {depth : Nat} {d : Document} (h : Settled depth d) :
    Settled depth (LaxDocument.mk d) := by
  refine ⟨?_, h.lasting⟩
  have hread : (Wire.read? depth (Tree.ofValue (Wire.write d))).map LaxDocument.mk =
      some (LaxDocument.mk d) := by
    rw [h.read?_write]
    rfl
  exact hread

theorem settled_empty {depth : Nat} (h : depth ≠ 0) : Settled depth ({} : Document) := by
  have hlasting : (Value.object []).Lasting depth :=
    Value.lasting_object h List.nodup_nil fun m hm => absurd hm List.not_mem_nil
  refine ⟨?_, hlasting⟩
  change ((Tree.ofValue (.object [])).value? depth).bind Value.document? = some {}
  rw [hlasting.holds]
  rfl

theorem settled_lax_empty {depth : Nat} (h : depth ≠ 0) : Settled depth (LaxDocument.mk {}) :=
  settled_lax (settled_empty h)

theorem read?_lax {depth : Nat} {t : Tree} (h : t ≠ .null) :
    (Wire.read? depth t : Option LaxDocument) = (Wire.read? depth t).map LaxDocument.mk := by
  cases t with
  | null => exact absurd rfl h
  | _ => rfl

theorem steady_lax : Steady LaxDocument 1 := by
  intro depth t d hdepth ht h
  by_cases hnull : t = .null
  · subst hnull
    cases h
    exact settled_lax_empty (by omega)
  · rw [read?_lax hnull] at h
    obtain ⟨d, hd, rfl⟩ := Option.map_eq_some_iff.mp h
    exact settled_lax (steady_document depth t d (Nat.zero_le _) ht hd)

/-! Options. -/

/-- Only null is read as a value that is written as null. -/
def Solid (α : Type) [Wire α] : Prop :=
  ∀ depth t (a : α), Wire.read? depth t = some a → Wire.write a = .null → t = .null

theorem settled_none {α : Type} [Wire α] (depth : Nat) : Settled depth (none : Option α) :=
  ⟨rfl, rfl, .null⟩

theorem read?_some {α : Type} [Wire α] {depth : Nat} {t : Tree} (h : t ≠ .null) :
    (Wire.read? depth t : Option (Option α)) = (Wire.read? depth t).map some := by
  cases t with
  | null => exact absurd rfl h
  | _ => rfl

theorem settled_some {α : Type} [Wire α] {depth : Nat} {a : α} (h : Settled depth a)
    (hnull : Wire.write a ≠ .null) : Settled depth (some a) := by
  refine ⟨?_, h.lasting⟩
  have htree : Tree.ofValue (Wire.write a) ≠ .null := by
    cases hwrite : Wire.write a with
    | null => exact absurd hwrite hnull
    | _ => exact Tree.noConfusion
  have hread : (Wire.read? depth (Tree.ofValue (Wire.write a)) : Option (Option α)) =
      (Wire.read? depth (Tree.ofValue (Wire.write a))).map some := read?_some htree
  rw [h.read?_write] at hread
  exact hread

theorem Plain.settled_option {α : Type} [Wire α] (h : Plain α) (depth : Nat) (a : Option α) :
    Settled depth a := by
  cases a with
  | none => exact settled_none depth
  | some a => exact settled_some (h.settled depth a) (h.ne_null a)

theorem steady_option {α : Type} [Wire α] {least : Nat} (h : Steady α least) (hsolid : Solid α) :
    Steady (Option α) least := by
  intro depth t a hdepth ht hread
  by_cases hnull : t = .null
  · subst hnull
    cases hread
    exact settled_none depth
  · rw [read?_some hnull] at hread
    obtain ⟨b, hb, rfl⟩ := Option.map_eq_some_iff.mp hread
    exact settled_some (h depth t b hdepth ht hb) fun hwrite => hnull (hsolid depth t b hb hwrite)

theorem solid_document : Solid Document := by
  intro depth t d _ h
  cases h

theorem solid_value : Solid Value := by
  intro depth t v h hnull
  have hv : t.value? depth = some .null := h.trans (congrArg some hnull)
  cases t with
  | null => rfl
  | bool b => cases hv
  | number n =>
      obtain ⟨_, -, hn⟩ := Option.map_eq_some_iff.mp hv
      cases hn
  | string s =>
      obtain ⟨_, -, hs⟩ := Option.map_eq_some_iff.mp hv
      cases hs
  | array items =>
      rw [Tree.value?] at hv
      split at hv
      · cases hv
      · obtain ⟨_, -, hvs⟩ := Option.map_eq_some_iff.mp hv
        cases hvs
  | object members =>
      rw [Tree.value?] at hv
      split at hv
      · cases hv
      · obtain ⟨_, -, hms⟩ := Option.map_eq_some_iff.mp hv
        cases hms

/-! Lists and maps. -/

theorem forall_of_mapM {β γ : Type} {f : β → Option γ} {P : γ → Prop} {bs : List β}
    (h : ∀ b ∈ bs, ∀ c, f b = some c → P c) {cs : List γ} (hcs : bs.mapM f = some cs) :
    ∀ c ∈ cs, P c := by
  induction bs generalizing cs with
  | nil =>
      cases hcs
      exact fun c hc => absurd hc List.not_mem_nil
  | cons b bs ih =>
      rw [List.mapM_cons] at hcs
      obtain ⟨c, hc, hcs⟩ := Option.bind_eq_some_iff.mp hcs
      obtain ⟨rest, hrest, hcs⟩ := Option.bind_eq_some_iff.mp hcs
      cases hcs
      intro c' hc'
      rcases List.mem_cons.mp hc' with rfl | hc'
      · exact h b List.mem_cons_self c' hc
      · exact ih (fun b hb => h b (List.mem_cons_of_mem _ hb)) hrest c' hc'

theorem mapM_map_of_forall {β γ : Type} {f : β → Option γ} {g : γ → β} {cs : List γ}
    (h : ∀ c ∈ cs, f (g c) = some c) : (cs.map g).mapM f = some cs := by
  induction cs with
  | nil => rfl
  | cons c cs ih =>
      rw [List.map_cons, List.mapM_cons, h c List.mem_cons_self,
        ih fun c hc => h c (List.mem_cons_of_mem _ hc)]
      rfl

theorem settled_list {α : Type} [Wire α] {depth : Nat} {as : List α} (hdepth : depth ≠ 0)
    (h : ∀ a ∈ as, Settled (depth - 1) a) : Settled depth as := by
  have hlasting : (Value.array (as.map Wire.write)).Lasting depth := by
    refine Value.lasting_array hdepth fun v hv => ?_
    obtain ⟨a, ha, rfl⟩ := List.mem_map.mp hv
    exact (h a ha).lasting
  refine ⟨?_, hlasting⟩
  change (if depth = 0 then none
    else (Tree.ofValues (as.map Wire.write)).mapM (Wire.read? (depth - 1))) = some as
  rw [if_neg hdepth, Tree.ofValues_eq_map, List.map_map]
  exact mapM_map_of_forall fun a ha => (h a ha).read?_write

theorem steady_list {α : Type} [Wire α] {least : Nat} (h : Steady α least) :
    Steady (List α) (least + 1) := by
  intro depth t as hdepth ht hread
  cases ht with
  | array hitems =>
      change (if depth = 0 then none else List.mapM (Wire.read? (depth - 1)) _) = some as at hread
      rw [if_neg (by omega)] at hread
      exact settled_list (by omega)
        (forall_of_mapM (fun t ht a ha => h (depth - 1) t a (by omega) (hitems t ht) ha) hread)
  | null => cases hread
  | bool b => cases hread
  | number hn => cases hread
  | string s => cases hread
  | object hmembers => cases hread

theorem settled_map {α : Type} [Wire α] {depth : Nat} {m : SortedMap α} (hdepth : depth ≠ 0)
    (h : ∀ e ∈ m.entries, Settled (depth - 1) e.2) : Settled depth m := by
  have hkeys : ((m.entries.map fun e => (e.1, Wire.write e.2)).map (·.1)).Nodup := by
    rw [List.map_map]
    exact m.nodup_keys
  have hlasting : (Value.object (m.entries.map fun e => (e.1, Wire.write e.2))).Lasting depth := by
    refine Value.lasting_object hdepth hkeys fun v hv => ?_
    obtain ⟨e, he, rfl⟩ := List.mem_map.mp hv
    exact (h e he).lasting
  refine ⟨?_, hlasting⟩
  change (if depth = 0 then none
    else ((Tree.ofMembers (m.entries.map fun e => (e.1, Wire.write e.2))).mapM
      (pairing? (depth - 1))).map SortedMap.ofList) = some m
  have hpair : ∀ e ∈ m.entries,
      pairing? (depth - 1) (some e.1, Tree.ofValue (Wire.write e.2)) = some e := by
    intro e he
    rw [pairing?, (h e he).read?_write]
    rfl
  rw [if_neg hdepth, Tree.ofMembers_eq_map, List.map_map]
  have hread := mapM_map_of_forall hpair
  exact (congrArg (Option.map SortedMap.ofList) hread).trans
    (congrArg some (SortedMap.ofList_entries m))

theorem steady_map {α : Type} [Wire α] {least : Nat} (h : Steady α least) :
    Steady (SortedMap α) (least + 1) := by
  intro depth t m hdepth ht hread
  cases ht with
  | object hmembers =>
      change (if depth = 0 then none
        else (List.mapM (pairing? (depth - 1)) _).map SortedMap.ofList) = some m at hread
      rw [if_neg (by omega)] at hread
      obtain ⟨entries, hentries, rfl⟩ := Option.map_eq_some_iff.mp hread
      have hall : ∀ e ∈ entries, Settled (depth - 1) e.2 := by
        refine forall_of_mapM (fun member hmember e he => ?_) hentries
        obtain ⟨key, -, he⟩ := Option.bind_eq_some_iff.mp he
        obtain ⟨a, ha, he⟩ := Option.bind_eq_some_iff.mp he
        cases he
        exact h (depth - 1) member.2 a (by omega) (hmembers member hmember) ha
      exact settled_map (by omega) fun e he => hall e (SortedMap.mem_of_mem_ofList he)
  | null => cases hread
  | bool b => cases hread
  | number hn => cases hread
  | string s => cases hread
  | array hitems => cases hread

/-! Texts. -/

/-- A text whose numbers are integers that fit a word, if it is a document at all. -/
def WholeText (s : String) : Prop :=
  ∀ t, Tree.ofText? s = some t → t.Whole

theorem wholeText_text {v : Value} (h : v.Whole) : WholeText v.text := by
  intro t ht
  cases (Tree.ofText?_text h).symm.trans ht
  exact Tree.whole_ofValue h

/-- What is read from a text with integers for numbers is written as a text from which it is read
again. -/
def Stable (α : Type) [Wire α] : Prop :=
  ∀ (s : String) (a : α), WholeText s → ofText? α s = some a → ofText? α (text a) = some a

theorem Settled.ofText?_text {α : Type} [Wire α] {a : α} (h : Settled Tree.depthLimit a) :
    ofText? α (text a) = some a := by
  rw [ofText?, text, Tree.ofText?_text h.lasting.whole, Option.bind_some]
  exact h.read?_write

theorem Steady.stable {α : Type} [Wire α] {least : Nat} (h : Steady α least)
    (hleast : least ≤ Tree.depthLimit) : Stable α := by
  intro s a hs ha
  obtain ⟨t, ht, ha⟩ := Option.bind_eq_some_iff.mp ha
  exact (h Tree.depthLimit t a hleast (hs t ht) ha).ofText?_text

end Wire

end IntentProvider.Json
