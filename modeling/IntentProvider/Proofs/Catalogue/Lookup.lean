import Mathlib.Data.List.Dedup
import Mathlib.Data.List.DropRight
import Mathlib.Data.List.Induction
import IntentProvider.Proofs.Catalogue.Stored

/-!
What is found in a catalogue, as its history tells. The history is the list of all edits, those that
were refused included. Main statement: a name is found in a scope as it was last inserted there, and
in a kind only if this was since the latest declaration of the kind.
-/

namespace IntentProvider.Catalogue

open IntentProvider.Json

/-- An edit of a catalogue. Kinds are added as declarations make them. A hook is inserted as its
signature, whose name is the path. -/
inductive Edit where
  | add (k : Kind) (declared : ∃ declaration, Kind.declare declaration = .ok k)
  | remove (name : String)
  | insert (scope : Scope) (s : Signature)

namespace Edit

def apply : Edit → Catalogue → Catalogue
  | add k _, c => (c.addKind k).1
  | remove name, c => (c.removeKind name).1
  | insert scope s, c =>
      match scope.insert s c with
      | .ok c' => c'
      | .error _ => c

/-- The kind that an edit is about, unless it is about the provider itself. -/
def subject : Edit → Option String
  | add k _ => some k.name
  | remove name => some name
  | insert scope _ => scope.kind?

def adds (kind : String) : Edit → Bool
  | add k _ => k.name == kind
  | remove _ => false
  | insert _ _ => false

def removes (kind : String) : Edit → Bool
  | add _ _ => false
  | remove name => name == kind
  | insert _ _ => false

def inserted? (scope : Scope) : Edit → Option Signature
  | add _ _ => none
  | remove _ => none
  | insert other s => if other = scope then some s else none

def insertions (scope : Scope) (edits : List Edit) : List Signature :=
  edits.filterMap (inserted? scope)

/-- The signature that was inserted last under a name. -/
def last? (scope : Scope) (name : String) (edits : List Edit) : Option Signature :=
  ((insertions scope edits).filter (·.name == name)).getLast?

/-- The edits since the latest declaration of a kind, which is the first after its latest removal. -/
def sinceDeclared? (kind : String) (edits : List Edit) : Option (List Edit) :=
  match (edits.rtakeWhile fun e => !e.removes kind).dropWhile fun e => !e.adds kind with
  | [] => none
  | _ :: later => some later

section Snoc

variable {scope other : Scope} {kind name : String} {edits later : List Edit} {e : Edit} {s : Signature}

theorem inserted?_of_ne (h : other ≠ scope) : (insert scope s).inserted? other = none := by
  rw [inserted?, if_neg (Ne.symm h)]

theorem eq_insert_of_inserted? (h : e.inserted? scope = some s) : e = insert scope s := by
  cases e with
  | add _ _ => cases h
  | remove _ => cases h
  | insert other t =>
      rw [inserted?] at h
      split at h
      · rename_i hother
        cases h
        rw [hother]
      · cases h

theorem insertions_snoc_of_none (h : e.inserted? scope = none) :
    insertions scope (edits ++ [e]) = insertions scope edits := by
  simp [insertions, h]

theorem insertions_snoc_insert :
    insertions scope (edits ++ [insert scope s]) = insertions scope edits ++ [s] := by
  simp [insertions, inserted?]

theorem last?_snoc_of_none (h : e.inserted? scope = none) :
    last? scope name (edits ++ [e]) = last? scope name edits := by
  rw [last?, insertions_snoc_of_none h, last?]

theorem last?_snoc_insert :
    last? scope name (edits ++ [insert scope s]) =
      if name = s.name then some s else last? scope name edits := by
  rw [last?, insertions_snoc_insert, List.filter_append]
  by_cases h : name = s.name
  · simp [h]
  · simp [h, Ne.symm h, last?]

theorem sinceDeclared?_snoc_of_removes (h : e.removes kind = true) :
    sinceDeclared? kind (edits ++ [e]) = none := by
  simp [sinceDeclared?, h]

theorem sinceDeclared?_snoc_of_some (hremoves : e.removes kind = false)
    (h : sinceDeclared? kind edits = some later) :
    sinceDeclared? kind (edits ++ [e]) = some (later ++ [e]) := by
  unfold sinceDeclared? at h ⊢
  rw [List.rtakeWhile_concat_pos _ _ e (by simp [hremoves]), List.dropWhile_append]
  split at h
  · cases h
  · rename_i first rest hrest
    cases h
    simp [hrest]

theorem sinceDeclared?_snoc_of_none (hremoves : e.removes kind = false)
    (h : sinceDeclared? kind edits = none) :
    sinceDeclared? kind (edits ++ [e]) = if e.adds kind then some [] else none := by
  unfold sinceDeclared? at h ⊢
  rw [List.rtakeWhile_concat_pos _ _ e (by simp [hremoves]), List.dropWhile_append]
  split at h
  · rename_i hrest
    cases hadds : e.adds kind <;> simp [hrest, hadds]
  · cases h

end Snoc

end Edit

end IntentProvider.Catalogue

namespace IntentProvider

open Catalogue Catalogue.Edit

variable {c : Catalogue} {k : Kind} {scope other : Scope} {kind name : String} {s : Signature}
  {edits later : List Edit} {e : Edit}

namespace Scope

theorem lookup_entries_record (h : scope.kind? = some kind) :
    ((scope.record s k).entries scope).lookup name =
      if name = s.name then some s else (k.entries scope).lookup name := by
  cases scope with
  | provider => cases h
  | kind _ => exact SortedMap.lookup_placeEntry
  | entity _ => exact SortedMap.lookup_placeEntry
  | hook _ =>
      have hkept : ((k.hooks.filter fun h => h.signature != s.name).map fun h =>
          (h.signature, h.procedure)) =
            (k.hooks.map fun h => (h.signature, h.procedure)).filter fun e => e.1 != s.name := by
        rw [List.filter_map]
        rfl
      rw [record, Kind.entries, List.map_append, hkept, List.lookup_append,
        OrderedMap.lookup_filter_ne, Kind.entries]
      by_cases hname : name = s.name
      · simp [hname]
      · simp [hname, List.lookup_cons, beq_false_of_ne hname]

theorem entries_record_of_ne (hne : other ≠ scope) (hkind : other.kind? = scope.kind?) :
    (scope.record s k).entries other = k.entries other := by
  cases scope <;> cases other <;> first | rfl | (cases hkind; exact absurd rfl hne)

end Scope

theorem dedup_concat (l : List String) (a : String) :
    (l ++ [a]).dedup = l.dedup.filter (· != a) ++ [a] := by
  induction l with
  | nil => simp
  | cons b l ih =>
      rw [List.cons_append]
      by_cases hmem : b ∈ l
      · rw [List.dedup_cons_of_mem hmem, List.dedup_cons_of_mem (List.mem_append_left _ hmem), ih]
      · rw [List.dedup_cons_of_notMem hmem]
        by_cases hb : b = a
        · subst hb
          rw [List.dedup_cons_of_mem (by simp), ih, List.filter_cons_of_neg (by simp)]
        · rw [List.dedup_cons_of_notMem (by simp [hmem, hb]), ih,
            List.filter_cons_of_pos (by simpa using hb), List.cons_append]

namespace Kind

/-- A kind as the edits since its declaration leave it. -/
structure Follows (k : Kind) (later : List Edit) : Prop where
  entries : ∀ scope name, scope.kind? = some k.name →
    (k.entries scope).lookup name = last? scope name later
  hooks : k.hooks.map (·.signature) =
    ((insertions (.hook k.name) later).map (·.name)).dedup
  named : ∀ h ∈ k.hooks, h.procedure.name = h.signature

theorem follows_nil (h : k.signatures = []) : k.Follows [] := by
  have hhooks : k.hooks = [] := List.map_eq_nil_iff.mp (List.append_eq_nil_iff.mp h).2
  constructor
  · intro scope name _
    rw [entries_of_signatures h]
    rfl
  · rw [hhooks]
    rfl
  · rw [hhooks]
    exact List.forall_mem_nil _

namespace Follows

theorem snoc_of_none (h : k.Follows later)
    (hnone : ∀ scope, scope.kind? = some k.name → e.inserted? scope = none) :
    k.Follows (later ++ [e]) := by
  constructor
  · intro scope name hkind
    rw [last?_snoc_of_none (hnone scope hkind), h.entries scope name hkind]
  · rw [insertions_snoc_of_none (hnone _ rfl), h.hooks]
  · exact h.named

theorem record (h : k.Follows later) (hkind : scope.kind? = some k.name) :
    (scope.record s k).Follows (later ++ [insert scope s]) := by
  constructor
  · intro other name hother
    rw [Scope.record_name] at hother
    by_cases hsame : other = scope
    · subst hsame
      rw [Scope.lookup_entries_record hkind, last?_snoc_insert, h.entries other name hkind]
    · rw [Scope.entries_record_of_ne hsame (hother.trans hkind.symm),
        last?_snoc_of_none (inserted?_of_ne hsame), h.entries other name hother]
  · rw [Scope.record_name]
    by_cases hsame : .hook k.name = scope
    · subst hsame
      -- a path that is inserted again moves to the end, among the hooks as in the list of names
      rw [insertions_snoc_insert, List.map_append, List.map_singleton, dedup_concat, ← h.hooks,
        List.filter_map, Scope.record, List.map_append]
      rfl
    · have hhooks : (scope.record s k).hooks = k.hooks := by
        cases scope with
        | provider => rfl
        | kind _ => rfl
        | entity _ => rfl
        | hook _ =>
            cases hkind
            exact absurd rfl hsame
      rw [insertions_snoc_of_none (inserted?_of_ne hsame), hhooks, h.hooks]
  · cases scope with
    | provider => exact h.named
    | kind _ => exact h.named
    | entity _ => exact h.named
    | hook _ =>
        intro made hmem
        rcases List.mem_append.mp hmem with hmem | hmem
        · exact h.named made (List.mem_filter.mp hmem).1
        · rw [List.mem_singleton.mp hmem]

theorem insert (h : k.Follows later) (scope : Scope) (s : Signature) :
    (if scope.kind? = some k.name then scope.record s k else k).Follows
      (later ++ [insert scope s]) := by
  split
  · rename_i hkind
    exact h.record hkind
  · rename_i hkind
    refine h.snoc_of_none fun other hother => inserted?_of_ne ?_
    rintro rfl
    exact hkind hother

/-- A hook is found by the name of its procedure, which is the path that it observes. -/
theorem find?_hooks (h : k.Follows later) (name : String) :
    (k.hooks.find? fun hook => hook.procedure.name == name).map (·.procedure) =
      (k.entries (.hook k.name)).lookup name := by
  have hnamed := h.named
  rw [Kind.entries]
  generalize k.hooks = hooks at hnamed ⊢
  induction hooks with
  | nil => rfl
  | cons hook rest ih =>
      have hfirst : hook.procedure.name = hook.signature := hnamed hook List.mem_cons_self
      have hrest := ih fun hook' hmem => hnamed hook' (List.mem_cons_of_mem _ hmem)
      rw [List.find?_cons, List.map_cons, List.lookup_cons, hfirst, BEq.comm]
      cases name == hook.signature
      · exact hrest
      · rfl

theorem lookup?_eq (h : k.Follows later) (name : String) :
    k.lookup? name = (last? (.entity k.name) name later).or
      ((last? (.kind k.name) name later).or (last? (.hook k.name) name later)) := by
  rw [Kind.lookup?, h.find?_hooks, h.entries (.hook k.name) name rfl,
    ← h.entries (.entity k.name) name rfl, ← h.entries (.kind k.name) name rfl]
  rfl

theorem last?_hook (h : k.Follows later) {hook : Hook} (hmem : hook ∈ k.hooks) :
    last? (.hook k.name) hook.signature later = some hook.procedure := by
  have hdistinct : ((k.entries (.hook k.name)).map (·.1)).Nodup := by
    rw [Kind.entries, List.map_map]
    change (k.hooks.map (·.signature)).Nodup
    rw [h.hooks]
    exact List.nodup_dedup _
  rw [← h.entries (.hook k.name) _ rfl]
  exact (OrderedMap.lookup_eq_some_iff_mem hdistinct).mpr (List.mem_map_of_mem hmem)

end Follows

end Kind

namespace Catalogue

section Insert

variable (h : scope.kind? = some kind)
include h

theorem insert_of_declared (hsome : c.kind? kind = some k) :
    scope.insert s c = .ok (c.modifyKind kind (scope.record s)) := by
  rw [Scope.insert_eq_onKind h, onKind, hsome]

theorem insert_of_undeclared (hnone : c.kind? kind = none) :
    scope.insert s c = .error (.schema (.unknownKind kind)) := by
  rw [Scope.insert_eq_onKind h, onKind, hnone]

theorem apply_insert_of_undeclared (hnone : c.kind? kind = none) :
    (insert scope s).apply c = c := by
  rw [Edit.apply, insert_of_undeclared h hnone]

end Insert

theorem kind?_insert (hsome : c.kind? kind = some k) :
    ((insert scope s).apply c).kind? kind =
      some (if scope.kind? = some k.name then scope.record s k else k) := by
  have hname : k.name = kind := name_of_kind? hsome
  cases hkind : scope.kind? with
  | none =>
      obtain rfl := Scope.eq_provider hkind
      rw [if_neg nofun]
      exact hsome
  | some other =>
      cases hother : c.kind? other with
      | none =>
          have hne : other ≠ k.name := by
            rintro rfl
            rw [hname, hsome] at hother
            cases hother
          rw [apply_insert_of_undeclared hkind hother, hsome, if_neg (by simpa using hne)]
      | some found =>
          rw [Edit.apply, insert_of_declared hkind hother]
          simp only [kind?_modifyKind _ _ _ (scope.record_name s), hsome, Option.map_some,
            Option.some.injEq, eq_comm]

theorem kind?_insert_of_none (hnone : c.kind? kind = none) :
    ((insert scope s).apply c).kind? kind = none := by
  rw [Edit.apply]
  split
  · rename_i c' hc
    rcases Scope.insert_eq_ok hc with ⟨-, rfl⟩ | ⟨other, -, -, rfl⟩
    · exact hnone
    · rw [kind?_modifyKind _ _ _ (scope.record_name s), hnone]
      rfl
  · exact hnone

theorem kind?_apply_of_removes (h : e.removes kind = true) : (e.apply c).kind? kind = none := by
  cases e with
  | add _ _ => cases h
  | remove name => rw [Edit.apply, kind?_removeKind, if_pos (beq_iff_eq.mp h).symm]
  | insert _ _ => cases h

theorem kind?_apply_of_some (hsome : c.kind? kind = some k) (hfollows : k.Follows later)
    (hremoves : e.removes kind = false) :
    ∃ k', (e.apply c).kind? kind = some k' ∧ k'.Follows (later ++ [e]) := by
  cases e with
  | add added _ =>
      refine ⟨k, ?_, hfollows.snoc_of_none fun _ _ => rfl⟩
      rw [Edit.apply, kind?_addKind, hsome]
      rfl
  | remove name =>
      refine ⟨k, ?_, hfollows.snoc_of_none fun _ _ => rfl⟩
      rw [Edit.apply, kind?_removeKind, if_neg (Ne.symm (beq_eq_false_iff_ne.mp hremoves)), hsome]
  | insert scope s => exact ⟨_, kind?_insert hsome, hfollows.insert scope s⟩

theorem kind?_apply_of_none (hnone : c.kind? kind = none) (hadds : e.adds kind = false) :
    (e.apply c).kind? kind = none := by
  cases e with
  | add added _ =>
      rw [Edit.apply, kind?_addKind, hnone, if_neg (beq_eq_false_iff_ne.mp hadds)]
      rfl
  | remove name =>
      rw [Edit.apply, kind?_removeKind, hnone]
      split <;> rfl
  | insert scope s => exact kind?_insert_of_none hnone

theorem kind?_apply_of_adds (hnone : c.kind? kind = none) (hadds : e.adds kind = true) :
    ∃ k, (e.apply c).kind? kind = some k ∧ k.Follows [] := by
  cases e with
  | add added declared =>
      obtain ⟨declaration, hmade⟩ := declared
      refine ⟨added, ?_, Kind.follows_nil (Kind.signatures_of_declare hmade)⟩
      rw [Edit.apply, kind?_addKind, hnone, if_pos (beq_iff_eq.mp hadds)]
      rfl
  | remove _ => cases hadds
  | insert _ _ => cases hadds

theorem procedures_apply_of_none (h : e.inserted? .provider = none) :
    (e.apply c).procedures = c.procedures := by
  cases e with
  | add k _ =>
      rw [Edit.apply, addKind]
      split <;> rfl
  | remove _ => rfl
  | insert scope s =>
      rw [Edit.apply]
      split
      · rename_i c' hc
        rcases Scope.insert_eq_ok hc with ⟨rfl, -⟩ | ⟨other, -, -, rfl⟩
        · cases h
        · rfl
      · rfl

/-- What the edits of a catalogue make of it, one after the other. -/
def edited (address : CallbackAddress) (edits : List Edit) : Catalogue :=
  edits.foldl (fun c e => e.apply c) { address }

theorem edited_snoc {address : CallbackAddress} :
    edited address (edits ++ [e]) = e.apply (edited address edits) := by
  rw [edited, List.foldl_append]
  rfl

/-- What a catalogue holds, in terms of the edits that were made. -/
structure Reflects (c : Catalogue) (edits : List Edit) : Prop where
  procedures : ∀ name, c.procedures.get? name = last? .provider name edits
  undeclared : ∀ kind, sinceDeclared? kind edits = none → c.kind? kind = none
  declared : ∀ kind later, sinceDeclared? kind edits = some later →
    ∃ k, c.kind? kind = some k ∧ k.Follows later

namespace Reflects

theorem snoc (h : c.Reflects edits) (e : Edit) : (e.apply c).Reflects (edits ++ [e]) := by
  constructor
  · intro name
    cases hinserted : e.inserted? .provider with
    | none =>
        rw [procedures_apply_of_none hinserted, last?_snoc_of_none hinserted, h.procedures]
    | some s =>
        obtain rfl := eq_insert_of_inserted? hinserted
        rw [last?_snoc_insert, ← h.procedures]
        exact SortedMap.get?_insert _ _ _ _
  · intro kind hnone
    cases hremoves : e.removes kind with
    | true => exact kind?_apply_of_removes hremoves
    | false =>
        cases hsince : sinceDeclared? kind edits with
        | some later =>
            rw [sinceDeclared?_snoc_of_some hremoves hsince] at hnone
            cases hnone
        | none =>
            rw [sinceDeclared?_snoc_of_none hremoves hsince] at hnone
            exact kind?_apply_of_none (h.undeclared kind hsince) (by simpa using hnone)
  · intro kind later hlater
    cases hremoves : e.removes kind with
    | true =>
        rw [sinceDeclared?_snoc_of_removes hremoves] at hlater
        cases hlater
    | false =>
        cases hsince : sinceDeclared? kind edits with
        | some before =>
            rw [sinceDeclared?_snoc_of_some hremoves hsince] at hlater
            cases hlater
            obtain ⟨k, hsome, hfollows⟩ := h.declared kind before hsince
            exact kind?_apply_of_some hsome hfollows hremoves
        | none =>
            rw [sinceDeclared?_snoc_of_none hremoves hsince] at hlater
            split at hlater
            · rename_i hadds
              cases hlater
              exact kind?_apply_of_adds (h.undeclared kind hsince) hadds
            · cases hlater

theorem of_edits (address : CallbackAddress) (edits : List Edit) :
    (edited address edits).Reflects edits := by
  induction edits using List.reverseRecOn with
  | nil => exact ⟨fun _ => rfl, fun _ _ => rfl, fun _ _ h => by cases h⟩
  | append_singleton edits e ih =>
      rw [edited_snoc]
      exact ih.snoc e

theorem exists_kind (h : c.Reflects edits) (hdeclared : (sinceDeclared? kind edits).isSome) :
    ∃ k, c.kind? kind = some k := by
  obtain ⟨later, hlater⟩ := Option.isSome_iff_exists.mp hdeclared
  obtain ⟨k, hkind, -⟩ := h.declared kind later hlater
  exact ⟨k, hkind⟩

end Reflects

/-- Inserting a hook is inserting its procedure, also one that was made for another kind. -/
theorem insertHook_of_made {maker : Catalogue} {path source : String} {hook : Hook}
    (h : maker.hook path source = .ok hook) :
    c.insertHook kind hook = (Scope.hook kind).insert hook.procedure c := by
  rw [hook_eq] at h
  cases hs : maker.signature path (some source) hookDescription with
  | error failure =>
      rw [hs] at h
      cases h
  | ok s =>
      rw [hs] at h
      cases h
      obtain ⟨-, -, rfl⟩ := signature_eq_ok hs
      rfl

theorem lookup?_of_none (h : c.kind? kind = none) (name : String) :
    c.lookup? (some kind) name = none := by
  rw [Catalogue.lookup?, h]
  rfl

theorem kind?_apply_of_ne (h : e.subject ≠ some kind) :
    (e.apply c).kind? kind = c.kind? kind := by
  cases e with
  | add k _ =>
      rw [Edit.apply, kind?_addKind, if_neg fun hname => h (congrArg some hname), Option.or_none]
  | remove name =>
      rw [Edit.apply, kind?_removeKind, if_neg fun hname => h (congrArg some hname.symm)]
  | insert scope s =>
      cases hkind : c.kind? kind with
      | none => exact kind?_insert_of_none hkind
      | some k =>
          rw [kind?_insert hkind, if_neg]
          rw [name_of_kind? hkind]
          exact h

theorem lookup?_apply_of_ne {kind : Option String} (h : e.subject ≠ kind) (name : String) :
    (e.apply c).lookup? kind name = c.lookup? kind name := by
  cases kind with
  | some kind => rw [Catalogue.lookup?, Catalogue.lookup?, kind?_apply_of_ne h]
  | none =>
      have hinserted : e.inserted? .provider = none := by
        cases hs : e.inserted? .provider with
        | none => rfl
        | some s =>
            obtain rfl := eq_insert_of_inserted? hs
            exact absurd rfl h
      rw [Catalogue.lookup?, Catalogue.lookup?, procedures_apply_of_none hinserted]

theorem kind?_removeKind_self (c : Catalogue) (name : String) :
    (c.removeKind name).1.kind? name = none := by
  rw [kind?_removeKind, if_pos rfl]

theorem lookup?_addKind_of_none (hnone : c.kind? k.name = none)
    (declared : ∃ declaration, Kind.declare declaration = .ok k) (name : String) :
    (c.addKind k).1.lookup? (some k.name) name = none := by
  obtain ⟨k', hkind, hfollows⟩ :=
    kind?_apply_of_adds (e := .add k declared) hnone (beq_self_eq_true k.name)
  rw [Edit.apply] at hkind
  rw [Catalogue.lookup?, hkind]
  exact hfollows.lookup?_eq name

/-- What is found in a catalogue after a history of edits, and what one more edit changes. -/
structure Scoped (c : Catalogue) (edits : List Edit) : Prop where
  provider : ∀ name, c.lookup? none name = last? .provider name edits
  undeclared : ∀ kind, sinceDeclared? kind edits = none →
    c.kind? kind = none ∧ ∀ name, c.lookup? (some kind) name = none
  declared : ∀ kind later, sinceDeclared? kind edits = some later →
    ∃ k, c.kind? kind = some k ∧
      (∀ name, c.lookup? (some kind) name =
        (last? (.entity kind) name later).or
          ((last? (.kind kind) name later).or (last? (.hook kind) name later))) ∧
      k.hooks.map (·.signature) = ((insertions (.hook kind) later).map (·.name)).dedup ∧
      ∀ hook ∈ k.hooks, last? (.hook kind) hook.signature later = some hook.procedure
  hooks : ∀ (maker : Catalogue) path other hook, maker.hook path other = .ok hook →
    ∀ kind, c.insertHook kind hook = (Scope.hook kind).insert hook.procedure c
  refused : ∀ (scope : Scope) kind s, scope.kind? = some kind → sinceDeclared? kind edits = none →
    scope.insert s c = .error (.schema (.unknownKind kind)) ∧ (Edit.insert scope s).apply c = c
  accepted : ∀ (scope : Scope) kind s, scope.kind? = some kind →
    (sinceDeclared? kind edits).isSome → ∃ c', scope.insert s c = .ok c'
  repeated : ∀ k, (sinceDeclared? k.name edits).isSome → c.addKind k = (c, false)
  forgotten : ∀ k, (∃ declaration, Kind.declare declaration = .ok k) →
    ((c.removeKind k.name).1.addKind k).2 = true ∧
      ∀ name, ((c.removeKind k.name).1.addKind k).1.lookup? (some k.name) name = none
  elsewhere : ∀ (e : Edit) kind, e.subject ≠ kind →
    ∀ name, (e.apply c).lookup? kind name = c.lookup? kind name

theorem scoped_of_edits (address : CallbackAddress) (edits : List Edit) :
    (edited address edits).Scoped edits := by
  have h := Reflects.of_edits address edits
  constructor
  · exact h.procedures
  · intro kind hnone
    have hkind := h.undeclared kind hnone
    exact ⟨hkind, lookup?_of_none hkind⟩
  · intro kind later hlater
    obtain ⟨k, hkind, hfollows⟩ := h.declared kind later hlater
    obtain rfl := name_of_kind? hkind
    refine ⟨k, hkind, ?_, hfollows.hooks, fun hook hmem => hfollows.last?_hook hmem⟩
    intro name
    rw [Catalogue.lookup?, hkind]
    exact hfollows.lookup?_eq name
  · exact fun maker path other hook hmade kind => insertHook_of_made hmade
  · intro scope kind s hscope hnone
    have hkind := h.undeclared kind hnone
    exact ⟨insert_of_undeclared hscope hkind, apply_insert_of_undeclared hscope hkind⟩
  · intro scope kind s hscope hdeclared
    obtain ⟨k, hkind⟩ := h.exists_kind hdeclared
    exact ⟨_, insert_of_declared hscope hkind⟩
  · intro k hdeclared
    obtain ⟨k', hkind⟩ := h.exists_kind hdeclared
    rw [addKind, hkind]
  · intro k declared
    have hremoved := kind?_removeKind_self (edited address edits) k.name
    refine ⟨?_, lookup?_addKind_of_none hremoved declared⟩
    rw [addKind, hremoved]
  · exact fun e kind hne name => lookup?_apply_of_ne hne name

end Catalogue

end IntentProvider
