import IntentProvider.Http.Path
import IntentProvider.Proofs.Text.Percent
import IntentProvider.Proofs.Text.Split

/-!
What becomes of the segments of a path. Resolving segments of dots and decoding escapes can only
make a path shorter, so that a path that decodes to as many bytes as were written has neither.
-/

namespace IntentProvider.Http.Path

open IntentProvider.Text
open IntentProvider.Text.Percent

/-- A segment that is no dot segment and in which nothing is percent-encoded. -/
def Verbatim (s : List Char) : Prop :=
  isSingleDot s = false ∧ isDoubleDot s = false ∧ hasEscape s = false

instance (s : List Char) : Decidable (Verbatim s) :=
  inferInstanceAs (Decidable (_ ∧ _ ∧ _))

/-- The place that a segment leads to if others follow it. -/
def follow (path : List (List Char)) (s : List Char) : List (List Char) :=
  if isDoubleDot s then above path
  else if isSingleDot s then path
  else path ++ [encode isEncoded s]

theorem walk_cons (path : List (List Char)) (s : List Char) {rest : List (List Char)}
    (h : rest ≠ []) : walk path (s :: rest) = walk (follow path s) rest := by
  cases rest with
  | nil => exact absurd rfl h
  | cons next rest =>
      rw [walk, follow]
      · split
        · rfl
        · split <;> rfl
      · exact h

theorem walk_append (path init : List (List Char)) {rest : List (List Char)} (h : rest ≠ []) :
    walk path (init ++ rest) = walk (init.foldl follow path) rest := by
  induction init generalizing path with
  | nil => rfl
  | cons s init ih =>
      rw [List.cons_append, walk_cons path s (List.append_ne_nil_of_right_ne_nil init h), ih,
        List.foldl_cons]

theorem walk_of_no_dots (path : List (List Char)) {segments : List (List Char)}
    (h : ∀ s ∈ segments, isSingleDot s = false ∧ isDoubleDot s = false) :
    walk path segments = path ++ segments.map (encode isEncoded) := by
  induction segments generalizing path with
  | nil => simp [walk]
  | cons s rest ih =>
      obtain ⟨hsingle, hdouble⟩ := h s List.mem_cons_self
      cases rest with
      | nil => simp [walk, hsingle, hdouble]
      | cons next rest =>
          rw [walk_cons path s (List.cons_ne_nil next rest),
            ih (follow path s) fun s' hs' => h s' (List.mem_cons_of_mem _ hs')]
          simp [follow, hsingle, hdouble]

theorem walk_of_verbatim (path : List (List Char)) {segments : List (List Char)}
    (h : ∀ s ∈ segments, Verbatim s) :
    walk path segments = path ++ segments.map (encode isEncoded) :=
  walk_of_no_dots path fun s hs => ⟨(h s hs).1, (h s hs).2.1⟩

section Segments

variable {Q : List Char → Prop} {path segments : List (List Char)}

theorem forall_mem_above (h : ∀ s ∈ path, Q s) : ∀ s ∈ above path, Q s := by
  unfold above
  split
  · exact h
  · exact fun s hs => h s ((List.dropLast_sublist path).subset hs)

theorem forall_mem_concat (h : ∀ s ∈ path, Q s) {s : List Char} (hs : Q s) :
    ∀ s' ∈ path ++ [s], Q s' :=
  List.forall_mem_append.mpr ⟨h, List.forall_mem_singleton.mpr hs⟩

theorem forall_mem_follow (h : ∀ s ∈ path, Q s) {s : List Char} (hs : Q (encode isEncoded s)) :
    ∀ s' ∈ follow path s, Q s' := by
  unfold follow
  split
  · exact forall_mem_above h
  · split
    · exact h
    · exact forall_mem_concat h hs

theorem forall_mem_foldl_follow (h : ∀ s ∈ path, Q s)
    (hs : ∀ s ∈ segments, Q (encode isEncoded s)) : ∀ s ∈ segments.foldl follow path, Q s := by
  induction segments generalizing path with
  | nil => exact h
  | cons s rest ih =>
      exact ih (forall_mem_follow h (hs s List.mem_cons_self)) fun s' hs' =>
        hs s' (List.mem_cons_of_mem _ hs')

/-- What a path consists of in the end has been there before, is empty or is an encoded segment. -/
theorem forall_mem_walk (hempty : Q []) (h : ∀ s ∈ path, Q s)
    (hs : ∀ s ∈ segments, Q (encode isEncoded s)) : ∀ s ∈ walk path segments, Q s := by
  induction segments generalizing path with
  | nil => exact h
  | cons s rest ih =>
      have hfirst := hs s List.mem_cons_self
      cases rest with
      | nil =>
          rw [walk]
          split
          · exact forall_mem_concat (forall_mem_above h) hempty
          · split
            · exact forall_mem_concat h hempty
            · exact forall_mem_concat h hfirst
      | cons next rest =>
          rw [walk_cons path s (List.cons_ne_nil next rest)]
          exact ih (forall_mem_follow h hfirst) fun s' hs' => hs s' (List.mem_cons_of_mem _ hs')

end Segments

theorem slash_not_mem_encode {s : List Char} (h : '/' ∉ s) : '/' ∉ encode isEncoded s := by
  intro hmem
  rcases mem_encode hmem with ⟨hmem, -⟩ | ⟨b, hb⟩
  · exact h hmem
  · exact not_mem_encodeByte (by decide) (by decide) b hb

theorem question_not_mem_encode (s : List Char) : '?' ∉ encode isEncoded s := by
  intro hmem
  rcases mem_encode hmem with ⟨-, hplain⟩ | ⟨b, hb⟩
  · exact absurd hplain (by decide)
  · exact not_mem_encodeByte (by decide) (by decide) b hb

theorem splitAt_text {path : List (List Char)} (h : ∀ s ∈ path, '/' ∉ s) (hne : path ≠ []) :
    splitAt '/' ((segments path).text.drop 1) = path := by
  cases path with
  | nil => exact absurd rfl hne
  | cons s rest => exact splitAt_join h

/-- A path whose text can be cut into its segments again. -/
def Clear (path : List (List Char)) : Prop :=
  ∀ s ∈ path, '/' ∉ s ∧ '?' ∉ s

theorem Clear.append {path rest : List (List Char)} (h : Clear path) (hrest : Clear rest) :
    Clear (path ++ rest) :=
  List.forall_mem_append.mpr ⟨h, hrest⟩

theorem clear_encode {s : List Char} (h : '/' ∉ s) :
    '/' ∉ encode isEncoded s ∧ '?' ∉ encode isEncoded s :=
  ⟨slash_not_mem_encode h, question_not_mem_encode s⟩

theorem Clear.foldl_follow {path segments : List (List Char)} (h : Clear path)
    (hs : ∀ s ∈ segments, '/' ∉ s) : Clear (segments.foldl Path.follow path) :=
  forall_mem_foldl_follow h fun s hmem => clear_encode (hs s hmem)

theorem clear_walk {path segments : List (List Char)} (h : Clear path)
    (hs : ∀ s ∈ segments, '/' ∉ s) : Clear (walk path segments) :=
  forall_mem_walk ⟨List.not_mem_nil, List.not_mem_nil⟩ h fun s hmem => clear_encode (hs s hmem)

/-- How many bytes a path decodes to, with one for each slash. -/
def weight (path : List (List Char)) : Nat :=
  (path.flatMap fun s => 47 :: decode s).length

theorem weight_append (path rest : List (List Char)) :
    weight (path ++ rest) = weight path + weight rest := by
  simp [weight]

theorem weight_singleton (s : List Char) : weight [s] = (decode s).length + 1 := by
  simp [weight]

theorem weight_above_le (path : List (List Char)) : weight (above path) ≤ weight path := by
  unfold above
  split
  · exact Nat.le_refl _
  · rcases List.eq_nil_or_concat path with rfl | ⟨init, s, rfl⟩
    · exact Nat.le_refl _
    · rw [List.concat_eq_append, List.dropLast_concat, weight_append]
      exact Nat.le_add_right _ _

/-- How many bytes segments are written with, with one for each slash. -/
def cost (segments : List (List Char)) : Nat :=
  (utf8 (segments.flatMap ('/' :: ·))).length

theorem cost_cons (s : List Char) (rest : List (List Char)) :
    cost (s :: rest) = (utf8 s).length + 1 + cost rest := by
  have hslash : (String.utf8EncodeChar '/').length = 1 := by decide
  rw [cost, List.flatMap_cons, utf8_append, utf8_cons, List.length_append, List.length_append,
    hslash, cost]
  omega

theorem cost_splitAt (cs : List Char) : cost (splitAt '/' cs) = (utf8 ('/' :: cs)).length := by
  rw [cost, flatMap_splitAt]

theorem not_escape_of_isEncoded (c : Char) (h : isEncoded c = true) :
    c ≠ '%' ∧ Radix.digit? 16 c = none := by
  rcases Bool.or_eq_true_iff.mp h with hsmall | hmem
  · have hsmall : c.toNat < 0x20 := of_decide_eq_true hsmall
    have hless : ∀ d : Char, 0x20 ≤ d.toNat → ¬ d ≤ c := by
      intro d hd hle
      have hle' : d.toNat ≤ c.toNat := hle
      omega
    refine ⟨?_, by simp [Radix.digit?, hless]⟩
    rintro rfl
    exact absurd hsmall (by decide)
  · have hall : [' ', '"', '<', '>', Char.ofNat 0x60, '#', '?', '\x7b', '\x7d'].all
        (fun c => c != '%' && (Radix.digit? 16 c).isNone) := by
      decide
    have hc := List.all_eq_true.mp hall c (List.contains_iff_mem.mp hmem)
    rwa [Bool.and_eq_true, bne_iff_ne, Option.isNone_iff_eq_none] at hc

theorem decode_encode_segment (s : List Char) : decode (encode isEncoded s) = decode s :=
  decode_encode not_escape_of_isEncoded s

theorem length_of_isDoubleDot {s : List Char} (h : isDoubleDot s = true) : 2 ≤ s.length := by
  have hlower : 2 ≤ (s.map Char.toLower).length := by
    simp only [isDoubleDot, Bool.or_eq_true, beq_iff_eq] at h
    rcases h with ((h | h) | h) | h <;> simp [h]
  rwa [List.length_map] at hlower

theorem length_of_isSingleDot {s : List Char} (h : isSingleDot s = true) : 1 ≤ s.length := by
  have hlower : 1 ≤ (s.map Char.toLower).length := by
    simp only [isSingleDot, Bool.or_eq_true, beq_iff_eq] at h
    rcases h with h | h <;> simp [h]
  rwa [List.length_map] at hlower

/-- What a segment adds to a path is at most what it is written with, and is that only if it is
taken as it is. -/
theorem weight_encode (s : List Char) :
    weight [encode isEncoded s] ≤ (utf8 s).length + 1 ∧
      ((utf8 s).length + 1 ≤ weight [encode isEncoded s] → hasEscape s = false) := by
  rw [weight_singleton, decode_encode_segment]
  rcases decode_cases s with ⟨hplain, hs⟩ | ⟨-, hs⟩
  · rw [hs]
    exact ⟨Nat.le_refl _, fun _ => hplain⟩
  · exact ⟨by omega, fun h => by omega⟩

theorem weight_follow (path : List (List Char)) (s : List Char) :
    weight (follow path s) ≤ weight path + (utf8 s).length + 1 ∧
      (weight path + (utf8 s).length + 1 ≤ weight (follow path s) → Verbatim s) := by
  have habove := weight_above_le path
  obtain ⟨hle, heq⟩ := weight_encode s
  unfold follow
  split
  · exact ⟨by omega, fun h => by omega⟩
  · rename_i hdouble
    split
    · exact ⟨by omega, fun h => by omega⟩
    · rename_i hsingle
      rw [weight_append]
      refine ⟨by omega, fun h => ⟨?_, ?_, heq (by omega)⟩⟩
      · exact Bool.eq_false_iff.mpr hsingle
      · exact Bool.eq_false_iff.mpr hdouble

theorem weight_walk_singleton (path : List (List Char)) (s : List Char) :
    weight (walk path [s]) ≤ weight path + (utf8 s).length + 1 ∧
      (weight path + (utf8 s).length + 1 ≤ weight (walk path [s]) → Verbatim s) := by
  have habove := weight_above_le path
  have hlength := length_le_length_utf8 s
  have hempty : weight [[]] = 1 := rfl
  obtain ⟨hle, heq⟩ := weight_encode s
  rw [walk]
  split
  · rename_i hdouble
    have := length_of_isDoubleDot hdouble
    rw [weight_append, hempty]
    exact ⟨by omega, fun h => by omega⟩
  · rename_i hdouble
    split
    · rename_i hsingle
      have := length_of_isSingleDot hsingle
      rw [weight_append, hempty]
      exact ⟨by omega, fun h => by omega⟩
    · rename_i hsingle
      rw [weight_append]
      refine ⟨by omega, fun h => ⟨?_, ?_, heq (by omega)⟩⟩
      · exact Bool.eq_false_iff.mpr hsingle
      · exact Bool.eq_false_iff.mpr hdouble

theorem weight_walk (path segments : List (List Char)) :
    weight (walk path segments) ≤ weight path + cost segments ∧
      (weight path + cost segments ≤ weight (walk path segments) →
        ∀ s ∈ segments, Verbatim s) := by
  induction segments generalizing path with
  | nil => exact ⟨Nat.le_refl _, by simp⟩
  | cons s rest ih =>
      rw [cost_cons]
      cases rest with
      | nil =>
          obtain ⟨hle, heq⟩ := weight_walk_singleton path s
          have hnil : cost [] = 0 := rfl
          refine ⟨by omega, fun h => ?_⟩
          rintro s' hs'
          rw [List.mem_singleton.mp hs']
          exact heq (by omega)
      | cons next rest =>
          rw [walk_cons path s (List.cons_ne_nil next rest)]
          obtain ⟨hle, heq⟩ := weight_follow path s
          obtain ⟨hle', heq'⟩ := ih (follow path s)
          refine ⟨by omega, fun h => ?_⟩
          rintro s' hs'
          rcases List.mem_cons.mp hs' with rfl | hs'
          · exact heq (by omega)
          · exact heq' (by omega) s' hs'

end IntentProvider.Http.Path
