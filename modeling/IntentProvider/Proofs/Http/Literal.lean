import IntentProvider.Proofs.Http.Url

/-!
Texts that stand in the path of a URL for requests as they are written. Nothing in them is encoded,
is taken for a slash, begins a query or a fragment, or falls away. Whatever is written, only such
texts are in a path in the end.
-/

namespace IntentProvider.Http

open IntentProvider.Text
open IntentProvider.Text.Percent

namespace Path

/-- Whether a character stands in a path as it is. -/
def isLiteral (c : Char) : Bool :=
  !isEncoded c && c.toNat ≤ 0x7E && c != '\\'

/-- A segment that stands in a path as it is. -/
structure IsLiteral (s : List Char) : Prop where
  chars : ∀ c ∈ s, isLiteral c = true
  single : isSingleDot s = false
  double : isDoubleDot s = false

theorem isLiteral_iff {c : Char} :
    isLiteral c = true ↔ isEncoded c = false ∧ c.toNat ≤ 0x7E ∧ c ≠ '\\' := by
  simp [isLiteral, and_assoc]

theorem ne_of_isLiteral {c d : Char} (hd : isLiteral d = false) (hc : isLiteral c = true) :
    c ≠ d := by
  rintro rfl
  rw [hc] at hd
  cases hd

/-- What holds of each of the letters and digits of ASCII. -/
theorem forall_isAlphanum {P : Char → Prop}
    (hall : ∀ n < 0x7F, (Char.ofNat n).isAlphanum = true → P (Char.ofNat n)) {c : Char}
    (h : c.isAlphanum = true) : P c := by
  have hsmall : c.toNat < 0x7F := by
    change ((decide ('A'.val ≤ c.val ∧ c.val ≤ 'Z'.val) ||
      decide ('a'.val ≤ c.val) && decide (c.val ≤ 'z'.val)) ||
        decide ('0'.val ≤ c.val) && decide (c.val ≤ '9'.val)) = true at h
    simp only [Bool.or_eq_true, Bool.and_eq_true, decide_eq_true_eq] at h
    rcases h with (⟨-, h⟩ | ⟨-, h⟩) | ⟨-, h⟩
    all_goals exact Nat.lt_of_le_of_lt (UInt32.le_iff_toNat_le.mp h) (by decide)
  have hc := hall c.toNat hsmall
  rw [Char.ofNat_toNat] at hc
  exact hc h

theorem head_of_dots {s : List Char} (h : isSingleDot s = true ∨ isDoubleDot s = true) :
    ∃ c rest, s = c :: rest ∧ (c.toLower = '.' ∨ c.toLower = '%') := by
  cases s with
  | nil => simp [isSingleDot, isDoubleDot] at h
  | cons c rest =>
      refine ⟨c, rest, rfl, ?_⟩
      simp only [isSingleDot, isDoubleDot, List.map_cons, Bool.or_eq_true, beq_iff_eq,
        List.cons.injEq] at h
      grind

theorem isLiteral_of_alphanum {s : List Char} (h : ∀ c ∈ s, c.isAlphanum = true) :
    IsLiteral s := by
  have hdots : ¬(isSingleDot s = true ∨ isDoubleDot s = true) := by
    intro hdots
    obtain ⟨c, rest, rfl, hc⟩ := head_of_dots hdots
    have hne : c.toLower ≠ '.' ∧ c.toLower ≠ '%' :=
      forall_isAlphanum (P := fun c => c.toLower ≠ '.' ∧ c.toLower ≠ '%') (by decide)
        (h c List.mem_cons_self)
    exact hc.elim hne.1 hne.2
  rw [not_or, Bool.not_eq_true, Bool.not_eq_true] at hdots
  refine ⟨fun c hc => ?_, hdots.1, hdots.2⟩
  exact forall_isAlphanum (P := fun c => isLiteral c = true) (by decide) (h c hc)

theorem encode_of_literal {s : List Char} (h : ∀ c ∈ s, isLiteral c = true) :
    encode isEncoded s = s :=
  encode_of_plain fun c hc =>
    ⟨(isLiteral_iff.mp (h c hc)).1, (isLiteral_iff.mp (h c hc)).2.1⟩

theorem isLiteral_of_mem_encode {s : List Char} (hback : '\\' ∉ s) :
    ∀ c ∈ encode isEncoded s, isLiteral c = true := by
  intro c hc
  rcases mem_encode hc with ⟨hmem, hplain, hle⟩ | ⟨b, hb⟩
  · exact isLiteral_iff.mpr ⟨hplain, hle, fun heq => hback (heq ▸ hmem)⟩
  · exact forall_mem_encodeByte (P := fun c => isLiteral c = true) (by decide) (by decide) b c hb

theorem isLiteral_of_mem_walk {segments : List (List Char)} (hback : ∀ s ∈ segments, '\\' ∉ s) :
    ∀ c ∈ (Path.segments (walk [] segments)).text, isLiteral c = true := by
  have hwalk : ∀ s ∈ walk [] segments, ∀ c ∈ s, isLiteral c = true :=
    forall_mem_walk (by simp) (by simp) fun s hs => isLiteral_of_mem_encode (hback s hs)
  intro c hc
  obtain ⟨s, hs, hc⟩ := List.mem_flatMap.mp hc
  rcases List.mem_cons.mp hc with rfl | hc
  · decide
  · exact hwalk s hs c hc

theorem walk_of_literal (path : List (List Char)) {segments : List (List Char)}
    (h : ∀ s ∈ segments, IsLiteral s) : walk path segments = path ++ segments := by
  have hsame : segments.map (encode isEncoded) = segments :=
    (List.map_congr_left fun s hs => encode_of_literal (h s hs).chars).trans (List.map_id segments)
  rw [walk_of_no_dots path fun s hs => ⟨(h s hs).single, (h s hs).double⟩, hsame]

/-- A path ends in a slash where its last segment was one of dots. -/
theorem text_walk_of_dots (path : List (List Char)) {s : List Char}
    (h : isSingleDot s = true ∨ isDoubleDot s = true) :
    ((segments (walk path [s])).text).getLast? = some '/' := by
  obtain ⟨before, hwalk⟩ : ∃ before, walk path [s] = before ++ [[]] := by
    rw [walk]
    split
    · exact ⟨_, rfl⟩
    · rename_i hdouble
      rw [if_pos (h.resolve_right hdouble)]
      exact ⟨_, rfl⟩
  rw [hwalk, text, List.flatMap_append]
  simp

end Path

namespace Url

theorem kept_of_literal {cs : List Char} (h : ∀ c ∈ cs, Path.isLiteral c = true) :
    slashed (beforeQuery (unbroken (trimEnd cs))) = cs ∧
      '?' ∉ (unbroken (trimEnd cs)).takeWhile (· != '#') := by
  have hne {d : Char} (hd : Path.isLiteral d = false) : d ∉ cs := fun hmem => by
    rw [h d hmem] at hd
    cases hd
  have htrim : trimEnd cs = cs := by
    refine (trimEnd_eq_self_iff cs).mpr fun c hc => ?_
    have hplain := (Path.isLiteral_iff.mp (h c (List.mem_of_getLast? hc))).1
    have hspace : c ≠ ' ' := Path.ne_of_isLiteral (by decide) (h c (List.mem_of_getLast? hc))
    refine decide_eq_false fun hle => ?_
    rcases Nat.lt_or_eq_of_le hle with hlt | heq
    · simp [Path.isEncoded, hlt] at hplain
    · refine hspace ?_
      rw [← Char.ofNat_toNat c, heq]
  have hunbroken : unbroken cs = cs := by
    refine (unbroken_eq_self_iff cs).mpr fun c hc hmem => ?_
    simp only [List.mem_cons, List.not_mem_nil, or_false] at hmem
    rcases hmem with rfl | rfl | rfl
    all_goals exact hne (by decide) hc
  have hquery : beforeQuery cs = cs := by
    refine (beforeQuery_eq_self_iff cs).mpr fun c hc hmem => ?_
    simp only [List.mem_cons, List.not_mem_nil, or_false] at hmem
    rcases hmem with rfl | rfl
    all_goals exact hne (by decide) hc
  rw [htrim, hunbroken, hquery]
  exact ⟨slashed_of_not_mem (hne (by decide)), fun hmem =>
    hne (d := '?') (by decide) ((List.takeWhile_sublist _).subset hmem)⟩

end Url

end IntentProvider.Http
