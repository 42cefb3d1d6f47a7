import IntentProvider.Catalogue.Plural

/-!
Names with one plural. Different names have one plural in two cases only: a name that ends in a hiss
and the same name with an `e`, and names that differ in how a lone `y` is written, small, large or as
`ie`. The plural keeps the name, or the name without the `y`, and the place of the `y` is never
within a character.
-/

namespace IntentProvider.Plural

theorem toNat_toLower (c : Char) :
    c.toLower.toNat = if 65 ≤ c.toNat ∧ c.toNat ≤ 90 then c.toNat + 32 else c.toNat := by
  unfold Char.toLower
  split
  · rename_i h
    have hc : 65 ≤ c.toNat ∧ c.toNat ≤ 90 := h
    rw [if_pos hc]
    change (c.val + 32).toNat = c.toNat + 32
    rw [UInt32.toNat_add]
    change (c.toNat + 32) % _ = _
    omega
  · rename_i h
    exact (if_neg h).symm

theorem toLower_eq_iff {c small capital : Char} (hsmall : 97 ≤ small.toNat ∧ small.toNat ≤ 122)
    (hcapital : capital.toNat + 32 = small.toNat) :
    c.toLower = small ↔ c = small ∨ c = capital := by
  rw [← Char.toNat_inj, ← Char.toNat_inj, ← Char.toNat_inj, toNat_toLower]
  split <;> omega

/-- The vowels of ASCII in either case. -/
def vowels : List Char :=
  ['a', 'A', 'e', 'E', 'i', 'I', 'o', 'O', 'u', 'U']

theorem isVowel_toLower_iff {c : Char} : isVowel c.toLower = true ↔ c ∈ vowels := by
  have ha : c.toLower = 'a' ↔ c = 'a' ∨ c = 'A' := toLower_eq_iff (by decide) (by decide)
  have he : c.toLower = 'e' ↔ c = 'e' ∨ c = 'E' := toLower_eq_iff (by decide) (by decide)
  have hi : c.toLower = 'i' ↔ c = 'i' ∨ c = 'I' := toLower_eq_iff (by decide) (by decide)
  have ho : c.toLower = 'o' ↔ c = 'o' ∨ c = 'O' := toLower_eq_iff (by decide) (by decide)
  have hu : c.toLower = 'u' ↔ c = 'u' ∨ c = 'U' := toLower_eq_iff (by decide) (by decide)
  simp only [isVowel, Bool.or_eq_true, beq_iff_eq, ha, he, hi, ho, hu, or_assoc, vowels,
    List.mem_cons, List.not_mem_nil, or_false]

def hisses : List (List Char) :=
  [['s'], ['x'], ['z'], ['c', 'h'], ['s', 'h']]

/-- A name ends in a hiss, whatever the case of its ASCII letters. -/
def Hissing (name : String) : Prop :=
  ∃ hiss ∈ hisses, hiss <:+ name.toList.map Char.toLower

/-- A text has a last character, which is no vowel. -/
def EndsInNoVowel (stem : String) : Prop :=
  ∃ front c, stem.toList = front ++ [c] ∧ c ∉ vowels

/-- A name is a stem with a lone `y` of either case after it. -/
def Lone (name stem : String) : Prop :=
  EndsInNoVowel stem ∧ (name = stem ++ "y" ∨ name = stem ++ "Y")

/-- A name in lower case, backwards. -/
def backwards (name : String) : List Char :=
  (name.toList.map Char.toLower).reverse

theorem backwards_append (s t : String) : backwards (s ++ t) = backwards t ++ backwards s := by
  simp [backwards]

theorem hissing_iff {name : String} : Hissing name ↔ endsInHiss (backwards name) = true := by
  have hprefix (hiss : List Char) :
      hiss <:+ name.toList.map Char.toLower ↔ hiss.reverse <+: backwards name :=
    List.reverse_prefix.symm
  simp only [Hissing, hprefix]
  generalize backwards name = cs
  constructor
  · rintro ⟨hiss, hmem, rest, rfl⟩
    simp only [hisses, List.mem_cons, List.not_mem_nil, or_false] at hmem
    rcases hmem with rfl | rfl | rfl | rfl | rfl <;> rfl
  · intro h
    unfold endsInHiss at h
    split at h
    · exact ⟨['s'], by decide, _, rfl⟩
    · exact ⟨['x'], by decide, _, rfl⟩
    · exact ⟨['z'], by decide, _, rfl⟩
    · exact ⟨['c', 'h'], by decide, _, rfl⟩
    · exact ⟨['s', 'h'], by decide, _, rfl⟩
    · cases h

theorem endsInLoneY_eq_true_iff {cs : List Char} :
    endsInLoneY cs = true ↔ ∃ c rest, cs = 'y' :: c :: rest ∧ isVowel c = false := by
  unfold endsInLoneY
  split
  · simp
  · rename_i hne
    simp only [Bool.false_eq_true, false_iff, not_exists, not_and]
    intro c rest heq
    exact absurd heq (hne c rest)

theorem Lone.endsInLoneY {name stem : String} (h : Lone name stem) :
    endsInLoneY (backwards name) = true := by
  obtain ⟨⟨front, c, hstem, hvowel⟩, hname⟩ := h
  have hback : backwards name = 'y' :: c.toLower :: (front.map Char.toLower).reverse := by
    rcases hname with rfl | rfl <;> simp [backwards, hstem]
  refine endsInLoneY_eq_true_iff.mpr ⟨_, _, hback, ?_⟩
  simpa [← isVowel_toLower_iff] using hvowel

theorem exists_lone {name : String} (h : endsInLoneY (backwards name) = true) :
    ∃ stem, Lone name stem := by
  obtain ⟨c, rest, hback, hvowel⟩ := endsInLoneY_eq_true_iff.mp h
  -- The two characters at the end of the name are those that become `c` and `y` in lower case.
  have hlower : name.toList.map Char.toLower = (rest.reverse ++ [c]) ++ ['y'] := by
    simpa [backwards] using congrArg List.reverse hback
  obtain ⟨stem, last, hname, hstem, hlast⟩ := List.map_eq_append_iff.mp hlower
  obtain ⟨front, before, rfl, -, hbefore⟩ := List.map_eq_append_iff.mp hstem
  obtain ⟨d, rfl, rfl⟩ := List.map_eq_singleton_iff.mp hbefore
  obtain ⟨y, rfl, hy⟩ := List.map_eq_singleton_iff.mp hlast
  have hcases : y = 'y' ∨ y = 'Y' := (toLower_eq_iff (by decide) (by decide)).mp hy
  refine ⟨String.ofList (front ++ [d]), ⟨front, d, by simp, ?_⟩, ?_⟩
  · simpa [← isVowel_toLower_iff] using hvowel
  · rcases hcases with rfl | rfl
    · exact .inl (String.ext (by simpa using hname))
    · exact .inr (String.ext (by simpa using hname))

theorem Lone.not_hissing {name stem : String} (h : Lone name stem) : ¬Hissing name := by
  obtain ⟨c, rest, hback, -⟩ := endsInLoneY_eq_true_iff.mp h.endsInLoneY
  rw [hissing_iff, hback]
  exact Bool.false_ne_true

theorem Lone.dropLast {name stem : String} (h : Lone name stem) :
    name.toList.dropLast = stem.toList := by
  rcases h.2 with rfl | rfl <;> simp

theorem of_eq (name : String) :
    of name =
      if endsInHiss (backwards name) then name ++ "es"
      else if endsInLoneY (backwards name) then String.ofList name.toList.dropLast ++ "ies"
      else name ++ "s" := by
  change String.ofList (if endsInHiss (backwards name) then _ else
    if endsInLoneY (backwards name) then _ else _) = _
  split
  · simp [String.ofList_append]
  split
  · simp [String.ofList_append]
  · simp [String.ofList_append]

theorem of_hissing {name : String} (h : Hissing name) : of name = name ++ "es" := by
  rw [of_eq, if_pos (hissing_iff.mp h)]

theorem of_lone {name stem : String} (h : Lone name stem) : of name = stem ++ "ies" := by
  rw [of_eq, if_neg fun hhiss => h.not_hissing (hissing_iff.mpr hhiss), if_pos h.endsInLoneY,
    h.dropLast, String.ofList_toList]

/-- A name takes one of three endings, and a lone `y` gives way to it. -/
theorem of_cases (name : String) :
    (Hissing name ∧ of name = name ++ "es") ∨ (∃ stem, Lone name stem ∧ of name = stem ++ "ies") ∨
      of name = name ++ "s" := by
  rw [of_eq]
  split
  · rename_i hhiss
    exact .inl ⟨hissing_iff.mpr hhiss, rfl⟩
  split
  · rename_i hlone
    obtain ⟨stem, hstem⟩ := exists_lone hlone
    rw [hstem.dropLast, String.ofList_toList]
    exact .inr (.inl ⟨stem, hstem, rfl⟩)
  · exact .inr (.inr rfl)

section Clash

/-- The ways to write a lone `y` that are one in the plural. -/
def spellings : List String :=
  ["y", "Y", "ie"]

/-- What sets two names with one plural apart: an `e` after a hiss, or the spelling of a lone `y`. -/
inductive Clash : String → String → Prop where
  | hiss {name : String} (h : Hissing name) : Clash name (name ++ "e")
  | lone {stem e f : String} (h : EndsInNoVowel stem) (he : e ∈ spellings) (hf : f ∈ spellings)
      (hne : e ≠ f) : Clash (stem ++ e) (stem ++ f)

variable {a b stem : String}

theorem es_eq (name : String) : name ++ "es" = name ++ "e" ++ "s" := by
  rw [String.append_assoc]
  rfl

theorem ies_eq (stem : String) : stem ++ "ies" = stem ++ "ie" ++ "s" := by
  rw [String.append_assoc]
  rfl

theorem of_of_last_e {name : String} {cs : List Char} (h : backwards name = 'e' :: cs) :
    of name = name ++ "s" := by
  rw [of_eq, h]
  cases cs <;> rfl

theorem of_spelling (h : EndsInNoVowel stem) {e : String} (he : e ∈ spellings) :
    of (stem ++ e) = stem ++ "ies" := by
  simp only [spellings, List.mem_cons, List.not_mem_nil, or_false] at he
  rcases he with rfl | rfl | rfl
  · exact of_lone ⟨h, .inl rfl⟩
  · exact of_lone ⟨h, .inr rfl⟩
  · rw [of_of_last_e (backwards_append stem "ie"), ies_eq]

theorem Clash.of_eq_of (h : Clash a b) : of a = of b := by
  cases h with
  | hiss h => rw [of_hissing h, of_of_last_e (backwards_append a "e"), es_eq]
  | lone h he hf _ => rw [of_spelling h he, of_spelling h hf]

theorem Clash.ne (h : Clash a b) : a ≠ b := by
  cases h with
  | hiss h => simp [← String.toList_inj]
  | lone h he hf hne => simpa [String.append_right_inj] using hne

theorem es_ne_ies (h : Hissing a) : a ++ "es" ≠ stem ++ "ies" := by
  have hies : stem ++ "ies" = stem ++ "i" ++ "es" := by
    rw [String.append_assoc]
    rfl
  intro heq
  rw [hies, String.append_left_inj] at heq
  rw [hissing_iff, heq, backwards_append] at h
  exact absurd h Bool.false_ne_true

/-- A name that hisses shares its plural only with the same name and an `e` after it. -/
theorem eq_or_eq_of_hissing (h : Hissing a) (heq : of b = of a) : b = a ∨ b = a ++ "e" := by
  rw [of_hissing h] at heq
  rcases of_cases b with ⟨-, hb⟩ | ⟨stem, -, hb⟩ | hb
  · rw [hb, String.append_left_inj] at heq
    exact .inl heq
  · rw [hb] at heq
    exact absurd heq.symm (es_ne_ies h)
  · rw [hb, es_eq, String.append_left_inj] at heq
    exact .inr heq

/-- The names with a plural in `ies` are the spellings of one name. -/
theorem exists_spelling (heq : of b = stem ++ "ies") : ∃ e ∈ spellings, b = stem ++ e := by
  rcases of_cases b with ⟨h, hb⟩ | ⟨other, ⟨-, hother⟩, hb⟩ | hb
  · rw [hb] at heq
    exact absurd heq (es_ne_ies h)
  · rw [hb, String.append_left_inj] at heq
    subst heq
    rcases hother with rfl | rfl
    · exact ⟨"y", by decide, rfl⟩
    · exact ⟨"Y", by decide, rfl⟩
  · rw [hb, ies_eq, String.append_left_inj] at heq
    exact ⟨"ie", by decide, heq⟩

theorem clash_of_hissing (h : Hissing a) (heq : of a = of b) (hne : a ≠ b) : Clash a b := by
  rcases eq_or_eq_of_hissing h heq.symm with rfl | rfl
  · exact absurd rfl hne
  · exact .hiss h

theorem clash_of_lone (h : Lone a stem) (heq : of a = of b) (hne : a ≠ b) : Clash a b := by
  have hstem := of_lone h
  obtain ⟨e, he, rfl⟩ := exists_spelling hstem
  obtain ⟨f, hf, rfl⟩ := exists_spelling (heq ▸ hstem)
  refine .lone h.1 he hf fun hef => ?_
  exact hne (hef ▸ rfl)

theorem clash_of_of_eq_of (heq : of a = of b) (hne : a ≠ b) : Clash a b ∨ Clash b a := by
  rcases of_cases a with ⟨ha, -⟩ | ⟨stem, ha, -⟩ | ha
  · exact .inl (clash_of_hissing ha heq hne)
  · exact .inl (clash_of_lone ha heq hne)
  rcases of_cases b with ⟨hb, -⟩ | ⟨stem, hb, -⟩ | hb
  · exact .inr (clash_of_hissing hb heq.symm hne.symm)
  · exact .inr (clash_of_lone hb heq.symm hne.symm)
  · rw [ha, hb, String.append_left_inj] at heq
    exact absurd heq hne

end Clash

section Bytes

/-- The text before a place that is given in bytes. There is none if the place is within a
character. -/
def before? (s : String) (place : Nat) : Option String :=
  String.fromUTF8? (s.toByteArray.extract 0 place)

/-- The plural of a name as it is made from its bytes: what is cut off for a lone `y` is the last
byte. -/
def ofBytes? (name : String) : Option String :=
  if endsInHiss (backwards name) then some (name ++ "es")
  else if endsInLoneY (backwards name) then
    (before? name (name.utf8ByteSize - 1)).map (· ++ "ies")
  else some (name ++ "s")

theorem before?_append (s t : String) : before? (s ++ t) s.utf8ByteSize = some s := by
  have hbytes : (s ++ t).toByteArray.extract 0 s.utf8ByteSize = s.toByteArray := by
    rw [String.toByteArray_append]
    exact ByteArray.extract_append_eq_left rfl
  rw [before?, hbytes, String.fromUTF8?, dif_pos s.isValidUTF8]
  rfl

theorem before?_of_lone {name stem : String} (h : Lone name stem) :
    before? name (name.utf8ByteSize - 1) = some stem := by
  have hcut {y : String} (hy : y.utf8ByteSize = 1) :
      before? (stem ++ y) ((stem ++ y).utf8ByteSize - 1) = some stem := by
    rw [String.utf8ByteSize_append, hy, Nat.add_sub_cancel]
    exact before?_append stem y
  rcases h.2 with rfl | rfl
  · exact hcut (by decide)
  · exact hcut (by decide)

theorem ofBytes?_eq_some_of (name : String) : ofBytes? name = some (of name) := by
  rw [ofBytes?, of_eq]
  split
  · rfl
  split
  · rename_i h
    obtain ⟨stem, hstem⟩ := exists_lone h
    rw [before?_of_lone hstem, hstem.dropLast, String.ofList_toList]
    rfl
  · rfl

end Bytes

/-- Different names have one plural exactly if they clash. The plural is found by the bytes of a name
without a cut through a character, and it is the name, or the name without its lone `y`, with an
ending. -/
theorem one_plural_iff_clash (a b : String) :
    (a ≠ b ∧ of a = of b ↔ Clash a b ∨ Clash b a) ∧
    ofBytes? a = some (of a) ∧
    ∃ stem, ∃ ending ∈ ["s", "es", "ies"], of a = stem ++ ending ∧
      (a = stem ∨ a = stem ++ "y" ∨ a = stem ++ "Y") := by
  refine ⟨⟨fun h => clash_of_of_eq_of h.2 h.1, ?_⟩, ofBytes?_eq_some_of a, ?_⟩
  · rintro (h | h)
    · exact ⟨h.ne, h.of_eq_of⟩
    · exact ⟨h.ne.symm, h.of_eq_of.symm⟩
  · rcases of_cases a with ⟨-, ha⟩ | ⟨stem, ⟨-, hstem⟩, ha⟩ | ha
    · exact ⟨a, "es", by decide, ha, .inl rfl⟩
    · exact ⟨stem, "ies", by decide, ha, .inr hstem⟩
    · exact ⟨a, "s", by decide, ha, .inl rfl⟩

example : of "Axe" = of "Ax" := by decide

end IntentProvider.Plural
