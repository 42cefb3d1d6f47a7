import IntentProvider.Text.Radix

/-!
Which texts are read as numbers, and which numbers they denote. What is written with a fixed number
of hexadecimal digits is read back, and what is read is written with the same digits again, in lower
case and with a zero in the place of a plus sign.
-/

namespace IntentProvider.Text.Radix

theorem forall_mem_padded {base : Nat} (hbase : 0 < base) {P : Char → Prop}
    (h : ∀ d < base, P (digitChar d)) {width n : Nat} :
    ∀ c ∈ padded base width n, P c := by
  induction width generalizing n with
  | zero => simp [padded]
  | succ width ih =>
      intro c hc
      rw [padded] at hc
      rcases List.mem_append.mp hc with hc | hc
      · exact ih c hc
      · rw [List.mem_singleton.mp hc]
        exact h _ (Nat.mod_lt n hbase)

theorem digit?_digitChar : ∀ d < 16, digit? 16 (digitChar d) = some d := by
  decide

theorem continue?_append (base limit n : Nat) (cs ds : List Char) :
    continue? base limit n (cs ++ ds) =
      (continue? base limit n cs).bind fun m => continue? base limit m ds := by
  induction cs generalizing n with
  | nil => rfl
  | cons c cs ih =>
      cases hc : digit? base c with
      | none => simp [continue?, hc]
      | some d =>
          simp only [List.cons_append, continue?, hc, Option.bind_eq_bind, Option.bind_some]
          split
          · exact ih _
          · rfl

theorem continue?_padded {limit width n : Nat} (hwidth : n < Nat.pow 16 width)
    (hlimit : n < limit) :
    continue? 16 limit 0 (padded 16 width n) = some n := by
  induction width generalizing n with
  | zero =>
      have hzero : n = 0 := by simpa using hwidth
      rw [hzero]
      rfl
  | succ width ih =>
      have hquotient : n / 16 < Nat.pow 16 width :=
        Nat.div_lt_of_lt_mul (by rw [Nat.mul_comm]; exact hwidth)
      have hsum : n / 16 * 16 + n % 16 = n := Nat.div_add_mod' n 16
      rw [padded, continue?_append, ih hquotient (Nat.lt_of_le_of_lt (Nat.div_le_self n 16) hlimit),
        Option.bind_some, continue?, digit?_digitChar _ (Nat.mod_lt n (by decide)),
        Option.bind_eq_bind, Option.bind_some, hsum, if_pos hlimit]
      rfl

theorem read?_padded {limit width n : Nat} (hpos : width ≠ 0) (hwidth : n < Nat.pow 16 width)
    (hlimit : n < limit) : read? 16 limit (padded 16 width n) = some n := by
  have hplus : ∀ c ∈ padded 16 width n, c ≠ '+' := forall_mem_padded (by decide) (by decide)
  cases hdigits : padded 16 width n with
  | nil =>
      have hlength := padded_length 16 width n
      rw [hdigits] at hlength
      exact absurd hlength.symm hpos
  | cons c cs =>
      have hc : c ≠ '+' := hplus c (by simp [hdigits])
      rw [← continue?_padded hwidth hlimit, hdigits]
      simp [read?, hc]

/-- The number that `n` followed by some digits denotes. -/
def denote (base : Nat) : Nat → List Char → Nat
  | n, [] => n
  | n, c :: cs => denote base (n * base + (digit? base c).getD 0) cs

/-- The number that digits of a base denote. -/
def number (base : Nat) (cs : List Char) : Nat :=
  denote base 0 cs

/-- One or more digits of a base. -/
def IsNumeral (base : Nat) (cs : List Char) : Prop :=
  cs ≠ [] ∧ ∀ c ∈ cs, (digit? base c).isSome

instance (base : Nat) (cs : List Char) : Decidable (IsNumeral base cs) :=
  decidable_of_iff (cs ≠ [] ∧ cs.all fun c => (digit? base c).isSome) (by simp [IsNumeral])

/-- The digits of a number, with a zero in the place of a plus sign. -/
def unsigned : List Char → List Char
  | '+' :: cs => '0' :: cs
  | cs => cs

/-- One or more digits of a base, possibly after a plus sign. -/
def IsSigned (base : Nat) (cs : List Char) : Prop :=
  IsNumeral base cs ∨ ∃ ds, cs = '+' :: ds ∧ IsNumeral base ds

section Denote

variable {base limit n m : Nat} {cs : List Char}

theorem digit?_lt {c : Char} {d : Nat} (h : digit? base c = some d) : d < base := by
  simpa using (Option.filter_eq_some_iff.mp h).2

theorem le_denote (hbase : 0 < base) (n : Nat) (cs : List Char) : n ≤ denote base n cs := by
  induction cs generalizing n with
  | nil => exact Nat.le_refl n
  | cons c cs ih =>
      have hmul : n ≤ n * base := Nat.le_mul_of_pos_right n hbase
      exact Nat.le_trans (Nat.le_add_right_of_le hmul) (ih _)

/-- Digits are read if each of them is one and the number that they denote is below the limit, since
no number on the way to it is larger. -/
theorem continue?_eq_some_iff (hbase : 0 < base) (hn : n < limit) :
    continue? base limit n cs = some m ↔
      (∀ c ∈ cs, (digit? base c).isSome) ∧ denote base n cs = m ∧ m < limit := by
  induction cs generalizing n with
  | nil =>
      simp only [continue?, Option.some.injEq, denote]
      constructor
      · rintro rfl
        exact ⟨by simp, rfl, hn⟩
      · exact fun h => h.2.1
  | cons c cs ih =>
      cases hc : digit? base c with
      | none => simp [continue?, hc]
      | some d =>
          have hle := le_denote hbase (n * base + d) cs
          simp only [continue?, hc, Option.bind_eq_bind, Option.bind_some, denote,
            Option.getD_some, List.forall_mem_cons, Option.isSome_some, true_and]
          split
          · rename_i hlt
            exact ih hlt
          · rename_i hlimit
            refine ⟨nofun, ?_⟩
            rintro ⟨-, rfl, hlt⟩
            exact absurd (Nat.lt_of_le_of_lt hle hlt) hlimit

theorem digit?_plus (base : Nat) : digit? base '+' = none := by
  simp [digit?]

theorem number_zero_cons (hbase : 0 < base) (cs : List Char) :
    number base ('0' :: cs) = number base cs := by
  have hzero : digit? base '0' = some 0 := by simp [digit?, hbase]
  rw [number, denote, hzero, Nat.zero_mul]
  rfl

theorem length_unsigned (cs : List Char) : (unsigned cs).length = cs.length := by
  unfold unsigned
  split <;> rfl

theorem unsigned_of_isNumeral (h : IsNumeral base cs) : unsigned cs = cs := by
  unfold unsigned
  split
  · have hplus := h.2 '+' List.mem_cons_self
    rw [digit?_plus] at hplus
    cases hplus
  · rfl

theorem isSigned_plus {ds : List Char} : IsSigned base ('+' :: ds) ↔ IsNumeral base ds := by
  constructor
  · rintro (h | ⟨ds', heq, h⟩)
    · have hnone := h.2 '+' List.mem_cons_self
      rw [digit?_plus] at hnone
      cases hnone
    · cases heq
      exact h
  · exact fun h => .inr ⟨ds, rfl, h⟩

theorem isSigned_of_no_plus (h : ∀ ds, cs ≠ '+' :: ds) :
    IsSigned base cs ↔ IsNumeral base cs := by
  constructor
  · rintro (hcs | ⟨ds, heq, -⟩)
    · exact hcs
    · exact absurd heq (h ds)
  · exact .inl

/-- Only a plus sign keeps what is read as a number from consisting of digits. -/
theorem IsSigned.isNumeral_iff (h : IsSigned base cs) :
    IsNumeral base cs ↔ cs.head? ≠ some '+' := by
  constructor
  · rintro ⟨-, hdigits⟩ hhead
    have hplus := hdigits '+' (List.mem_of_mem_head? hhead)
    rw [digit?_plus] at hplus
    cases hplus
  · intro hhead
    rcases h with h | ⟨ds, rfl, -⟩
    · exact h
    · exact absurd rfl hhead

theorem IsSigned.unsigned (hbase : 0 < base) (h : IsSigned base cs) :
    IsNumeral base (unsigned cs) := by
  rcases h with h | ⟨ds, rfl, -, hds⟩
  · rwa [unsigned_of_isNumeral h]
  · have hzero : (digit? base '0').isSome := by simp [digit?, hbase]
    exact ⟨List.cons_ne_nil _ _, List.forall_mem_cons.mpr ⟨hzero, hds⟩⟩

/-- A text is read as a number if it consists of digits, possibly after a plus sign, and denotes a
number below the limit. -/
theorem read?_eq_some_iff (hbase : 0 < base) (hlimit : 0 < limit) :
    read? base limit cs = some n ↔
      IsSigned base cs ∧ number base (unsigned cs) = n ∧ n < limit := by
  have hcontinue (ds : List Char) (hds : ds ≠ []) :
      continue? base limit 0 ds = some n ↔
        IsNumeral base ds ∧ number base ds = n ∧ n < limit := by
    rw [continue?_eq_some_iff hbase hlimit, IsNumeral, number, and_iff_right hds]
  by_cases hplus : ∃ ds, cs = '+' :: ds
  · obtain ⟨ds, rfl⟩ := hplus
    rw [isSigned_plus, unsigned, number_zero_cons hbase]
    cases ds with
    | nil => simp [read?, IsNumeral]
    | cons c ds => exact hcontinue (c :: ds) (List.cons_ne_nil c ds)
  · have hcs : ∀ ds, cs ≠ '+' :: ds := not_exists.mp hplus
    have hunsigned : unsigned cs = cs := by
      unfold unsigned
      split
      · exact absurd rfl (hcs _)
      · rfl
    rw [isSigned_of_no_plus hcs, hunsigned]
    cases cs with
    | nil => simp [read?, IsNumeral]
    | cons c cs =>
        rw [← hcontinue (c :: cs) (List.cons_ne_nil c cs), read?]
        · exact List.cons_ne_nil c cs
        · exact hcs

end Denote

theorem digit?_of_large {c : Char} (h : 0x7E < c.toNat) : digit? 16 c = none := by
  have hlarge : ∀ d : Char, d.toNat ≤ 0x7E → ¬ c ≤ d := by
    intro d hd hle
    have hle' : c.toNat ≤ d.toNat := hle
    omega
  simp [digit?, hlarge]

theorem digitChar_of_digit? {c : Char} {d : Nat} (h : digit? 16 c = some d) :
    digitChar d = c.toLower := by
  have hall : ∀ n < 0x7F, (digit? 16 (Char.ofNat n)).all
      fun d => digitChar d == (Char.ofNat n).toLower := by
    decide
  have hsmall : c.toNat < 0x7F := by
    refine Nat.lt_of_not_le fun hlarge => ?_
    rw [digit?_of_large hlarge] at h
    cases h
  have hc := hall c.toNat hsmall
  rw [Char.ofNat_toNat, h] at hc
  exact beq_iff_eq.mp hc

theorem padded_denote {cs : List Char} (h : ∀ c ∈ cs, (digit? 16 c).isSome) (width n : Nat) :
    padded 16 (width + cs.length) (denote 16 n cs) = padded 16 width n ++ cs.map Char.toLower := by
  induction cs generalizing width n with
  | nil => simp [denote]
  | cons c cs ih =>
      obtain ⟨d, hd⟩ := Option.isSome_iff_exists.mp (h c List.mem_cons_self)
      have hlt : d < 16 := digit?_lt hd
      have hquotient : (n * 16 + d) / 16 = n := by omega
      have hremainder : (n * 16 + d) % 16 = d := by omega
      have hwidth : width + (c :: cs).length = width + 1 + cs.length := by
        rw [List.length_cons]
        omega
      rw [denote, hd, Option.getD_some, hwidth,
        ih (fun c hc => h c (List.mem_cons_of_mem _ hc)), padded, hquotient, hremainder,
        digitChar_of_digit? hd, List.append_assoc, List.singleton_append, List.map_cons]

/-- The number of a text with hexadecimal digits is written with the same digits. -/
theorem padded_number {cs : List Char} (h : ∀ c ∈ cs, (digit? 16 c).isSome) :
    padded 16 cs.length (number 16 cs) = cs.map Char.toLower := by
  simpa [number, padded] using padded_denote h 0 0

end IntentProvider.Text.Radix
