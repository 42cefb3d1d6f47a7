import IntentProvider.Proofs.Text.Radix

/-!
Decimal numerals. Those of a positive number are its digits after any number of zeros, so however long
a numeral is, it is its number that counts.
-/

namespace IntentProvider.Text.Radix

theorem digit?_ten (c : Char) :
    digit? 10 c = if c.isDigit then some (c.toNat - '0'.toNat) else none := by
  have hdigit : ('0' ≤ c && c ≤ '9') = c.isDigit := rfl
  rw [digit?, hdigit]
  split
  · rename_i h
    have hc := Char.isDigit_iff_toNat.mp h
    have hlt : c.toNat - '0'.toNat < 10 := by
      simp only [Char.reduceToNat] at hc ⊢
      omega
    exact Option.filter_eq_some_iff.mpr ⟨rfl, decide_eq_true hlt⟩
  · split
    · simp
    · split <;> simp

theorem isNumeral_ten_iff {cs : List Char} :
    IsNumeral 10 cs ↔ cs ≠ [] ∧ ∀ c ∈ cs, c.isDigit := by
  simp [IsNumeral, digit?_ten]

theorem denote_ten {n : Nat} {cs : List Char} (h : ∀ c ∈ cs, c.isDigit) :
    denote 10 n cs = Nat.ofDigitChars 10 cs n := by
  induction cs generalizing n with
  | nil => simp [denote]
  | cons c cs ih =>
      have hc : c.isDigit := h c List.mem_cons_self
      rw [denote, digit?_ten, if_pos hc, Option.getD_some, Nat.ofDigitChars_cons, Nat.mul_comm]
      exact ih fun d hd => h d (List.mem_cons_of_mem c hd)

theorem exists_digitChar {c : Char} (h : c.isDigit) :
    ∃ d < 10, c = d.digitChar := by
  have hc := Char.isDigit_iff_toNat.mp h
  simp only [Char.reduceToNat] at hc
  refine ⟨c.toNat - 48, by omega, Char.toNat_inj.mp ?_⟩
  rw [Nat.toNat_digitChar_of_lt_ten (by omega)]
  omega

/-- Digits after those of a positive number are the last digits of a larger one. -/
theorem toDigits_append {n : Nat} {cs : List Char} (hn : 0 < n) (h : ∀ c ∈ cs, c.isDigit) :
    Nat.toDigits 10 n ++ cs = Nat.toDigits 10 (Nat.ofDigitChars 10 cs n) := by
  induction cs generalizing n with
  | nil => simp
  | cons c cs ih =>
      obtain ⟨d, hd, rfl⟩ := exists_digitChar (h c List.mem_cons_self)
      have hmore := Nat.toDigits_append_toDigits (b := 10) (by decide) hn hd
      rw [Nat.toDigits_of_lt_base hd] at hmore
      rw [Nat.ofDigitChars_cons_digitChar_of_lt_ten hd,
        ← ih (by omega) fun c hc => h c (List.mem_cons_of_mem _ hc), ← hmore,
        List.append_assoc, List.singleton_append]

theorem exists_zeros_append {n : Nat} {cs : List Char} (h : ∀ c ∈ cs, c.isDigit) (hn : 0 < n)
    (hcs : Nat.ofDigitChars 10 cs 0 = n) :
    ∃ zeros, cs = List.replicate zeros '0' ++ Nat.toDigits 10 n := by
  induction cs with
  | nil =>
      simp at hcs
      omega
  | cons c cs ih =>
      have hdigits : ∀ c ∈ cs, c.isDigit := fun d hd => h d (List.mem_cons_of_mem c hd)
      obtain ⟨d, hd, rfl⟩ := exists_digitChar (h c List.mem_cons_self)
      rw [Nat.ofDigitChars_cons_digitChar_of_lt_ten hd, Nat.mul_zero, Nat.zero_add] at hcs
      rcases Nat.eq_zero_or_pos d with rfl | hpos
      · obtain ⟨zeros, rfl⟩ := ih hdigits hcs
        exact ⟨zeros + 1, by rw [List.replicate_succ]; rfl⟩
      · refine ⟨0, ?_⟩
        rw [← hcs, ← toDigits_append hpos hdigits, Nat.toDigits_of_lt_base hd]
        rfl

/-- The numerals of a positive number are its digits after any number of zeros. -/
theorem isNumeral_and_number_eq_iff {n : Nat} {cs : List Char} (hn : 0 < n) :
    IsNumeral 10 cs ∧ number 10 cs = n ↔
      ∃ zeros, cs = List.replicate zeros '0' ++ Nat.toDigits 10 n := by
  rw [isNumeral_ten_iff, number]
  constructor
  · rintro ⟨⟨-, hdigits⟩, hnumber⟩
    rw [denote_ten hdigits] at hnumber
    exact exists_zeros_append hdigits hn hnumber
  · rintro ⟨zeros, rfl⟩
    have hdigits : ∀ c ∈ List.replicate zeros '0' ++ Nat.toDigits 10 n, c.isDigit := by
      intro c hc
      rcases List.mem_append.mp hc with hc | hc
      · rw [List.eq_of_mem_replicate hc]
        rfl
      · exact Nat.isDigit_of_mem_toDigits (by decide) (by decide) hc
    refine ⟨⟨by simp, hdigits⟩, ?_⟩
    rw [denote_ten hdigits, Nat.ofDigitChars_append, Nat.ofDigitChars_replicate_zero, Nat.mul_zero,
      Nat.ofDigitChars_ten_toDigits]

/-- A text stands for a number: perhaps a plus sign, any number of zeros, and the digits of the
number. -/
def StandsFor (cs : List Char) (n : Nat) : Prop :=
  ∃ sign zeros, (sign = [] ∨ sign = ['+']) ∧
    cs = sign ++ List.replicate zeros '0' ++ Nat.toDigits 10 n

theorem isSigned_and_number_eq_iff {n : Nat} {cs : List Char} (hn : 0 < n) :
    IsSigned 10 cs ∧ number 10 (unsigned cs) = n ↔ StandsFor cs n := by
  have hplus (ds : List Char) : number 10 (unsigned ('+' :: ds)) = number 10 ds :=
    number_zero_cons (by decide) ds
  constructor
  · rintro ⟨h | ⟨ds, rfl, h⟩, hnumber⟩
    · rw [unsigned_of_isNumeral h] at hnumber
      obtain ⟨zeros, rfl⟩ := (isNumeral_and_number_eq_iff hn).mp ⟨h, hnumber⟩
      exact ⟨[], zeros, .inl rfl, rfl⟩
    · rw [hplus] at hnumber
      obtain ⟨zeros, rfl⟩ := (isNumeral_and_number_eq_iff hn).mp ⟨h, hnumber⟩
      exact ⟨['+'], zeros, .inr rfl, rfl⟩
  · rintro ⟨sign, zeros, rfl | rfl, rfl⟩
    · obtain ⟨h, hnumber⟩ := (isNumeral_and_number_eq_iff hn).mpr ⟨zeros, rfl⟩
      rw [List.nil_append, unsigned_of_isNumeral h]
      exact ⟨.inl h, hnumber⟩
    · obtain ⟨h, hnumber⟩ := (isNumeral_and_number_eq_iff hn).mpr ⟨zeros, rfl⟩
      rw [List.append_assoc, List.singleton_append, hplus]
      exact ⟨.inr ⟨_, rfl, h⟩, hnumber⟩

theorem StandsFor.unique {m n : Nat} {cs : List Char} (hm : 0 < m) (hn : 0 < n)
    (h : StandsFor cs m) (h' : StandsFor cs n) : m = n :=
  ((isSigned_and_number_eq_iff hm).mpr h).2.symm.trans ((isSigned_and_number_eq_iff hn).mpr h').2

end IntentProvider.Text.Radix
