import IntentProvider.Json.Tree

/-!
Numbers and strings are read back from their texts: an integer from its digits, and a string from
its characters with those escaped that have to be.
-/

namespace IntentProvider.Json

open IntentProvider.Text

namespace Tree

/-! Numbers. -/

theorem digit?_of_isDigit {c : Char} (h : c.isDigit) : digit? (.char c) = some (c.toNat - 48) := by
  rw [Char.isDigit, Bool.and_eq_true, decide_eq_true_eq, decide_eq_true_eq] at h
  have hle : '0' ≤ c := h.1
  have hge : c ≤ '9' := h.2
  simp [digit?, hle, hge]

theorem takeDigits_ofChars {ds : List Char} (hds : ∀ c ∈ ds, c.isDigit) (done : List Nat) :
    takeDigits done (Glyph.ofChars ds) = (done.reverse ++ ds.map fun c => c.toNat - 48, []) := by
  induction ds generalizing done with
  | nil => simp [Glyph.ofChars, takeDigits]
  | cons c ds ih =>
      have hc := digit?_of_isDigit (hds c List.mem_cons_self)
      have hrest := ih (fun d hd => hds d (List.mem_cons_of_mem _ hd)) ((c.toNat - 48) :: done)
      simp only [Glyph.ofChars, List.map_cons] at hrest ⊢
      rw [takeDigits, hc]
      simp [hrest]

theorem foldl_digits (ds : List Char) :
    (ds.map fun c => c.toNat - 48).foldl (fun n d => n * 10 + d) 0 = Nat.ofDigitChars 10 ds 0 := by
  rw [List.foldl_map, Nat.ofDigitChars]
  simp [Nat.mul_comm]

theorem head?_toDigits {n : Nat} (hn : n ≠ 0) : (Nat.toDigits 10 n).head? ≠ some '0' := by
  have hdigit : ∀ m < 10, m ≠ 0 → Nat.digitChar m ≠ '0' := by decide
  induction n using Nat.strongRecOn with
  | ind n ih =>
      rw [Nat.toDigits_eq_if (by decide)]
      split
      · rename_i hlt
        simpa using hdigit n hlt hn
      · rename_i hge
        have hfirst := ih (n / 10) (by omega) (by omega)
        cases hds : Nat.toDigits 10 (n / 10) with
        | nil => exact absurd hds Nat.toDigits_ne_nil
        | cons c cs =>
            rw [hds] at hfirst
            simpa using hfirst

/-- The values of the digits of a number. -/
def digitValues (n : Nat) : List Nat :=
  (Nat.toDigits 10 n).map fun c => c.toNat - 48

theorem head?_digitValues {n : Nat} (hn : n ≠ 0) : (digitValues n).head? ≠ some 0 := by
  intro hzero
  rw [digitValues, List.head?_map, Option.map_eq_some_iff] at hzero
  obtain ⟨c, hc, hvalue⟩ := hzero
  have hdigit : c.isDigit :=
    Nat.isDigit_of_mem_toDigits (by decide) (by decide) (List.mem_of_head? hc)
  rw [Char.isDigit, Bool.and_eq_true, decide_eq_true_eq, decide_eq_true_eq] at hdigit
  have hle : 48 ≤ c.toNat := hdigit.1
  have hc0 : c.toNat = '0'.toNat := by
    change c.toNat = 48
    omega
  exact head?_toDigits hn (hc.trans (congrArg some (Char.toNat_inj.mp hc0)))

theorem whole?_toDigits (n : Nat) :
    whole? (Glyph.ofChars (Nat.toDigits 10 n)) = some (digitValues n, []) := by
  have hdigits : ∀ c ∈ Nat.toDigits 10 n, c.isDigit := fun c hc =>
    Nat.isDigit_of_mem_toDigits (by decide) (by decide) hc
  have hsome : someDigits? (Glyph.ofChars (Nat.toDigits 10 n)) = some (digitValues n, []) := by
    rw [someDigits?, takeDigits_ofChars hdigits []]
    simp [digitValues]
  rw [whole?, hsome, Option.bind_eq_bind, Option.bind_some]
  dsimp only
  rw [if_neg]
  rw [Bool.and_eq_true, beq_iff_eq, decide_eq_true_eq]
  rintro ⟨hhead, hlength⟩
  by_cases hn : n = 0
  · subst hn
    simp [digitValues] at hlength
  · exact head?_digitValues hn hhead

theorem unsignedNumber?_toDigits (negative : Bool) (n : Nat) :
    unsignedNumber? negative (Glyph.ofChars (Nat.toDigits 10 n)) =
      some (number (Number.Literal.number? ⟨negative, digitValues n, none, none⟩), []) := by
  rw [unsignedNumber?, whole?_toDigits]
  rfl

theorem foldl_digitValues (n : Nat) : (digitValues n).foldl (fun n d => n * 10 + d) 0 = n := by
  rw [digitValues, foldl_digits, Nat.ofDigitChars_ten_toDigits]

theorem number?_of_nonneg {n : Nat} (h : FitsWord n) :
    Number.Literal.number? ⟨false, digitValues n, none, none⟩ = some (.int n h) := by
  have hint : Number.Literal.toInt? ⟨false, digitValues n, none, none⟩ = some (n : Int) := by
    simp [Number.Literal.toInt?, foldl_digitValues]
  simp [Number.Literal.number?, hint, h]

theorem number?_of_neg {n : Nat} (hn : n ≠ 0) (h : FitsWord (-n)) :
    Number.Literal.number? ⟨true, digitValues n, none, none⟩ = some (.int (-n) h) := by
  have hint : Number.Literal.toInt? ⟨true, digitValues n, none, none⟩ = some (-n : Int) := by
    simp [Number.Literal.toInt?, foldl_digitValues, hn]
  simp [Number.Literal.number?, hint, h]

theorem render_minusZero : Number.render (.real 0x8000000000000000) = ['-', '0', '.', '0'] := by
  decide

theorem unsignedNumber?_minusZero :
    unsignedNumber? true (Glyph.ofChars ['0', '.', '0']) =
      some (number (some (.real 0x8000000000000000)), []) := by
  have hnumber : Number.Literal.number? ⟨true, [0], some [0], none⟩ =
      some (.real 0x8000000000000000) := by
    decide
  rw [← hnumber]
  rfl

theorem read?_of_isDigit {c : Char} (h : c.isDigit) (fuel : Nat) (gs : List Glyph) :
    read? (fuel + 1) (.char c :: gs) = unsignedNumber? false (.char c :: gs) := by
  rw [read?]
  all_goals
    rintro rest ⟨⟩
    exact absurd h (by decide)

/-- An integer is read from its digits. -/
theorem read?_renderInt (value : Int) (fits : FitsWord value) :
    read? 1 (Glyph.ofChars (Number.renderInt value)) =
      some (number (some (.int value fits)), []) := by
  rw [Number.renderInt]
  split
  · rename_i hneg
    obtain ⟨n, rfl⟩ : ∃ n : Nat, value = -n := ⟨value.natAbs, by omega⟩
    have hn : n ≠ 0 := by omega
    have hread := unsignedNumber?_toDigits true n
    rw [number?_of_neg hn fits] at hread
    rw [Int.natAbs_neg, Int.natAbs_natCast]
    exact hread
  · rename_i hpos
    obtain ⟨n, rfl⟩ : ∃ n : Nat, value = n := ⟨value.natAbs, by omega⟩
    have hread := unsignedNumber?_toDigits false n
    rw [number?_of_nonneg fits] at hread
    rw [Int.natAbs_natCast, Decimal.digitsOf]
    cases hds : Nat.toDigits 10 n with
    | nil => exact absurd hds Nat.toDigits_ne_nil
    | cons c cs =>
        have hc : c.isDigit :=
          Nat.isDigit_of_mem_toDigits (by decide) (by decide) (hds ▸ List.mem_cons_self)
        rw [hds] at hread
        exact (read?_of_isDigit hc 0 (Glyph.ofChars cs)).trans hread

/-! Strings. -/

theorem ofChars_append (cs ds : List Char) :
    Glyph.ofChars (cs ++ ds) = Glyph.ofChars cs ++ Glyph.ofChars ds :=
  List.map_append

theorem ofChars_cons (c : Char) (cs : List Char) :
    Glyph.ofChars (c :: cs) = .char c :: Glyph.ofChars cs :=
  List.map_cons

theorem hex?_hexDigit : ∀ n < 16, hex? (.char (Value.hexDigit n)) = some n := by
  decide

theorem string?_control {c : Char} (hc : c.toNat < 32) (p : Draft) (hp : p.waiting = none)
    (rest : List Glyph) :
    string? p (Glyph.ofChars ['\\', 'u', '0', '0', Value.hexDigit (c.toNat / 16),
      Value.hexDigit (c.toNat % 16)] ++ rest) = string? (p.push c) rest := by
  have hunit : unit? (.char '0') (.char '0') (.char (Value.hexDigit (c.toNat / 16)))
      (.char (Value.hexDigit (c.toNat % 16))) = some c.toNat := by
    have hzero : hex? (.char '0') = some 0 := by decide
    rw [unit?, hzero, hex?_hexDigit _ (by omega), hex?_hexDigit _ (by omega)]
    simp only [Option.bind_eq_bind, Option.bind_some, Option.some.injEq]
    omega
  have hpush : p.pushUnit c.toNat = p.push c := by
    rw [Draft.pushUnit, Draft.push, hp]
    simp only [Option.isSome_none, Bool.false_eq_true, if_false]
    rw [if_neg (by simp; omega), if_neg (by simp; omega), Char.ofNat_toNat]
  simp only [Glyph.ofChars, List.map_cons, List.map_nil, List.cons_append, List.nil_append]
  rw [string?, hunit, ← hpush]

theorem string?_plain {c : Char} (hquote : c ≠ '"') (hback : c ≠ '\\') (hc : 32 ≤ c.toNat)
    (p : Draft) (rest : List Glyph) :
    string? p (.char c :: rest) = string? (p.push c) rest := by
  rw [string?]
  · rw [if_neg]
    simp [hback]
    omega
  all_goals simp [hquote, hback]

/-- A control character is written with a letter of its own or by its number. -/
theorem escape_control : ∀ n < 32,
    Value.escape (Char.ofNat n) =
        ['\\', 'u', '0', '0', Value.hexDigit (n / 16), Value.hexDigit (n % 16)] ∨
      ['b', 't', 'n', 'f', 'r'].any (fun letter => Value.escape (Char.ofNat n) == ['\\', letter] &&
        escaped? letter == some (Char.ofNat n)) := by
  decide

theorem string?_letter {letter c : Char} (h : letter ∈ ['b', 't', 'n', 'f', 'r'])
    (hc : escaped? letter = some c) (p : Draft) (rest : List Glyph) :
    string? p (Glyph.ofChars ['\\', letter] ++ rest) = string? (p.push c) rest := by
  simp only [List.mem_cons, List.not_mem_nil, or_false] at h
  rcases h with rfl | rfl | rfl | rfl | rfl
  all_goals
    cases hc
    rfl

theorem string?_escape (c : Char) (p : Draft) (hp : p.waiting = none) (rest : List Glyph) :
    string? p (Glyph.ofChars (Value.escape c) ++ rest) = string? (p.push c) rest := by
  by_cases hquote : c = '"'
  · subst hquote
    rfl
  · by_cases hback : c = '\\'
    · subst hback
      rfl
    · by_cases hsmall : c.toNat < 32
      · have hcontrol := escape_control c.toNat hsmall
        rw [Char.ofNat_toNat] at hcontrol
        rcases hcontrol with hnumber | hletters
        · rw [hnumber]
          exact string?_control hsmall p hp rest
        · obtain ⟨letter, hletter, heq⟩ := List.any_eq_true.mp hletters
          rw [Bool.and_eq_true, beq_iff_eq, beq_iff_eq] at heq
          obtain ⟨hescape, hc⟩ := heq
          rw [hescape]
          exact string?_letter hletter hc p rest
      · have hlarge : 32 ≤ c.toNat := Nat.le_of_not_lt hsmall
        have hescape : Value.escape c = [c] := by
          rw [Value.escape, if_neg hquote, if_neg hback, if_pos hlarge]
        rw [hescape]
        exact string?_plain hquote hback hlarge p rest

theorem string?_flatMap_escape (cs done : List Char) (rest : List Glyph) :
    string? ⟨some done, none⟩ (Glyph.ofChars (cs.flatMap Value.escape ++ ['"']) ++ rest) =
      some (some (String.ofList (done.reverse ++ cs)), rest) := by
  induction cs generalizing done with
  | nil =>
      rw [List.append_nil]
      rfl
  | cons c cs ih =>
      rw [List.flatMap_cons, List.append_assoc, ofChars_append, List.append_assoc,
        string?_escape c _ rfl]
      have hpush : Draft.push ⟨some done, none⟩ c = ⟨some (c :: done), none⟩ := rfl
      rw [hpush, ih, List.reverse_cons, List.append_assoc, List.singleton_append]

/-- The text of a string is read up to its closing quotation mark. -/
theorem string?_quote (s : String) (rest : List Glyph) :
    ∃ gs, Glyph.ofChars (Value.quote s) ++ rest = .char '"' :: gs ∧
      string? .start gs = some (some s, rest) := by
  refine ⟨Glyph.ofChars (s.toList.flatMap Value.escape ++ ['"']) ++ rest, rfl, ?_⟩
  have hread := string?_flatMap_escape s.toList [] rest
  rwa [List.reverse_nil, List.nil_append, String.ofList_toList] at hread

end Tree

end IntentProvider.Json
