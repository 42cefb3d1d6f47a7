import IntentProvider.Time.Rfc3339

/-!
The canonical text of an instant is read as this instant.
-/

namespace IntentProvider.Time.Rfc3339

open IntentProvider.Text

/-! Numbers. -/

theorem digit?_of_isDigit {c : Char} (h : c.isDigit) : digit? c = some (c.toNat - 48) := by
  rw [Char.isDigit, Bool.and_eq_true, decide_eq_true_eq, decide_eq_true_eq] at h
  have hle : '0' ≤ c := h.1
  have hge : c ≤ '9' := h.2
  have hgreatest : c.toNat ≤ 57 := h.2
  simp [digit?, Radix.digit?, hle, hge]
  omega

theorem isBlank_of_isDigit {c : Char} (h : c.isDigit) : isBlank c = false := by
  rw [Char.isDigit, Bool.and_eq_true, decide_eq_true_eq, decide_eq_true_eq] at h
  have hle : 48 ≤ c.toNat := h.1
  have hge : c.toNat ≤ 57 := h.2
  simp [isBlank]
  omega

theorem trimStart_cons {c : Char} (h : isBlank c = false) (cs : List Char) :
    trimStart (c :: cs) = c :: cs := by
  rw [trimStart, List.dropWhile_cons_of_neg (by simp [h])]

theorem moreDigits_append {ds rest : List Char} (hds : ∀ c ∈ ds, c.isDigit) {most : Nat}
    (hmost : ds.length ≤ most)
    (hrest : ds.length = most ∨ ∀ c ∈ rest.head?, digit? c = none) (n count : Nat) :
    moreDigits n count most (ds ++ rest) =
      (Nat.ofDigitChars 10 ds n, count + ds.length, rest) := by
  induction ds generalizing most n count with
  | nil =>
      cases most with
      | zero => simp [moreDigits]
      | succ most =>
          have hstop := hrest.resolve_left (by simp)
          cases rest with
          | nil => simp [moreDigits]
          | cons c rest => simp [moreDigits, hstop c rfl]
  | cons c ds ih =>
      rw [List.length_cons] at hmost hrest
      obtain ⟨most, rfl⟩ : ∃ m, most = m + 1 := ⟨most - 1, by omega⟩
      rw [List.cons_append, moreDigits, digit?_of_isDigit (hds c List.mem_cons_self)]
      dsimp only
      rw [ih (fun d hd => hds d (List.mem_cons_of_mem _ hd)) (by omega)
        (hrest.imp_left (by omega)), Nat.ofDigitChars_cons, List.length_cons, Nat.mul_comm n]
      congr 2
      omega

theorem isDigit_of_mem_pad {width n : Nat} {c : Char} (h : c ∈ pad width n) : c.isDigit := by
  rcases List.mem_append.mp h with h | h
  · rw [List.eq_of_mem_replicate h]
    decide
  · exact Nat.isDigit_of_mem_toDigits (by decide) (by decide) h

theorem length_pad {width n : Nat} (hwidth : 0 < width) (h : n < Nat.pow 10 width) :
    (pad width n).length = width := by
  have hle := (Nat.length_toDigits_le_iff (by decide) hwidth).mpr h
  rw [pad, List.length_append, List.length_replicate]
  omega

theorem length_pad_pos (width n : Nat) : 0 < (pad width n).length := by
  have hpos : 0 < (Nat.toDigits 10 n).length := Nat.length_toDigits_pos
  rw [pad, List.length_append]
  omega

theorem ofDigitChars_pad (width n : Nat) : Nat.ofDigitChars 10 (pad width n) 0 = n := by
  rw [pad, Nat.ofDigitChars_append, Nat.ofDigitChars_replicate_zero, Nat.mul_zero,
    Nat.ofDigitChars_ten_toDigits]

theorem digits?_pad {width n most : Nat} {rest : List Char} (hmost : (pad width n).length ≤ most)
    (hrest : (pad width n).length = most ∨ ∀ c ∈ rest.head?, digit? c = none) :
    digits? most (pad width n ++ rest) = some (n, (pad width n).length, rest) := by
  have hpos := length_pad_pos width n
  rw [digits?, moreDigits_append (fun c hc => isDigit_of_mem_pad hc) hmost hrest,
    ofDigitChars_pad, Nat.zero_add]
  dsimp only
  rw [if_neg (by omega)]

theorem exists_pad_eq_cons (width n : Nat) : ∃ c cs, pad width n = c :: cs ∧ c.isDigit := by
  have hpos := length_pad_pos width n
  cases hpad : pad width n with
  | nil =>
      rw [hpad] at hpos
      exact absurd hpos (by decide)
  | cons c cs => exact ⟨c, cs, rfl, isDigit_of_mem_pad (hpad ▸ List.mem_cons_self)⟩

theorem trimStart_pad (width n : Nat) (rest : List Char) :
    trimStart (pad width n ++ rest) = pad width n ++ rest := by
  obtain ⟨c, cs, hpad, hc⟩ := exists_pad_eq_cons width n
  rw [hpad]
  exact trimStart_cons (isBlank_of_isDigit hc) (cs ++ rest)

/-! The parts of an instant. -/

theorem bounded?_pad {least greatest n : Nat} (hleast : least ≤ n) (hgreatest : n ≤ greatest)
    (h : n < 100) (rest : List Char) :
    bounded? least greatest (pad 2 n ++ rest) = some (n, rest) := by
  have hlength : (pad 2 n).length = 2 := length_pad (by decide) h
  rw [bounded?, trimStart_pad, digits?_pad (by omega) (.inl hlength), Option.bind_eq_bind,
    Option.bind_some]
  simp [hleast, hgreatest]

theorem mark?_cons {c : Char} (h : isBlank c = false) (rest : List Char) :
    mark? c (c :: rest) = some rest := by
  rw [mark?, trimStart_cons h]
  simp

theorem year?_of_isDigit {c : Char} (h : c.isDigit) (cs : List Char) :
    year? (c :: cs) = (digits? 4 (c :: cs)).map fun (n, _, rest) => ((n : Int), rest) := by
  rw [year?, trimStart_cons (isBlank_of_isDigit h)]
  split
  · rename_i heq
    cases heq
    exact absurd h (by decide)
  · rename_i heq
    cases heq
    exact absurd h (by decide)
  · rfl

theorem year?_minus (cs : List Char) :
    year? ('-' :: cs) = (digits? cs.length cs).map fun (n, _, rest) => (-(n : Int), rest) := by
  rw [year?, trimStart_cons (by decide)]
  rfl

theorem year?_plus (cs : List Char) :
    year? ('+' :: cs) = (digits? cs.length cs).map fun (n, _, rest) => ((n : Int), rest) := by
  rw [year?, trimStart_cons (by decide)]
  rfl

theorem year?_renderYear (year : Int) (rest : List Char) :
    year? (renderYear year ++ '-' :: rest) = some (year, '-' :: rest) := by
  have hstop : ∀ c ∈ ('-' :: rest).head?, digit? c = none := by
    rintro c ⟨⟩
    decide
  have hsigned : digits? (pad 4 year.natAbs ++ '-' :: rest).length
      (pad 4 year.natAbs ++ '-' :: rest) =
        some (year.natAbs, (pad 4 year.natAbs).length, '-' :: rest) :=
    digits?_pad (by rw [List.length_append]; omega) (.inr hstop)
  unfold renderYear
  split
  · rename_i hyear
    obtain ⟨c, cs, hpad, hc⟩ := exists_pad_eq_cons 4 year.natAbs
    have hyears : year.natAbs < Nat.pow 10 4 := by
      rw [Nat.pow_eq]
      omega
    have hlength : (pad 4 year.natAbs).length = 4 := length_pad (by decide) hyears
    have hdigits : digits? 4 (pad 4 year.natAbs ++ '-' :: rest) =
        some (year.natAbs, (pad 4 year.natAbs).length, '-' :: rest) :=
      digits?_pad (by omega) (.inl hlength)
    rw [hpad, List.cons_append] at hdigits ⊢
    rw [year?_of_isDigit hc, hdigits]
    simp only [Option.map_some, Option.some.injEq, Prod.mk.injEq, and_true]
    omega
  · split
    · rename_i hneg
      rw [List.cons_append, year?_minus, hsigned]
      simp only [Option.map_some, Option.some.injEq, Prod.mk.injEq, and_true]
      omega
    · rename_i hneg
      rw [List.cons_append, year?_plus, hsigned]
      simp only [Option.map_some, Option.some.injEq, Prod.mk.injEq, and_true]
      omega

theorem fraction?_pad {width n : Nat} (hwidth : 0 < width) (hmost : width ≤ 9)
    (h : n < Nat.pow 10 width) :
    fraction? ('.' :: pad width n ++ ['Z']) = some (n * Nat.pow 10 (9 - width), ['Z']) := by
  have hlength := length_pad hwidth h
  have hstop : ∀ c ∈ ['Z'].head?, digit? c = none := by
    rintro c ⟨⟩
    decide
  rw [List.cons_append, fraction?, digits?_pad (by omega) (.inr hstop), Option.bind_eq_bind,
    Option.bind_some, hlength]
  rfl

theorem fraction?_renderFraction {nano : Nat} (h : nano < 1000000000) :
    fraction? (renderFraction nano ++ ['Z']) = some (nano, ['Z']) := by
  unfold renderFraction
  split
  · rename_i hzero
    rw [hzero]
    rfl
  · split
    · rw [fraction?_pad (by decide) (by decide) (by rw [Nat.pow_eq]; omega), Nat.pow_eq]
      congr 2
      omega
    · split
      · rw [fraction?_pad (by decide) (by decide) (by rw [Nat.pow_eq]; omega), Nat.pow_eq]
        congr 2
        omega
      · rw [fraction?_pad (by decide) (by decide) (by rw [Nat.pow_eq]; omega), Nat.pow_eq]
        congr 2
        omega

theorem offset?_zulu : offset? ['Z'] = some (0, []) := by
  decide

theorem daysIn_le (year : Int) (month : Nat) : daysIn year month ≤ 31 := by
  unfold daysIn
  split
  · split <;> decide
  · split <;> decide

/-- Clocks of universal time show the parts of an instant. -/
theorem ofLocal?_parts (t : Instant) : Instant.ofLocal? t.date t.second t.nano 0 = some t := by
  have hlt := t.second_lt
  have hparts : Instant.ofParts? t.date t.second t.nano = some t :=
    dif_pos ⟨t.dateValid, t.second_lt, t.nano_lt, t.leap⟩
  rw [Instant.ofLocal?, if_neg, if_neg (by omega), if_pos (by omega), Int.sub_zero,
    Int.toNat_natCast, hparts]
  rintro (hdate | hlow | hhigh)
  · exact hdate t.dateValid
  · omega
  · omega

theorem separator?_cons (rest : List Char) : separator? ('T' :: rest) = some rest :=
  rfl

/-- The time that is written for an instant: in a leap second the sixtieth one, with what its
nanoseconds have beyond one thousand million. -/
theorem exists_time (t : Instant) :
    ∃ second nano, second ≤ 60 ∧ nano < 1000000000 ∧
      t.second / 3600 * 3600 + t.second / 60 % 60 * 60 +
        (if second == 60 then 59 else second) = t.second ∧
      (if second == 60 then nano + 1000000000 else nano) = t.nano ∧
      render t = renderYear t.date.year ++ '-' :: (pad 2 t.date.month ++ '-' ::
        (pad 2 t.date.day ++ 'T' :: (pad 2 (t.second / 3600) ++ ':' ::
          (pad 2 (t.second / 60 % 60) ++ ':' :: (pad 2 second ++
            (renderFraction nano ++ ['Z'])))))) := by
  have hnano := t.nano_lt
  by_cases hleap : 1000000000 ≤ t.nano
  · have hlast := t.leap hleap
    refine ⟨60, t.nano - 1000000000, by omega, by omega, ?_, ?_, ?_⟩
    · rw [if_pos (by decide)]
      omega
    · rw [if_pos (by decide)]
      omega
    · simp [render, hleap, hlast]
  · have hne : ¬ (t.second % 60 == 60) = true := by
      rw [beq_iff_eq]
      omega
    refine ⟨t.second % 60, t.nano, by omega, by omega, ?_, if_neg hne, ?_⟩
    · rw [if_neg hne]
      omega
    · simp [render, hleap]

/-- The canonical text of an instant is read as this instant. -/
theorem read?_render (t : Instant) : read? (render t) = some t := by
  obtain ⟨-, -, hmonth, hmonth', hday, hday'⟩ := t.dateValid
  have hday31 := daysIn_le t.date.year t.date.month
  have hlt := t.second_lt
  have hminus : isBlank '-' = false := by decide
  have hcolon : isBlank ':' = false := by decide
  obtain ⟨second, nano, hsecond, hfraction, htime, hnano, hshape⟩ := exists_time t
  simp only [hshape, read?, Option.bind_eq_bind]
  rw [year?_renderYear, Option.bind_some, mark?_cons hminus, Option.bind_some,
    bounded?_pad hmonth hmonth' (by omega), Option.bind_some, mark?_cons hminus, Option.bind_some,
    bounded?_pad hday (by omega : t.date.day ≤ 31) (by omega), Option.bind_some,
    separator?_cons, Option.bind_some,
    bounded?_pad (Nat.zero_le _) (by omega : t.second / 3600 ≤ 23) (by omega), Option.bind_some,
    mark?_cons hcolon, Option.bind_some,
    bounded?_pad (Nat.zero_le _) (by omega : t.second / 60 % 60 ≤ 59) (by omega), Option.bind_some,
    mark?_cons hcolon, Option.bind_some,
    bounded?_pad (Nat.zero_le _) hsecond (by omega), Option.bind_some,
    fraction?_renderFraction hfraction, Option.bind_some, offset?_zulu, Option.bind_some,
    if_pos (by decide), htime, hnano]
  exact ofLocal?_parts t

end IntentProvider.Time.Rfc3339
