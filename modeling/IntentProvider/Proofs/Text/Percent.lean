import IntentProvider.Proofs.Text.Radix
import IntentProvider.Text.Percent

/-!
Percent-encoding loses nothing: what is encoded decodes as if it had not been encoded. Decoding a
text that was not encoded gives its UTF-8 form, unless the text has an escape; and then it gives
fewer bytes.
-/

namespace IntentProvider.Text.Percent

/-- The UTF-8 form of a text. -/
def utf8 (cs : List Char) : List UInt8 :=
  cs.flatMap String.utf8EncodeChar

theorem utf8_cons (c : Char) (cs : List Char) :
    utf8 (c :: cs) = String.utf8EncodeChar c ++ utf8 cs :=
  List.flatMap_cons

theorem utf8_append (cs ds : List Char) : utf8 (cs ++ ds) = utf8 cs ++ utf8 ds :=
  List.flatMap_append

theorem utf8_inj {cs ds : List Char} (h : utf8 cs = utf8 ds) : cs = ds := by
  have hbytes : cs.utf8Encode = ds.utf8Encode := congrArg List.toByteArray h
  have htext : String.ofList cs = String.ofList ds := String.toByteArray_inj.mp hbytes
  simpa using congrArg String.toList htext

theorem length_le_length_utf8 (cs : List Char) : cs.length ≤ (utf8 cs).length := by
  induction cs with
  | nil => exact Nat.le_refl _
  | cons c cs ih =>
      have hc : 0 < (String.utf8EncodeChar c).length := by
        rw [String.length_utf8EncodeChar]
        exact c.utf8Size_pos
      rw [utf8_cons, List.length_append, List.length_cons]
      omega

/-- The byte that a percent sign stands for together with the two digits after it, and what follows
these. -/
def escape? : List Char → Option (UInt8 × List Char)
  | a :: b :: rest => do
    let x ← Radix.digit? 16 a
    let y ← Radix.digit? 16 b
    some (UInt8.ofNat (x * 16 + y), rest)
  | _ => none

/-- Whether there is a percent sign with two digits after it in a text. -/
def hasEscape : List Char → Bool
  | [] => false
  | c :: cs => (c == '%' && (escape? cs).isSome) || hasEscape cs

theorem exists_of_escape? {cs rest : List Char} {b : UInt8} (h : escape? cs = some (b, rest)) :
    ∃ c d x y, cs = c :: d :: rest ∧ Radix.digit? 16 c = some x ∧ Radix.digit? 16 d = some y ∧
      b = UInt8.ofNat (x * 16 + y) := by
  match cs, h with
  | c :: d :: tail, h =>
      cases hx : Radix.digit? 16 c with
      | none => simp [escape?, hx] at h
      | some x =>
          cases hy : Radix.digit? 16 d with
          | none => simp [escape?, hx, hy] at h
          | some y =>
              simp only [escape?, hx, hy, Option.bind_eq_bind, Option.bind_some, Option.some.injEq,
                Prod.mk.injEq] at h
              obtain ⟨rfl, rfl⟩ := h
              exact ⟨c, d, x, y, rfl, hx, hy, rfl⟩

theorem decode_percent_of_some {cs rest : List Char} {b : UInt8} (h : escape? cs = some (b, rest)) :
    decode ('%' :: cs) = b :: decode rest := by
  obtain ⟨c, d, x, y, rfl, hx, hy, rfl⟩ := exists_of_escape? h
  rw [decode, hx, hy]

theorem decode_percent_of_none {cs : List Char} (h : escape? cs = none) :
    decode ('%' :: cs) = 0x25 :: decode cs := by
  match cs, h with
  | [], _ => rfl
  | [c], _ => rfl
  | c :: d :: rest, h =>
      rw [decode]
      cases hx : Radix.digit? 16 c with
      | none => rfl
      | some x =>
          cases hy : Radix.digit? 16 d with
          | none => rfl
          | some y => simp [escape?, hx, hy] at h

theorem decode_cons_of_ne {c : Char} (hc : c ≠ '%') (cs : List Char) :
    decode (c :: cs) = String.utf8EncodeChar c ++ decode cs := by
  rw [decode]
  rintro a b rest rfl
  exact absurd rfl hc

theorem decode_cases (cs : List Char) :
    (hasEscape cs = false ∧ decode cs = utf8 cs) ∨
      (hasEscape cs = true ∧ (decode cs).length < (utf8 cs).length) := by
  induction hn : cs.length using Nat.strongRecOn generalizing cs with
  | ind n ih =>
      cases cs with
      | nil => exact .inl ⟨rfl, rfl⟩
      | cons c cs =>
          by_cases hc : c = '%'
          · subst hc
            cases hescape : escape? cs with
            | none =>
                rw [decode_percent_of_none hescape]
                rcases ih cs.length (by simp [← hn]) cs rfl with ⟨hplain, hcs⟩ | ⟨hplain, hcs⟩
                · exact .inl ⟨by simp [hasEscape, hescape, hplain], by rw [hcs, utf8_cons]; rfl⟩
                · refine .inr ⟨by simp [hasEscape, hplain], ?_⟩
                  rw [utf8_cons]
                  exact Nat.succ_lt_succ hcs
            | some found =>
                obtain ⟨b, rest⟩ := found
                obtain ⟨d, e, x, y, rfl, -, -, -⟩ := exists_of_escape? hescape
                rw [decode_percent_of_some hescape]
                refine .inr ⟨by simp [hasEscape, hescape], ?_⟩
                have hrest : (decode rest).length ≤ (utf8 rest).length := by
                  rcases ih rest.length (by simp [← hn]; omega) rest rfl with ⟨-, hcs⟩ | ⟨-, hcs⟩
                  · exact Nat.le_of_eq (congrArg List.length hcs)
                  · exact Nat.le_of_lt hcs
                have hd := length_le_length_utf8 ['%', d, e]
                have happend : utf8 ('%' :: d :: e :: rest) = utf8 ['%', d, e] ++ utf8 rest :=
                  utf8_append ['%', d, e] rest
                rw [happend, List.length_append, List.length_cons]
                simp only [List.length_cons, List.length_nil] at hd
                omega
          · rw [decode_cons_of_ne hc, utf8_cons]
            rcases ih cs.length (by simp [← hn]) cs rfl with ⟨hplain, hcs⟩ | ⟨hplain, hcs⟩
            · exact .inl ⟨by simp [hasEscape, hc, hplain], by rw [hcs]⟩
            · refine .inr ⟨by simp [hasEscape, hplain], ?_⟩
              rw [List.length_append, List.length_append]
              omega

theorem digit?_digitChar : ∀ d < 16, Radix.digit? 16 (Radix.digitChar d).toUpper = some d := by
  decide

theorem decode_encodeByte (b : UInt8) (cs : List Char) :
    decode (encodeByte b ++ cs) = b :: decode cs := by
  have hb : b.toNat < 256 := b.toNat_lt
  have hescape : escape? ((Radix.padded 16 2 b.toNat).map Char.toUpper ++ cs) = some (b, cs) := by
    simp only [Radix.padded, List.nil_append, List.cons_append, List.map_cons, List.map_nil,
      escape?, digit?_digitChar _ (Nat.mod_lt _ (by decide)), Option.bind_eq_bind,
      Option.bind_some]
    have hsum : b.toNat / 16 % 16 * 16 + b.toNat % 16 = b.toNat := by omega
    rw [hsum, UInt8.ofNat_toNat]
  exact decode_percent_of_some hescape

theorem decode_encodeBytes (bs : List UInt8) (cs : List Char) :
    decode (bs.flatMap encodeByte ++ cs) = bs ++ decode cs := by
  induction bs with
  | nil => rfl
  | cons b bs ih =>
      rw [List.flatMap_cons, List.append_assoc, decode_encodeByte, ih, List.cons_append]

section Encode

variable {inSet : Char → Bool}

theorem encode_cons (c : Char) (cs : List Char) :
    encode inSet (c :: cs) = encodeChar inSet c ++ encode inSet cs :=
  List.flatMap_cons

/-- A character is left as it is, or is none of those that an escape consists of. -/
theorem encodeChar_cases (hset : ∀ c, inSet c = true → c ≠ '%' ∧ Radix.digit? 16 c = none)
    (c : Char) :
    encodeChar inSet c = [c] ∨
      c ≠ '%' ∧ Radix.digit? 16 c = none ∧
        encodeChar inSet c = (String.utf8EncodeChar c).flatMap encodeByte := by
  unfold encodeChar
  split
  · rename_i h
    right
    rcases Bool.or_eq_true_iff.mp h with hin | hlarge
    · exact ⟨(hset c hin).1, (hset c hin).2, rfl⟩
    · have hlarge : 0x7E < c.toNat := of_decide_eq_true hlarge
      refine ⟨?_, Radix.digit?_of_large hlarge, rfl⟩
      rintro rfl
      exact absurd hlarge (by decide)
  · exact .inl rfl

theorem exists_cons_flatMap_encodeByte (c : Char) (cs : List Char) :
    ∃ rest, (String.utf8EncodeChar c).flatMap encodeByte ++ cs = '%' :: rest := by
  cases hbytes : String.utf8EncodeChar c with
  | nil =>
      have hlength := String.length_utf8EncodeChar c
      rw [hbytes] at hlength
      exact absurd hlength (Nat.ne_of_lt c.utf8Size_pos)
  | cons b bs => exact ⟨_, rfl⟩

theorem escape?_of_digit?_none {c : Char} (hc : Radix.digit? 16 c = none) (cs : List Char) :
    escape? (c :: cs) = none := by
  cases cs with
  | nil => rfl
  | cons d rest => simp [escape?, hc]

theorem escape?_encode (hset : ∀ c, inSet c = true → c ≠ '%' ∧ Radix.digit? 16 c = none)
    (cs : List Char) :
    escape? (encode inSet cs) = (escape? cs).map fun found => (found.1, encode inSet found.2) := by
  match cs with
  | [] => rfl
  | c :: rest =>
      rw [encode_cons]
      rcases encodeChar_cases hset c with hplain | ⟨-, hdigit, hbytes⟩
      · rw [hplain, List.singleton_append]
        match rest with
        | [] => rfl
        | d :: rest =>
            rw [encode_cons]
            rcases encodeChar_cases hset d with hplain' | ⟨-, hdigit, hbytes⟩
            · rw [hplain', List.singleton_append]
              cases hx : Radix.digit? 16 c with
              | none => rw [escape?_of_digit?_none hx, escape?_of_digit?_none hx]; rfl
              | some x => cases hy : Radix.digit? 16 d <;> simp [escape?, hx, hy]
            · obtain ⟨tail, htail⟩ := exists_cons_flatMap_encodeByte d (encode inSet rest)
              have hpercent : Radix.digit? 16 '%' = none := by decide
              rw [hbytes, htail]
              cases hx : Radix.digit? 16 c <;> simp [escape?, hx, hdigit, hpercent]
      · obtain ⟨tail, htail⟩ := exists_cons_flatMap_encodeByte c (encode inSet rest)
        rw [hbytes, htail, escape?_of_digit?_none (by decide), escape?_of_digit?_none hdigit]
        rfl

theorem decode_encode (hset : ∀ c, inSet c = true → c ≠ '%' ∧ Radix.digit? 16 c = none)
    (cs : List Char) : decode (encode inSet cs) = decode cs := by
  induction hn : cs.length using Nat.strongRecOn generalizing cs with
  | ind n ih =>
      cases cs with
      | nil => rfl
      | cons c cs =>
          have hcs := ih cs.length (by simp [← hn]) cs rfl
          rw [encode_cons]
          rcases encodeChar_cases hset c with hplain | ⟨hc, -, hbytes⟩
          · rw [hplain, List.singleton_append]
            by_cases hc : c = '%'
            · subst hc
              have hescape := escape?_encode hset cs
              cases hfound : escape? cs with
              | none =>
                  rw [hfound] at hescape
                  rw [decode_percent_of_none hescape, decode_percent_of_none hfound, hcs]
              | some found =>
                  obtain ⟨b, rest⟩ := found
                  obtain ⟨d, e, x, y, rfl, -, -, -⟩ := exists_of_escape? hfound
                  rw [hfound] at hescape
                  rw [decode_percent_of_some hescape, decode_percent_of_some hfound,
                    ih rest.length (by simp [← hn]; omega) rest rfl]
            · rw [decode_cons_of_ne hc, decode_cons_of_ne hc, hcs]
          · rw [hbytes, decode_encodeBytes, decode_cons_of_ne hc, hcs]

theorem forall_mem_encodeByte {P : Char → Prop} (hpercent : P '%')
    (hdigit : ∀ d < 16, P (Radix.digitChar d).toUpper) (b : UInt8) : ∀ c ∈ encodeByte b, P c := by
  have hdigits : ∀ c ∈ Radix.padded 16 2 b.toNat, P c.toUpper :=
    Radix.forall_mem_padded (by decide) hdigit
  simpa [encodeByte, hpercent] using hdigits

theorem not_mem_encodeByte {c : Char} (hpercent : c ≠ '%')
    (hdigit : ∀ d < 16, c ≠ (Radix.digitChar d).toUpper) (b : UInt8) : c ∉ encodeByte b :=
  fun hmem => forall_mem_encodeByte hpercent hdigit b c hmem rfl

theorem mem_encode {c : Char} {cs : List Char} (h : c ∈ encode inSet cs) :
    (c ∈ cs ∧ inSet c = false ∧ c.toNat ≤ 0x7E) ∨ ∃ b, c ∈ encodeByte b := by
  obtain ⟨d, hd, hc⟩ := List.mem_flatMap.mp h
  unfold encodeChar at hc
  split at hc
  · obtain ⟨b, -, hb⟩ := List.mem_flatMap.mp hc
    exact .inr ⟨b, hb⟩
  · rename_i hplain
    rw [List.mem_singleton] at hc
    subst hc
    rw [Bool.not_eq_true, Bool.or_eq_false_iff] at hplain
    exact .inl ⟨hd, hplain.1, Nat.not_lt.mp (of_decide_eq_false hplain.2)⟩

end Encode

end IntentProvider.Text.Percent
