import IntentProvider.Proofs.Text.Sequence

/-!
What received bytes show: the characters that they encode, and a replacement character for every
stray between them. A stray is as long as a character could begin with its bytes, or a single byte.
Main statement: decoding bytes gives the one text that they show.
-/

namespace IntentProvider.Text

open IntentProvider.Text.Utf8

/-- Bytes that encode no character, before others: a character could begin with them, or there is one
of them only, and no more bytes belong to them. -/
structure Stray (part rest : List UInt8) : Prop where
  nonempty : part ≠ []
  unread : ∀ c, ¬String.utf8EncodeChar c <+: part ++ rest
  begins : Begins part ∨ part.length = 1
  ended : ∀ b more, rest = b :: more → ¬Begins (part ++ [b])

/-- The text that received bytes show. -/
inductive Shows : List UInt8 → List Char → Prop where
  | nil : Shows [] []
  | char (c : Char) {rest : List UInt8} {cs : List Char} (h : Shows rest cs) :
      Shows (String.utf8EncodeChar c ++ rest) (c :: cs)
  | stray {part rest : List UInt8} {cs : List Char} (hpart : Stray part rest) (h : Shows rest cs) :
      Shows (part ++ rest) ('\uFFFD' :: cs)

section Stray

variable {part other rest more : List UInt8}

theorem Stray.length_le (h : Stray part rest) (h' : Stray other more)
    (heq : part ++ rest = other ++ more) : other.length ≤ part.length := by
  refine Nat.not_lt.mp fun hlt => ?_
  obtain ⟨tail, rfl⟩ := List.prefix_of_prefix_length_le (List.prefix_append part rest)
    (heq ▸ List.prefix_append other more) (Nat.le_of_lt hlt)
  rw [List.append_assoc, List.append_cancel_left_eq] at heq
  cases tail with
  | nil => simp at hlt
  | cons b tail =>
      have hbegins : Begins (part ++ b :: tail) := by
        refine h'.begins.resolve_right fun hone => ?_
        have hpos := List.length_pos_iff.mpr h.nonempty
        rw [List.length_append, List.length_cons] at hone
        omega
      refine h.ended b _ heq (hbegins.of_prefix ?_)
      exact (List.prefix_append_right_inj part).mpr (List.prefix_append [b] tail)

theorem Stray.unique (h : Stray part rest) (h' : Stray other more)
    (heq : part ++ rest = other ++ more) : part = other ∧ rest = more :=
  List.append_inj heq (Nat.le_antisymm (h'.length_le h heq.symm) (h.length_le h' heq))

end Stray

/-- What comes after the first bytes of a sequence completes a character, or leaves a stray. -/
inductive Reads (seen : List UInt8) : List UInt8 → Option Char × Nat → Prop where
  | char {c : Char} (part more : List UInt8) (h : seen ++ part = String.utf8EncodeChar c) :
      Reads seen (part ++ more) (some c, part.length)
  | stray (part : List UInt8) {more : List UInt8} (h : Stray (seen ++ part) more) :
      Reads seen (part ++ more) (none, part.length)

theorem Reads.cons {seen rest : List UInt8} {b : UInt8} {found : Option Char × Nat}
    (h : Reads (seen ++ [b]) rest found) : Reads seen (b :: rest) (found.1, found.2 + 1) := by
  cases h with
  | char part more h => exact .char (b :: part) more (List.append_cons seen b part ▸ h)
  | stray part h => exact .stray (b :: part) (List.append_cons seen b part ▸ h)

section Reads

variable {count j missing n : Nat} {a : UInt8} {rest : List UInt8}

theorem Utf8.Partial.stray (h : Partial count j (missing + 1) n)
    (hbegun : Begins (spread (mark count) j n) ∨ (spread (mark count) j n).length = 1)
    (hended : ∀ b more, rest = b :: more → ¬Begins (spread (mark count) j n ++ [b])) :
    Stray (spread (mark count) j n) rest where
  nonempty := List.ne_nil_of_length_pos (by rw [length_spread]; exact Nat.succ_pos j)
  unread := by
    intro c hc
    have hseen : spread (mark count) j n <+: spread (mark count) j n ++ rest :=
      List.prefix_append _ _
    have hlength := h.length_eq hc hseen
    -- The character is longer than the bytes, so it goes on with the next one.
    obtain ⟨tail, htail⟩ := List.prefix_of_prefix_length_le hseen hc
      (by rw [hlength, length_spread]; omega)
    rw [← htail, List.length_append, length_spread] at hlength
    rw [← htail, List.prefix_append_right_inj] at hc
    cases tail with
    | nil => exact absurd hlength (by simp)
    | cons b tail =>
        obtain ⟨more, rfl⟩ := hc
        refine hended b (tail ++ more) rfl ⟨c, ?_⟩
        rw [← htail]
        exact (List.prefix_append_right_inj _).mpr (List.prefix_append [b] tail)
  begins := hbegun
  ended := hended

theorem Utf8.Partial.reads_proceed (h : Partial count j missing n)
    (hbegun : Begins (spread (mark count) j n) ∨ (spread (mark count) j n).length = 1)
    (hdone : missing = 0 → spread (mark count) j n = String.utf8EncodeChar (Char.ofNat n))
    (rest : List UInt8) :
    Reads (spread (mark count) j n) rest (Glyph.proceed (least count) missing n rest) := by
  induction missing generalizing j n rest with
  | zero => exact .char [] rest ((List.append_nil _).trans (hdone rfl))
  | succ missing ih =>
      -- The sequence is broken off, unless the next byte belongs to it.
      have hstray (hended : ∀ b more, rest = b :: more →
          ¬Begins (spread (mark count) j n ++ [b])) :
          Reads (spread (mark count) j n) rest (none, 0) := by
        have hpart := h.stray hbegun hended
        rw [← List.append_nil (spread _ _ _)] at hpart
        exact .stray [] hpart
      cases rest with
      | nil => exact hstray nofun
      | cons b rest =>
          rw [Glyph.proceed]
          by_cases hbegins : Begins (spread (mark count) j n ++ [b])
          · rw [if_pos (h.goesOn_iff.mpr hbegins)]
            obtain ⟨⟨hlow, hhigh⟩, hbegun'⟩ := h.begins_push_iff.mp hbegins
            have hseen : spread (mark count) (j + 1) (n * 0x40 + (b.toNat - 0x80)) =
                spread (mark count) j n ++ [b] := spread_push hlow hhigh
            have hpush : Partial count (j + 1) missing (n * 0x40 + (b.toNat - 0x80)) :=
              h.push (by omega)
            have hrest := ih hpush (.inl (hseen ▸ hbegins)) (by
              rintro rfl
              exact hpush.eq_utf8EncodeChar (by have := h.total; omega) hbegun') rest
            rw [hseen] at hrest
            exact hrest.cons
          · rw [if_neg (mt h.goesOn_iff.mp hbegins)]
            apply hstray
            rintro _ _ ⟨⟩
            exact hbegins

theorem stray_of_unshaped (h : Glyph.sequenceShape? a = none) : Stray [a] rest := by
  have hnone (c : Char) (tail : List UInt8) : String.utf8EncodeChar c ≠ a :: tail := by
    intro hc
    obtain ⟨_, hcons⟩ := utf8EncodeChar_eq_cons c
    obtain ⟨rfl, -⟩ := List.cons.inj (hc.symm.trans hcons)
    rw [sequenceShape?_first (toNat_lt c)] at h
    cases h
  refine ⟨List.cons_ne_nil _ _, ?_, .inr rfl, ?_⟩
  · intro c hc
    obtain ⟨tail, hcons⟩ := utf8EncodeChar_eq_cons c
    rw [hcons, List.singleton_append] at hc
    exact hnone c tail ((List.cons_prefix_cons.mp hc).1 ▸ hcons)
  · rintro b more - ⟨c, tail, hc⟩
    exact hnone c (b :: tail) hc.symm

theorem reads_first (a : UInt8) (rest : List UInt8) : Reads [a] rest (Glyph.first a rest) := by
  unfold Glyph.first
  cases hshape : Glyph.sequenceShape? a with
  | none => exact .stray [] (stray_of_unshaped hshape)
  | some shape =>
      obtain ⟨count, hcount, rfl, hlow, hhigh, hascii⟩ := exists_of_sequenceShape? hshape
      have hsum : a.toNat - mark count + mark count = a.toNat := Nat.sub_add_cancel hlow
      have hseen : spread (mark count) 0 (a.toNat - mark count) = [a] := by
        rw [spread, hsum, UInt8.ofNat_toNat]
      have hpartial : Partial count 0 count (a.toNat - mark count) :=
        ⟨Nat.zero_add count, hcount, by rw [top, hsum]; exact hhigh⟩
      have hreads := hpartial.reads_proceed (.inr (hseen ▸ rfl)) (by
        rintro rfl
        have hle := hascii rfl
        obtain ⟨c, hc⟩ := exists_toNat_eq (v := a.toNat) (.inl (by omega))
        rw [← hc] at hle
        exact hc ▸ spread_eq_utf8EncodeChar (if_pos hle)) rest
      rw [hseen] at hreads
      exact hreads

end Reads

section Shows

variable {bytes : List UInt8} {cs : List Char}

theorem decodeOnto_eq (done : List Glyph) (skip : Nat) (bytes : List UInt8) :
    Glyph.decodeOnto done skip bytes = done.reverse ++ Glyph.ofBytes (bytes.drop skip) := by
  induction bytes generalizing done skip with
  | nil => simp [Glyph.decodeOnto, Glyph.ofBytes]
  | cons a rest ih =>
      cases skip with
      | succ skip => exact ih done skip
      | zero =>
          rw [List.drop_zero, Glyph.ofBytes, Glyph.decodeOnto, Glyph.decodeOnto, ih, ih,
            List.reverse_cons, List.append_assoc]
          rfl

theorem ofBytes_cons (a : UInt8) (rest : List UInt8) :
    Glyph.ofBytes (a :: rest) = Glyph.ofChar? (Glyph.first a rest).1 ::
      Glyph.ofBytes (rest.drop (Glyph.first a rest).2) := by
  rw [Glyph.ofBytes, Glyph.decodeOnto, decodeOnto_eq]
  rfl

/-- Received bytes begin with a character, or with a stray. -/
theorem ofBytes_cases (a : UInt8) (rest : List UInt8) :
    (∃ c more, a :: rest = String.utf8EncodeChar c ++ more ∧
      Glyph.ofBytes (a :: rest) = .char c :: Glyph.ofBytes more) ∨
    ∃ part more, a :: rest = part ++ more ∧ Stray part more ∧
      Glyph.ofBytes (a :: rest) = .stray :: Glyph.ofBytes more := by
  rw [ofBytes_cons]
  have hreads := reads_first a rest
  generalize Glyph.first a rest = found at hreads
  cases hreads with
  | @char c part more h =>
      refine .inl ⟨c, more, by rw [← h]; rfl, ?_⟩
      rw [List.drop_left]
      rfl
  | @stray part more h =>
      refine .inr ⟨a :: part, more, rfl, h, ?_⟩
      rw [List.drop_left]
      rfl

theorem shows_ofBytes (bytes : List UInt8) :
    Shows bytes ((Glyph.ofBytes bytes).map Glyph.shown) := by
  induction hn : bytes.length using Nat.strongRecOn generalizing bytes with
  | ind n ih =>
      cases bytes with
      | nil => exact .nil
      | cons a rest =>
          rcases ofBytes_cases a rest with ⟨c, more, heq, hglyphs⟩ | ⟨part, more, heq, hpart, hglyphs⟩
          · rw [hglyphs, heq]
            have hpos := c.utf8Size_pos
            rw [heq, List.length_append, String.length_utf8EncodeChar] at hn
            exact .char c (ih more.length (by omega) more rfl)
          · rw [hglyphs, heq]
            have hpos := List.length_pos_iff.mpr hpart.nonempty
            rw [heq, List.length_append] at hn
            exact .stray hpart (ih more.length (by omega) more rfl)

theorem Shows.unique {ds : List Char} (h : Shows bytes cs) (h' : Shows bytes ds) : cs = ds := by
  induction h generalizing ds with
  | nil =>
      generalize hbytes : [] = bytes at h'
      cases h' with
      | nil => rfl
      | char d => exact absurd (List.append_eq_nil_iff.mp hbytes.symm).1 (utf8EncodeChar_ne_nil d)
      | stray hpart => exact absurd (List.append_eq_nil_iff.mp hbytes.symm).1 hpart.nonempty
  | @char c rest cs h ih =>
      generalize hbytes : String.utf8EncodeChar c ++ rest = bytes at h'
      cases h' with
      | nil => exact absurd (List.append_eq_nil_iff.mp hbytes).1 (utf8EncodeChar_ne_nil c)
      | @char d more ds h' =>
          have hc : String.utf8EncodeChar c <+: String.utf8EncodeChar d ++ more := ⟨rest, hbytes⟩
          obtain rfl := eq_of_prefix hc (List.prefix_append _ _)
          obtain rfl := List.append_cancel_left hbytes
          rw [ih h']
      | stray hpart => exact absurd ⟨rest, hbytes⟩ (hpart.unread c)
  | @stray part rest cs hpart h ih =>
      generalize hbytes : part ++ rest = bytes at h'
      cases h' with
      | nil => exact absurd (List.append_eq_nil_iff.mp hbytes).1 hpart.nonempty
      | @char d more ds h' => exact absurd ⟨more, hbytes.symm⟩ (hpart.unread d)
      | @stray other more ds hother h' =>
          obtain ⟨-, rfl⟩ := hpart.unique hother hbytes
          rw [ih h']

/-- Decoding received bytes gives the text that they show. -/
theorem shows_iff : Shows bytes cs ↔ (Glyph.ofBytes bytes).map Glyph.shown = cs := by
  constructor
  · exact fun h => (shows_ofBytes bytes).unique h
  · rintro rfl
    exact shows_ofBytes bytes

end Shows

end IntentProvider.Text
