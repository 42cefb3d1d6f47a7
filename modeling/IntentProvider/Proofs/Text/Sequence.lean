import IntentProvider.Proofs.Text.Utf8
import IntentProvider.Text.Glyph

/-!
The bytes of one character, from the first one on. The first byte tells how many follow. Whether a
character goes on with a byte is decided by the bits so far.
-/

namespace IntentProvider.Text.Utf8

/-- The least code point that so many bytes follow. -/
def least : Nat → Nat
  | 0 => 0
  | 1 => 0x80
  | 2 => 0x800
  | _ => 0x10000

theorem ascii_of_following {v : Nat} (h : following v = 0) : v ≤ 0x7F := by
  grind [following]

theorem sequenceShape?_eq (a : UInt8) :
    Glyph.sequenceShape? a =
      if a.toNat < 0x80 then some (0, least 0, mark 0)
      else if a.toNat < mark 1 then none
      else if a.toNat < mark 2 then some (1, least 1, mark 1)
      else if a.toNat < mark 3 then some (2, least 2, mark 2)
      else some (3, least 3, mark 3) := by
  simp only [Glyph.sequenceShape?, UInt8.lt_iff_toNat_lt]
  rfl

theorem sequenceShape?_first {v : Nat} (hv : v < 0x110000) :
    Glyph.sequenceShape? (UInt8.ofNat (first v)) =
      some (following v, least (following v), mark (following v)) := by
  have hbyte : (UInt8.ofNat (first v)).toNat = first v := UInt8.toNat_ofNat_of_lt' (first_lt hv)
  have hascii : following v = 0 → first v ≤ 0x7F := by
    intro h
    rw [first, h]
    exact ascii_of_following h
  have hbetween := first_between hv
  have hfollowing := following_le v
  rw [sequenceShape?_eq, hbyte]
  generalize following v = count at *
  match count, hfollowing with
  | 0, _ => grind
  | 1, _ => grind [mark]
  | 2, _ => grind [mark]
  | 3, _ => grind [mark]

theorem exists_of_sequenceShape? {a : UInt8} {shape : Nat × Nat × Nat}
    (h : Glyph.sequenceShape? a = some shape) :
    ∃ count ≤ 3, shape = (count, least count, mark count) ∧ mark count ≤ a.toNat ∧
      a.toNat < mark (count + 1) ∧ (count = 0 → a.toNat ≤ 0x7F) := by
  have ha := a.toNat_lt
  rw [sequenceShape?_eq] at h
  grind [mark]

/-- Surrogates are no more than a part of a gap, so one of the ends of a range tells whether there
is a character in it. -/
theorem exists_isValidChar_iff {least low high : Nat} (hsize : high < low + 0x100000) :
    (max least low ≤ high ∧ ((max least low).isValidChar ∨ high.isValidChar)) ↔
      ∃ v, v.isValidChar ∧ least ≤ v ∧ low ≤ v ∧ v ≤ high := by
  constructor
  · rintro ⟨hle, hvalid | hvalid⟩
    · exact ⟨_, hvalid, Nat.le_max_left _ _, Nat.le_max_right _ _, hle⟩
    · exact ⟨high, hvalid, by omega, by omega, Nat.le_refl _⟩
  · rintro ⟨v, hvalid, hleast, hlow, hhigh⟩
    unfold Nat.isValidChar at *
    omega

theorem top_eq_iff {missing n v : Nat} (hmissing : missing ≤ 2) :
    top missing v = n ↔
      n * Nat.pow 0x40 missing ≤ v ∧ v ≤ (n + 1) * Nat.pow 0x40 missing - 1 := by
  match missing, hmissing with
  | 0, _ =>
      change v = n ↔ n * 1 ≤ v ∧ v ≤ (n + 1) * 1 - 1
      omega
  | 1, _ =>
      change v / 64 = n ↔ n * 64 ≤ v ∧ v ≤ (n + 1) * 64 - 1
      omega
  | 2, _ =>
      change v / 64 / 64 = n ↔ n * 4096 ≤ v ∧ v ≤ (n + 1) * 4096 - 1
      omega

theorem exists_toNat_eq {v : Nat} (h : v.isValidChar) : ∃ c : Char, c.toNat = v := by
  refine ⟨Char.ofNat v, ?_⟩
  rw [Char.ofNat, dif_pos h]
  rfl

theorem isBegun_iff {least missing n : Nat} (hmissing : missing ≤ 2) :
    Glyph.isBegun least missing n = true ↔
      ∃ c : Char, least ≤ c.toNat ∧ top missing c.toNat = n := by
  have hpos : 0 < Nat.pow 0x40 missing := Nat.pow_pos (by decide)
  have hpow : Nat.pow 0x40 missing ≤ Nat.pow 0x40 2 := Nat.pow_le_pow_right (by decide) hmissing
  have hsize : (n + 1) * Nat.pow 0x40 missing - 1 < n * Nat.pow 0x40 missing + 0x100000 := by
    rw [Nat.add_mul]
    change _ ≤ 4096 at hpow
    omega
  simp only [Glyph.isBegun, Bool.and_eq_true, Bool.or_eq_true, decide_eq_true_eq,
    top_eq_iff hmissing, exists_isValidChar_iff hsize]
  constructor
  · rintro ⟨v, hvalid, hv⟩
    obtain ⟨c, rfl⟩ := exists_toNat_eq hvalid
    exact ⟨c, hv⟩
  · rintro ⟨c, hc⟩
    exact ⟨c.toNat, c.valid, hc⟩

theorem least_following_le (v : Nat) : least (following v) ≤ v := by
  grind [following, least]

theorem following_eq_of_top {count v : Nat} (hpos : 0 < count) (hcount : count ≤ 3)
    (hleast : least count ≤ v) (hhigh : top count v + mark count < mark (count + 1)) :
    following v = count := by
  match count, hpos, hcount with
  | 1, _, _ => grind [following, top, mark, least]
  | 2, _, _ => grind [following, top, mark, least]
  | 3, _, _ => grind [following, top, mark, least]

/-- A character begins with some bytes. -/
def Begins (bytes : List UInt8) : Prop :=
  ∃ c, bytes <+: String.utf8EncodeChar c

/-- The bytes `spread (mark count) j n` are the first ones of a sequence, and `missing` more follow. -/
structure Partial (count j missing n : Nat) : Prop where
  total : j + missing = count
  count_le : count ≤ 3
  high : top j n + mark count < mark (count + 1)

section Sequence

variable {count j missing n : Nat} {a b : UInt8} {c d : Char} {bytes part rest : List UInt8}

theorem utf8EncodeChar_eq_cons (c : Char) :
    ∃ rest, String.utf8EncodeChar c = UInt8.ofNat (first c.toNat) :: rest := by
  rw [utf8EncodeChar_eq_spread]
  exact spread_eq_cons _ _ _

theorem following_of_cons (hcount : count ≤ 3) (hlow : mark count ≤ a.toNat)
    (hhigh : a.toNat < mark (count + 1)) (h : String.utf8EncodeChar c = a :: rest) :
    following c.toNat = count := by
  obtain ⟨tail, htail⟩ := utf8EncodeChar_eq_cons c
  obtain ⟨hbetween, hbetween'⟩ := first_between (toNat_lt c)
  have hfollowing := following_le c.toNat
  obtain ⟨rfl, -⟩ := List.cons.inj (h.symm.trans htail)
  rw [UInt8.toNat_ofNat_of_lt' (first_lt (toNat_lt c))] at hlow hhigh
  rcases Nat.lt_trichotomy (following c.toNat) count with hless | heq | hless
  · have hmark : mark (following c.toNat + 1) ≤ mark count := mark_mono hless (by omega)
    omega
  · exact heq
  · have hmark : mark (count + 1) ≤ mark (following c.toNat) := mark_mono hless (by omega)
    omega

theorem spread_push {mark : Nat} (hlow : 0x80 ≤ b.toNat) (hhigh : b.toNat < 0xC0) :
    spread mark (j + 1) (n * 0x40 + (b.toNat - 0x80)) = spread mark j n ++ [b] := by
  have hdiv : (n * 0x40 + (b.toNat - 0x80)) / 64 = n := by omega
  have hmod : (n * 0x40 + (b.toNat - 0x80)) % 64 + 0x80 = b.toNat := by omega
  rw [spread, hdiv, hmod, UInt8.ofNat_toNat]

theorem spread_eq_utf8EncodeChar (h : following c.toNat = count) :
    spread (mark count) count c.toNat = String.utf8EncodeChar (Char.ofNat c.toNat) := by
  rw [Char.ofNat_toNat, utf8EncodeChar_eq_spread, h]

namespace Partial

theorem push (h : Partial count j (missing + 1) n) {x : Nat} (hx : x < 64) :
    Partial count (j + 1) missing (n * 0x40 + x) where
  total := by have := h.total; omega
  count_le := h.count_le
  high := by
    have hdiv : (n * 0x40 + x) / 64 = n := by omega
    rw [top, hdiv]
    exact h.high

theorem lt (h : Partial count j missing n) : top j n + mark count < 256 :=
  Nat.lt_of_lt_of_le h.high (mark_mono (Nat.succ_le_succ h.count_le) (Nat.le_refl 4))

theorem following_eq (h : Partial count j missing n)
    (hc : String.utf8EncodeChar c <+: bytes) (hseen : spread (mark count) j n <+: bytes) :
    following c.toNat = count := by
  obtain ⟨rest, hrest⟩ := utf8EncodeChar_eq_cons c
  obtain ⟨tail, htail⟩ := spread_eq_cons (mark count) j n
  obtain ⟨after, rfl⟩ := hc
  rw [hrest, htail] at hseen
  have hfirst := (List.cons_prefix_cons.mp hseen).1
  have hbyte : (UInt8.ofNat (top j n + mark count)).toNat = top j n + mark count :=
    UInt8.toNat_ofNat_of_lt' h.lt
  rw [← hfirst] at hrest
  exact following_of_cons h.count_le (by omega) (hbyte.symm ▸ h.high) hrest

theorem length_eq (h : Partial count j missing n)
    (hc : String.utf8EncodeChar c <+: bytes) (hseen : spread (mark count) j n <+: bytes) :
    (String.utf8EncodeChar c).length = j + missing + 1 := by
  rw [utf8EncodeChar_eq_spread, length_spread, h.following_eq hc hseen, h.total]

/-- The bits of a character that begins with the bytes of a sequence. -/
theorem eq_spread_of_prefix (h : Partial count j missing n)
    (hc : bytes <+: String.utf8EncodeChar c) (hseen : spread (mark count) j n <+: bytes)
    {i k : Nat} (hlength : bytes.length = i + 1) (hsum : i + k = count) :
    bytes = spread (mark count) i (top k c.toNat) ∧ top i (top k c.toNat) + mark count < 256 := by
  have hfollowing := h.following_eq (List.prefix_refl _) (hseen.trans hc)
  have hfirst := first_lt (toNat_lt c)
  have hprefix := spread_prefix (mark count) i k c.toNat
  rw [utf8EncodeChar_eq_spread, hfollowing] at hc
  rw [hsum] at hprefix
  rw [first, hfollowing, ← hsum, ← top_top, hsum] at hfirst
  refine ⟨?_, hfirst⟩
  have hlength' : bytes.length = (spread (mark count) i (top k c.toNat)).length := by
    rw [hlength, length_spread]
  exact (List.prefix_of_prefix_length_le hc hprefix (Nat.le_of_eq hlength')).eq_of_length hlength'

theorem bits_of_push (h : Partial count j (missing + 1) n)
    (hc : spread (mark count) j n ++ [b] <+: String.utf8EncodeChar c) :
    (0x80 ≤ b.toNat ∧ b.toNat < 0xC0) ∧ following c.toNat = count ∧
      top missing c.toNat = n * 0x40 + (b.toNat - 0x80) := by
  have htotal := h.total
  have hlength : (spread (mark count) j n ++ [b]).length = j + 1 + 1 := by
    rw [List.length_append, length_spread, List.length_singleton]
  have hfollowing := h.following_eq (List.prefix_refl _) ((List.prefix_append _ _).trans hc)
  obtain ⟨heq, hlt⟩ :=
    h.eq_spread_of_prefix hc (List.prefix_append _ _) hlength (k := missing) (by omega)
  generalize top missing c.toNat = w at heq hlt
  obtain ⟨hseen, hbyte⟩ := List.append_inj' heq rfl
  have hn : n = w / 64 := spread_inj h.lt hlt hseen
  have hb : b.toNat = w % 64 + 0x80 := by
    have hlt : w % 64 + 0x80 < UInt8.size := by
      change _ < 256
      omega
    rw [(List.cons.inj hbyte).1, UInt8.toNat_ofNat_of_lt' hlt]
  exact ⟨by omega, hfollowing, by omega⟩

theorem push_of_bits (h : Partial count j (missing + 1) n) (hlow : 0x80 ≤ b.toNat)
    (hhigh : b.toNat < 0xC0) (hleast : least count ≤ c.toNat)
    (hbits : top missing c.toNat = n * 0x40 + (b.toNat - 0x80)) :
    spread (mark count) j n ++ [b] <+: String.utf8EncodeChar c := by
  have htotal := h.total
  have hpush := (h.push (x := b.toNat - 0x80) (by omega)).high
  rw [← hbits, top_top, Nat.add_assoc, Nat.add_comm 1, htotal] at hpush
  have hfollowing : following c.toNat = count :=
    following_eq_of_top (by omega) h.count_le hleast hpush
  have hprefix := spread_prefix (mark count) (j + 1) missing c.toNat
  rw [utf8EncodeChar_eq_spread, hfollowing, ← spread_push hlow hhigh, ← hbits]
  rwa [Nat.add_assoc, Nat.add_comm 1, htotal] at hprefix

/-- A character goes on with a byte exactly if the byte has six bits, and there is one that begins
with the bits so far. -/
theorem begins_push_iff (h : Partial count j (missing + 1) n) :
    Begins (spread (mark count) j n ++ [b]) ↔
      (0x80 ≤ b.toNat ∧ b.toNat < 0xC0) ∧
        Glyph.isBegun (least count) missing (n * 0x40 + (b.toNat - 0x80)) = true := by
  have hmissing : missing ≤ 2 := by
    have htotal := h.total
    have hcount := h.count_le
    omega
  rw [isBegun_iff hmissing]
  constructor
  · rintro ⟨c, hc⟩
    obtain ⟨hsix, hfollowing, hbits⟩ := h.bits_of_push hc
    exact ⟨hsix, c, hfollowing ▸ least_following_le c.toNat, hbits⟩
  · rintro ⟨⟨hlow, hhigh⟩, c, hleast, hbits⟩
    exact ⟨c, h.push_of_bits hlow hhigh hleast hbits⟩

/-- What decoding asks of a byte before it goes on with a sequence. -/
theorem goesOn_iff (h : Partial count j (missing + 1) n) :
    (0x80 ≤ b && b < 0xC0 &&
      Glyph.isBegun (least count) missing (n * 0x40 + (b.toNat - 0x80))) = true ↔
        Begins (spread (mark count) j n ++ [b]) := by
  rw [h.begins_push_iff, Bool.and_eq_true, Bool.and_eq_true, decide_eq_true_eq,
    decide_eq_true_eq, UInt8.le_iff_toNat_le, UInt8.lt_iff_toNat_lt]
  rfl

theorem eq_utf8EncodeChar (h : Partial count j 0 n) (hcount : 0 < count)
    (hbegun : Glyph.isBegun (least count) 0 n = true) :
    spread (mark count) j n = String.utf8EncodeChar (Char.ofNat n) := by
  obtain ⟨c, hleast, rfl⟩ := (isBegun_iff (by decide)).mp hbegun
  obtain ⟨rfl, hle, hhigh⟩ := h
  exact spread_eq_utf8EncodeChar (following_eq_of_top hcount hle hleast hhigh)

end Partial

theorem Begins.of_prefix (h : Begins bytes) (hpart : part <+: bytes) : Begins part := by
  obtain ⟨c, hc⟩ := h
  exact ⟨c, hpart.trans hc⟩

/-- No character begins with another one. -/
theorem eq_of_prefix (h : String.utf8EncodeChar c <+: bytes)
    (h' : String.utf8EncodeChar d <+: bytes) : c = d := by
  obtain ⟨x, hx⟩ := utf8EncodeChar_eq_cons c
  obtain ⟨y, hy⟩ := utf8EncodeChar_eq_cons d
  have hfirst : UInt8.ofNat (first c.toNat) = UInt8.ofNat (first d.toNat) := by
    obtain ⟨more, rfl⟩ := h'
    rw [hx, hy] at h
    exact (List.cons_prefix_cons.mp h).1
  have hshape := sequenceShape?_first (toNat_lt c)
  rw [hfirst, sequenceShape?_first (toNat_lt d), Option.some.injEq, Prod.mk.injEq] at hshape
  have hlength : (String.utf8EncodeChar c).length = (String.utf8EncodeChar d).length := by
    rw [utf8EncodeChar_eq_spread, utf8EncodeChar_eq_spread, length_spread, length_spread, hshape.1]
  have hbytes := (List.prefix_of_prefix_length_le h h' (Nat.le_of_eq hlength)).eq_of_length hlength
  have hchars : [c] = [d] := Percent.utf8_inj (by simpa [Percent.utf8] using hbytes)
  exact List.head_eq_of_cons_eq hchars

theorem utf8EncodeChar_ne_nil (c : Char) : String.utf8EncodeChar c ≠ [] := by
  obtain ⟨rest, hrest⟩ := utf8EncodeChar_eq_cons c
  rw [hrest]
  exact List.cons_ne_nil _ _

end Sequence

end IntentProvider.Text.Utf8
