import IntentProvider.Proofs.Text.Percent

/-!
Texts in the order of their UTF-8 bytes. It is the order of their code points: the higher bits of a
code point come first, and a code point that takes more bytes has a larger first byte.
-/

namespace IntentProvider.Text.Utf8

open IntentProvider.Text.Percent

/-- What is left of a code point without its `count` lowest groups of six bits. -/
def top : Nat → Nat → Nat
  | 0, v => v
  | count + 1, v => top count (v / 64)

/-- A code point in bytes: what is left without the lowest groups, together with a mark, and then
each group. -/
def spread (mark : Nat) : Nat → Nat → List UInt8
  | 0, v => [UInt8.ofNat (v + mark)]
  | count + 1, v => spread mark count (v / 64) ++ [UInt8.ofNat (v % 64 + 0x80)]

/-- How many bytes follow the first one of a code point. -/
def following (v : Nat) : Nat :=
  if v ≤ 0x7F then 0 else if v ≤ 0x7FF then 1 else if v ≤ 0xFFFF then 2 else 3

/-- The least first byte that so many bytes may follow. No byte has more than three after it. -/
def mark : Nat → Nat
  | 0 => 0
  | 1 => 0xC0
  | 2 => 0xE0
  | 3 => 0xF0
  | _ => 0x100

def first (v : Nat) : Nat :=
  top (following v) v + mark (following v)

theorem toNat_lt (c : Char) : c.toNat < 0x110000 := by
  have hvalid : c.toNat.isValidChar := c.valid
  rcases hvalid with h | h <;> omega

theorem utf8EncodeChar_eq_spread (c : Char) :
    String.utf8EncodeChar c = spread (mark (following c.toNat)) (following c.toNat) c.toNat := by
  have hc := toNat_lt c
  have hval : c.val.toNat = c.toNat := rfl
  simp only [String.utf8EncodeChar, hval]
  generalize c.toNat = v at hc ⊢
  unfold following
  split
  · simp [spread, mark]
  split
  · have hfirst : v / 64 % 32 = v / 64 := by omega
    simp [spread, mark, hfirst]
  split
  · have hfirst : v / 4096 % 16 = v / 4096 := by omega
    simp [spread, mark, hfirst, Nat.div_div_eq_div_mul]
  · have hfirst : v / 262144 % 8 = v / 262144 := by omega
    simp [spread, mark, hfirst, Nat.div_div_eq_div_mul]

theorem top_top (j k v : Nat) : top j (top k v) = top (j + k) v := by
  induction k generalizing v with
  | zero => rfl
  | succ k ih => exact ih (v / 64)

theorem length_spread (mark count v : Nat) : (spread mark count v).length = count + 1 := by
  induction count generalizing v with
  | zero => rfl
  | succ count ih => rw [spread, List.length_append, ih, List.length_singleton]

/-- Without its last bytes, a code point in bytes is what is left of it without as many groups. -/
theorem spread_prefix (mark j k v : Nat) : spread mark j (top k v) <+: spread mark (j + k) v := by
  induction k generalizing v with
  | zero => exact List.prefix_refl _
  | succ k ih => exact (ih (v / 64)).trans (List.prefix_append _ _)

theorem spread_eq_cons (mark count v : Nat) :
    ∃ rest, spread mark count v = UInt8.ofNat (top count v + mark) :: rest := by
  induction count generalizing v with
  | zero => exact ⟨[], rfl⟩
  | succ count ih =>
      obtain ⟨rest, hrest⟩ := ih (v / 64)
      rw [spread, hrest]
      exact ⟨_, rfl⟩

theorem following_mono {v w : Nat} (h : v ≤ w) : following v ≤ following w := by
  grind [following]

theorem following_le (v : Nat) : following v ≤ 3 := by
  grind [following]

theorem mark_mono {m n : Nat} (h : m ≤ n) (hn : n ≤ 4) : mark m ≤ mark n := by
  have hmark : ∀ n ≤ 4, ∀ m ≤ n, mark m ≤ mark n := by decide
  exact hmark n hn m h

/-- The first bytes for each number of bytes have a range of their own. -/
theorem first_between {v : Nat} (hv : v < 0x110000) :
    mark (following v) ≤ first v ∧ first v < mark (following v + 1) := by
  unfold first following
  split
  · simp only [top, mark]
    omega
  split
  · simp only [top, mark]
    omega
  split
  · simp only [top, mark]
    omega
  · simp only [top, mark]
    omega

theorem first_lt {v : Nat} (hv : v < 0x110000) : first v < 256 :=
  calc
    first v < mark (following v + 1) := (first_between hv).2
    _ ≤ mark 4 := mark_mono (Nat.add_le_add_right (following_le v) 1) (Nat.le_refl 4)

theorem first_lt_first {v w : Nat} (hv : v < 0x110000) (hw : w < 0x110000)
    (h : following v < following w) : first v < first w := by
  have hfollowing := following_le w
  calc
    first v < mark (following v + 1) := (first_between hv).2
    _ ≤ mark (following w) := mark_mono h (by omega)
    _ ≤ first w := (first_between hw).1

theorem ofNat_lt_ofNat {m n : Nat} (h : m < n) (hn : n < 256) : UInt8.ofNat m < UInt8.ofNat n :=
  (UInt8.ofNat_lt_iff_lt (Nat.lt_trans h hn) hn).mpr h

theorem spread_append_lt {mark count v w : Nat} (h : v < w) (hw : top count w + mark < 256)
    (s t : List UInt8) : spread mark count v ++ s < spread mark count w ++ t := by
  induction count generalizing v w s t with
  | zero => exact .rel (ofNat_lt_ofNat (Nat.add_lt_add_right h mark) hw)
  | succ count ih =>
      rw [spread, spread, List.append_assoc, List.append_assoc]
      -- Either a byte before the last one tells the two apart, or only the last one does.
      rcases Nat.lt_or_eq_of_le (Nat.div_le_div_right (c := 64) (Nat.le_of_lt h)) with hdiv | hdiv
      · exact ih hdiv hw _ _
      · rw [hdiv]
        exact List.append_left_lt (.rel (ofNat_lt_ofNat (by omega) (by omega)))

theorem spread_inj {mark count v w : Nat} (hv : top count v + mark < 256)
    (hw : top count w + mark < 256) (h : spread mark count v = spread mark count w) : v = w := by
  rcases Nat.lt_trichotomy v w with hlt | heq | hlt
  · have hless := spread_append_lt hlt hw [] []
    rw [h] at hless
    exact absurd hless (List.lt_irrefl _)
  · exact heq
  · have hless := spread_append_lt hlt hv [] []
    rw [h] at hless
    exact absurd hless (List.lt_irrefl _)

/-- The bytes of a larger code point come after those of a smaller one, whatever follows them. -/
theorem utf8EncodeChar_append_lt {c d : Char} (h : c < d) (s t : List UInt8) :
    String.utf8EncodeChar c ++ s < String.utf8EncodeChar d ++ t := by
  have hlt : c.toNat < d.toNat := h
  have hfirst := first_lt (toNat_lt d)
  rw [utf8EncodeChar_eq_spread, utf8EncodeChar_eq_spread]
  rcases Nat.lt_or_eq_of_le (following_mono (Nat.le_of_lt hlt)) with hcount | hcount
  · obtain ⟨x, hx⟩ := spread_eq_cons (mark (following c.toNat)) (following c.toNat) c.toNat
    obtain ⟨y, hy⟩ := spread_eq_cons (mark (following d.toNat)) (following d.toNat) d.toNat
    rw [hx, hy]
    exact .rel (ofNat_lt_ofNat (first_lt_first (toNat_lt c) (toNat_lt d) hcount) hfirst)
  · rw [hcount]
    exact spread_append_lt hlt hfirst s t

theorem utf8_lt_utf8 {cs ds : List Char} (h : cs < ds) : utf8 cs < utf8 ds := by
  induction h with
  | @nil d ds =>
      cases hd : utf8 (d :: ds) with
      | nil =>
          have hnil : utf8 (d :: ds) = utf8 [] := hd
          cases utf8_inj hnil
      | cons => exact .nil
  | rel h =>
      rw [utf8_cons, utf8_cons]
      exact utf8EncodeChar_append_lt h _ _
  | cons _ ih =>
      rw [utf8_cons, utf8_cons]
      exact List.append_left_lt ih

/-- The order of texts by their bytes is the order by their code points. -/
theorem utf8_le_utf8_iff {s t : String} : utf8 s.toList ≤ utf8 t.toList ↔ s ≤ t := by
  constructor
  · intro h
    exact String.not_lt.mp fun hlt => h (utf8_lt_utf8 hlt)
  · intro h
    rcases Std.le_iff_lt_or_eq.mp h with hlt | rfl
    · exact List.lt_asymm (utf8_lt_utf8 hlt)
    · exact List.lt_irrefl _

end IntentProvider.Text.Utf8
