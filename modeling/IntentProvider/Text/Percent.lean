import IntentProvider.Text.Radix

/-!
Percent-encoding. A character is written as it is, or as the bytes of its UTF-8 form, each after a
percent sign in two hexadecimal digits. Which ASCII characters are encoded depends on the place; a
character beyond ASCII always is.
-/

namespace IntentProvider.Text.Percent

/-- A byte as a percent sign and two digits. -/
def encodeByte (b : UInt8) : List Char :=
  '%' :: (Radix.padded 16 2 b.toNat).map Char.toUpper

/-- A character in a place where the ASCII characters of a set are encoded. -/
def encodeChar (inSet : Char → Bool) (c : Char) : List Char :=
  if inSet c || 0x7E < c.toNat then (String.utf8EncodeChar c).flatMap encodeByte else [c]

/-- A text in a place where the ASCII characters of a set are encoded. -/
def encode (inSet : Char → Bool) (cs : List Char) : List Char :=
  cs.flatMap (encodeChar inSet)

/-- The bytes of a text in which a percent sign and two digits stand for a byte. -/
def decode : List Char → List UInt8
  | [] => []
  | '%' :: a :: b :: rest =>
    match Radix.digit? 16 a, Radix.digit? 16 b with
    | some x, some y => UInt8.ofNat (x * 16 + y) :: decode rest
    | _, _ => 0x25 :: decode (a :: b :: rest)
  | c :: rest => String.utf8EncodeChar c ++ decode rest

theorem encodeChar_of_plain {inSet : Char → Bool} {c : Char} (h : inSet c = false)
    (hc : c.toNat ≤ 0x7E) : encodeChar inSet c = [c] := by
  simp [encodeChar, h, Nat.not_lt.2 hc]

theorem encode_of_plain {inSet : Char → Bool} {cs : List Char}
    (h : ∀ c ∈ cs, inSet c = false ∧ c.toNat ≤ 0x7E) : encode inSet cs = cs := by
  induction cs with
  | nil => rfl
  | cons c cs ih =>
      simp only [encode, List.flatMap_cons] at ih ⊢
      rw [encodeChar_of_plain (h c (by simp)).1 (h c (by simp)).2,
        ih fun d hd => h d (by simp [hd])]
      rfl

end IntentProvider.Text.Percent
