/-!
Text received as bytes. Each UTF-8 sequence becomes the character that it encodes. Bytes that encode
none stay in the text as strays: those of a sequence that is broken off as one, any other byte by
itself. An ASCII byte always stands for its own character, so strays never hide a delimiter.
-/

namespace IntentProvider.Text

/-- One unit of a received text: a character, or bytes that encode none. -/
inductive Glyph where
  | char (c : Char)
  | stray
  deriving DecidableEq, Repr

namespace Glyph

/-- The character of a glyph, if it is one. -/
def char? : Glyph → Option Char
  | char c => some c
  | stray => none

/-- A character, or a stray where there is none. -/
def ofChar? : Option Char → Glyph
  | some c => char c
  | none => stray

/-- The character that shows a glyph: a replacement character stands for a stray. -/
def shown : Glyph → Char
  | char c => c
  | stray => '\uFFFD'

/-- How many bytes must follow the first byte of a sequence, the least code point that needs that
many, and the part of the first byte that marks the length. -/
def sequenceShape? (a : UInt8) : Option (Nat × Nat × Nat) :=
  if a < 0x80 then some (0, 0, 0)
  else if a < 0xC0 then none
  else if a < 0xE0 then some (1, 0x80, 0xC0)
  else if a < 0xF0 then some (2, 0x800, 0xE0)
  else some (3, 0x10000, 0xF0)

/-- Whether there is a character from `least` on whose code point begins with `n`, when `missing`
groups of six bits are to come. If there is, the least or the largest code point is one. -/
def isBegun (least missing n : Nat) : Bool :=
  let first := max least (n * Nat.pow 0x40 missing)
  let last := (n + 1) * Nat.pow 0x40 missing - 1
  first ≤ last && (decide first.isValidChar || decide last.isValidChar)

/-- Goes on with a sequence as long as a character can begin with its bytes. Gives the character, if
it is complete, and how many bytes have been taken. -/
def proceed (least : Nat) : Nat → Nat → List UInt8 → Option Char × Nat
  | 0, n, _ => (some (Char.ofNat n), 0)
  | _ + 1, _, [] => (none, 0)
  | missing + 1, n, b :: rest =>
    let more := n * 0x40 + (b.toNat - 0x80)
    if 0x80 ≤ b && b < 0xC0 && isBegun least missing more then
      let found := proceed least missing more rest
      (found.1, found.2 + 1)
    else (none, 0)

/-- The character that starts at the byte `a`, if there is one, with the number of bytes of `rest`
that belong to its sequence, or to the one that is broken off. -/
def first (a : UInt8) (rest : List UInt8) : Option Char × Nat :=
  match sequenceShape? a with
  | some (count, least, mark) => proceed least count (a.toNat - mark) rest
  | none => (none, 0)

/-- Decodes bytes from left to right after passing over `skip` of them, putting what is read in
front of `done`, last first. -/
def decodeOnto (done : List Glyph) : Nat → List UInt8 → List Glyph
  | _, [] => done.reverse
  | skip + 1, _ :: rest => decodeOnto done skip rest
  | 0, a :: rest =>
    let found := first a rest
    decodeOnto (ofChar? found.1 :: done) found.2 rest

/-- The glyphs of a sequence of bytes. -/
def ofBytes (bytes : List UInt8) : List Glyph :=
  decodeOnto [] 0 bytes

/-- The glyphs of a text. -/
def ofChars (cs : List Char) : List Glyph :=
  cs.map char

/-- The text that glyphs spell, if none is a stray. -/
def text? (gs : List Glyph) : Option (List Char) :=
  gs.mapM char?

example : ofBytes [0x68, 0x69] = ofChars ['h', 'i'] := by decide

example : ofBytes [0xC3, 0xA9, 0x21] = ofChars ['é', '!'] := by decide

example : ofBytes [0xC3, 0x22] = [stray, char '"'] := by decide

example : ofBytes [0xED, 0xA0, 0x80] = [stray, stray, stray] := by decide

example : ofBytes [0xF0, 0x90, 0x80, 0x57] = [stray, char 'W'] := by decide

end Glyph

end IntentProvider.Text
