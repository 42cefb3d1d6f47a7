import IntentProvider.Proofs.Json.Text
import Mathlib.Data.List.TakeWhile

/-!
The lexemes of documents: marks of punctuation, strings in quotation marks, and words, which are
the literals and the numbers. A text is laid out from lexemes if it has them one after the other
with any blanks before, between and after them, where no word touches the next one. Reading a word
or a string ends with it, whatever it is followed by.
-/

namespace IntentProvider.Json

open IntentProvider.Text

namespace Tree

/-- The characters that belong to no word. -/
def separators : List Char :=
  [' ', '\n', '\t', '\r', '\x7b', '\x7d', '[', ']', ',', ':', '"']

def isWordGlyph (g : Glyph) : Bool :=
  !(Glyph.ofChars separators).contains g

/-- What may follow a word. -/
def Ended (gs : List Glyph) : Prop :=
  ∀ g ∈ gs.head?, isWordGlyph g = false

inductive Mark where
  | openBrace
  | closeBrace
  | openBracket
  | closeBracket
  | comma
  | colon

def Mark.char : Mark → Char
  | openBrace => '\x7b'
  | closeBrace => '\x7d'
  | openBracket => '['
  | closeBracket => ']'
  | comma => ','
  | colon => ':'

structure Word where
  glyphs : List Glyph
  nonempty : glyphs ≠ []
  unbroken : ∀ g ∈ glyphs, isWordGlyph g = true

/-- A string: what comes after its opening quotation mark, up to the closing one, and the text that
it stands for. -/
structure Quoted where
  glyphs : List Glyph
  text : Option String
  reads : string? .start glyphs = some (text, [])

inductive Lexeme where
  | mark (m : Mark)
  | word (w : Word)
  | quoted (q : Quoted)

namespace Lexeme

def glyphs : Lexeme → List Glyph
  | mark m => [.char m.char]
  | word w => w.glyphs
  | quoted q => .char '"' :: q.glyphs

/-- The glyphs do not go on with a word that the lexeme is. -/
def Parts (l : Lexeme) (gs : List Glyph) : Prop :=
  ∀ w, l = word w → Ended gs

end Lexeme

/-- A text that has the lexemes one after the other, and blanks anywhere between them. -/
inductive LaidOut : List Lexeme → List Glyph → Prop where
  | nil : LaidOut [] []
  | blank {c : Char} {ls : List Lexeme} {gs : List Glyph} (hc : isJsonBlank c = true)
      (h : LaidOut ls gs) : LaidOut ls (.char c :: gs)
  | cons {l : Lexeme} {ls : List Lexeme} {gs : List Glyph} (hl : l.Parts gs) (h : LaidOut ls gs) :
      LaidOut (l :: ls) (l.glyphs ++ gs)

theorem isWordGlyph_eq_false_iff {g : Glyph} :
    isWordGlyph g = false ↔ ∃ c ∈ separators, .char c = g := by
  rw [isWordGlyph, Bool.not_eq_false', List.contains_iff_mem, Glyph.ofChars, List.mem_map]

theorem isWordGlyph_mark (m : Mark) : isWordGlyph (.char m.char) = false := by
  cases m <;> decide

theorem isWordGlyph_of_blank {c : Char} (h : isJsonBlank c = true) :
    isWordGlyph (.char c) = false := by
  simp only [isJsonBlank, Bool.or_eq_true, beq_iff_eq] at h
  rcases h with ((rfl | rfl) | rfl) | rfl <;> decide

theorem Ended.nil : Ended [] := by
  rintro g ⟨⟩

theorem Ended.cons {g : Glyph} (h : isWordGlyph g = false) (gs : List Glyph) : Ended (g :: gs) := by
  rintro _ ⟨⟩
  exact h

theorem ended_of_skipBlanks {gs : List Glyph} (h : Ended (skipBlanks gs)) : Ended gs := by
  cases gs with
  | nil => exact Ended.nil
  | cons g gs =>
      cases g with
      | stray => exact h
      | char c =>
          cases hc : isJsonBlank c with
          | true => exact Ended.cons (isWordGlyph_of_blank hc) gs
          | false =>
              rw [skipBlanks, hc] at h
              exact h

theorem skipBlanks_of_isWordGlyph {g : Glyph} (h : isWordGlyph g = true) (gs : List Glyph) :
    skipBlanks (g :: gs) = g :: gs := by
  cases g with
  | stray => rfl
  | char c =>
      have hc : isJsonBlank c = false := by
        rw [Bool.eq_false_iff]
        intro hblank
        exact absurd h (Bool.eq_false_iff.mp (isWordGlyph_of_blank hblank))
      rw [skipBlanks, hc]
      rfl

/-! The lexemes at the start of a text. -/

theorem Lexeme.glyphs_ne_nil (l : Lexeme) : l.glyphs ≠ [] := by
  cases l with
  | mark m => exact List.cons_ne_nil _ _
  | word w => exact w.nonempty
  | quoted q => exact List.cons_ne_nil _ _

theorem skipBlanks_lexeme (l : Lexeme) (gs : List Glyph) :
    skipBlanks (l.glyphs ++ gs) = l.glyphs ++ gs := by
  cases l with
  | mark m => cases m <;> rfl
  | quoted q => rfl
  | word w =>
      obtain ⟨g, rest, hw⟩ := List.exists_cons_of_ne_nil w.nonempty
      have hg : isWordGlyph g = true := w.unbroken g (hw ▸ List.mem_cons_self)
      rw [Lexeme.glyphs, hw]
      exact skipBlanks_of_isWordGlyph hg _

namespace LaidOut

variable {l : Lexeme} {ls : List Lexeme} {gs : List Glyph}

theorem mark (m : Mark) (h : LaidOut ls gs) : LaidOut (.mark m :: ls) (.char m.char :: gs) :=
  .cons (by rintro w ⟨⟩) h

theorem quoted (q : Quoted) (h : LaidOut ls gs) :
    LaidOut (.quoted q :: ls) (.char '"' :: (q.glyphs ++ gs)) :=
  .cons (by rintro w ⟨⟩) h

theorem word (w : Word) (hend : Ended gs) (h : LaidOut ls gs) :
    LaidOut (.word w :: ls) (w.glyphs ++ gs) :=
  .cons (fun _ _ => hend) h

theorem of_skipBlanks (h : LaidOut ls (Tree.skipBlanks gs)) : LaidOut ls gs := by
  induction gs with
  | nil => exact h
  | cons g gs ih =>
      cases g with
      | stray => exact h
      | char c =>
          cases hc : isJsonBlank c with
          | false =>
              rw [Tree.skipBlanks, hc] at h
              exact h
          | true =>
              rw [Tree.skipBlanks, hc] at h
              exact blank hc (ih h)

theorem skipBlanks_of_nil (h : LaidOut [] gs) : Tree.skipBlanks gs = [] := by
  generalize hls : [] = ls at h
  induction h with
  | nil => rfl
  | blank hc h ih =>
      rw [Tree.skipBlanks, hc]
      exact ih hls
  | cons hl h => cases hls

/-- Past the blanks a text begins with its first lexeme. -/
theorem skipBlanks_of_cons (h : LaidOut (l :: ls) gs) :
    ∃ rest, Tree.skipBlanks gs = l.glyphs ++ rest ∧ l.Parts rest ∧ LaidOut ls rest := by
  generalize hls : l :: ls = all at h
  induction h with
  | nil => cases hls
  | blank hc h ih =>
      obtain ⟨rest, hskip, hrest⟩ := ih hls
      refine ⟨rest, ?_, hrest⟩
      rw [Tree.skipBlanks, hc]
      exact hskip
  | cons hl h ih =>
      cases hls
      exact ⟨_, skipBlanks_lexeme l _, hl, h⟩

theorem subset_of_mem (h : LaidOut ls gs) (hl : l ∈ ls) : l.glyphs ⊆ gs := by
  induction h with
  | nil => cases hl
  | blank hc h ih => exact List.subset_cons_of_subset _ (ih hl)
  | cons hl' h ih =>
      cases hl with
      | head => exact List.subset_append_left _ _
      | tail _ hl => exact List.subset_append_of_subset_right _ (ih hl)

theorem length_le (h : LaidOut ls gs) : ls.length ≤ gs.length := by
  induction h with
  | nil => exact Nat.le_refl 0
  | blank hc h ih => exact Nat.le_succ_of_le ih
  | cons hl h ih =>
      rename_i l _ _
      have hpos := List.length_pos_iff.mpr l.glyphs_ne_nil
      rw [List.length_cons, List.length_append]
      omega

end LaidOut

/-! Readers that stop where a word ends. -/

/-- What is read at the start of a text leaves an end of it, and it does not depend on what follows
the last word. -/
structure Scans {α : Type} (read : List Glyph → Option (α × List Glyph)) : Prop where
  suffix : ∀ gs a rest, read gs = some (a, rest) → rest <:+ gs
  append : ∀ gs more, Ended more → read (gs ++ more) = (read gs).map fun r => (r.1, r.2 ++ more)

/-- Reads on in one way after a prefix, and in another way if the text does not have it. -/
def onPrefix {α : Type} (p : List Char) (found other : List Glyph → Option (α × List Glyph))
    (gs : List Glyph) : Option (α × List Glyph) :=
  if Glyph.ofChars p <+: gs then found (gs.drop p.length) else other gs

theorem eq_onPrefix {α : Type} {p : List Char} {gs : List Glyph}
    {found other : List Glyph → Option (α × List Glyph)} {a : Option (α × List Glyph)}
    (hfound : ∀ rest, gs = Glyph.ofChars p ++ rest → a = found rest)
    (hother : (∀ rest, gs ≠ Glyph.ofChars p ++ rest) → a = other gs) :
    a = onPrefix p found other gs := by
  rw [onPrefix]
  split
  · rename_i h
    obtain ⟨rest, rfl⟩ := h
    have hlength : (Glyph.ofChars p).length = p.length := List.length_map _
    rw [hfound rest rfl, List.drop_left' hlength]
  · rename_i h
    exact hother fun rest heq => h ⟨rest, heq.symm⟩

namespace Scans

variable {α β : Type} {read other : List Glyph → Option (α × List Glyph)}

theorem stay (a : α) : Scans fun gs => some (a, gs) where
  suffix := by
    rintro gs _ _ ⟨⟩
    exact List.suffix_refl gs
  append gs more _ := rfl

theorem fail : Scans fun _ : List Glyph => (none : Option (α × List Glyph)) where
  suffix := by
    rintro _ _ _ ⟨⟩
  append _ _ _ := rfl

theorem bind {next : α × List Glyph → Option (β × List Glyph)} (h : Scans read)
    (hnext : ∀ a, Scans fun rest => next (a, rest)) : Scans fun gs => (read gs).bind next where
  suffix := by
    intro gs b rest hread
    obtain ⟨⟨a, middle⟩, ha, hb⟩ := Option.bind_eq_some_iff.mp hread
    exact ((hnext a).suffix middle b rest hb).trans (h.suffix gs a middle ha)
  append := by
    intro gs more hmore
    rw [h.append gs more hmore]
    cases hread : read gs with
    | none => rfl
    | some r => exact (hnext r.1).append r.2 more hmore

theorem onPrefix_append_iff {p : List Char} (hp : (Glyph.ofChars p).all isWordGlyph = true)
    {gs more : List Glyph} (hmore : Ended more) :
    Glyph.ofChars p <+: gs ++ more ↔ Glyph.ofChars p <+: gs := by
  constructor
  · rintro ⟨rest, hrest⟩
    rcases List.append_eq_append_iff.mp hrest with ⟨w, hgs, -⟩ | ⟨w, hw, hmore'⟩
    · exact ⟨w, hgs.symm⟩
    -- a prefix that reaches into what follows would go on with a word there
    · cases w with
      | nil => exact ⟨[], by rw [List.append_nil, hw, List.append_nil]⟩
      | cons g w =>
          have hg : g ∈ Glyph.ofChars p := hw ▸ List.mem_append_right gs List.mem_cons_self
          have hend := hmore g (hmore' ▸ rfl)
          exact absurd (List.all_eq_true.mp hp g hg) (Bool.eq_false_iff.mp hend)
  · intro h
    exact h.trans (List.prefix_append gs more)

theorem onPrefix {p : List Char} (hp : (Glyph.ofChars p).all isWordGlyph = true)
    (hfound : Scans read) (hother : Scans other) : Scans (Tree.onPrefix p read other) where
  suffix := by
    intro gs a rest h
    rw [Tree.onPrefix] at h
    split at h
    · exact (hfound.suffix _ a rest h).trans (List.drop_suffix _ gs)
    · exact hother.suffix gs a rest h
  append := by
    intro gs more hmore
    rw [Tree.onPrefix, Tree.onPrefix]
    by_cases h : Glyph.ofChars p <+: gs
    · have hlength : p.length ≤ gs.length := by
        have hle := h.length_le
        rwa [Glyph.ofChars, List.length_map] at hle
      rw [if_pos h, if_pos ((onPrefix_append_iff hp hmore).mpr h),
        List.drop_append_of_le_length hlength]
      exact hfound.append _ more hmore
    · rw [if_neg h, if_neg (mt (onPrefix_append_iff hp hmore).mp h)]
      exact hother.append gs more hmore

end Scans

/-! Numbers. -/

theorem digit?_of_not_word {g : Glyph} (h : isWordGlyph g = false) : digit? g = none := by
  have hseparators : separators.all (fun c => (digit? (.char c)).isNone) = true := by decide
  obtain ⟨c, hc, rfl⟩ := isWordGlyph_eq_false_iff.mp h
  exact Option.isNone_iff_eq_none.mp (List.all_eq_true.mp hseparators c hc)

theorem takeDigits_suffix (done : List Nat) (gs : List Glyph) : (takeDigits done gs).2 <:+ gs := by
  induction gs generalizing done with
  | nil => exact List.suffix_refl []
  | cons g gs ih =>
      rw [takeDigits]
      split
      · exact (ih _).trans (List.suffix_cons g gs)
      · exact List.suffix_refl _

theorem takeDigits_ended (done : List Nat) (gs : List Glyph) {more : List Glyph}
    (h : Ended more) :
    takeDigits done (gs ++ more) = ((takeDigits done gs).1, (takeDigits done gs).2 ++ more) := by
  induction gs generalizing done with
  | nil =>
      cases more with
      | nil => rfl
      | cons g more =>
          have hg : digit? g = none := digit?_of_not_word (h g rfl)
          simp [takeDigits, hg]
  | cons g gs ih =>
      rw [List.cons_append, takeDigits, takeDigits]
      cases digit? g with
      | none => rfl
      | some d => exact ih (d :: done)

theorem scans_someDigits : Scans someDigits? where
  suffix := by
    intro gs ds rest h
    have hsuffix := takeDigits_suffix [] gs
    rw [someDigits?] at h
    dsimp only at h
    split at h
    · cases h
    · cases h
      exact hsuffix
  append := by
    intro gs more hmore
    rw [someDigits?, someDigits?, takeDigits_ended [] gs hmore]
    dsimp only
    split <;> rfl

theorem scans_whole : Scans whole? := by
  refine scans_someDigits.bind fun ds => ?_
  cases h : ds.head? == some 0 && decide (1 < ds.length) with
  | false => simpa only [h, Bool.false_eq_true, if_false] using Scans.stay ds
  | true => simpa only [h, if_true] using Scans.fail

theorem fraction?_eq (gs : List Glyph) :
    fraction? gs = onPrefix ['.']
      (fun rest => (someDigits? rest).bind fun r => some (some r.1, r.2))
      (fun rest => some (none, rest)) gs := by
  refine eq_onPrefix ?_ fun hpoint => ?_
  · rintro rest rfl
    rfl
  · rw [fraction?]
    exact hpoint

theorem scans_fraction : Scans fraction? := by
  rw [funext fraction?_eq]
  exact Scans.onPrefix rfl
    (scans_someDigits.bind fun ds => .stay (some ds)) (.stay none)

theorem scans_signedDigits (negative : Bool) : Scans (signedDigits? negative) :=
  scans_someDigits.bind fun _ => .stay _

theorem exponentDigits?_eq (gs : List Glyph) :
    exponentDigits? gs = onPrefix ['+'] (signedDigits? false)
      (onPrefix ['-'] (signedDigits? true) (signedDigits? false)) gs := by
  refine eq_onPrefix ?_ fun hplus => eq_onPrefix ?_ fun hminus => ?_
  · rintro rest rfl
    rfl
  · rintro rest rfl
    rfl
  · rw [exponentDigits?]
    · exact hplus
    · exact hminus

theorem scans_exponentDigits : Scans exponentDigits? := by
  rw [funext exponentDigits?_eq]
  exact Scans.onPrefix rfl (scans_signedDigits false)
    (Scans.onPrefix rfl (scans_signedDigits true) (scans_signedDigits false))

theorem exponent?_eq (gs : List Glyph) :
    exponent? gs = onPrefix ['e'] exponentDigits?
      (onPrefix ['E'] exponentDigits? fun rest => some (none, rest)) gs := by
  refine eq_onPrefix ?_ fun hsmall => eq_onPrefix ?_ fun hcapital => ?_
  · rintro rest rfl
    rfl
  · rintro rest rfl
    rfl
  · rw [exponent?]
    · exact hsmall
    · exact hcapital

theorem scans_exponent : Scans exponent? := by
  rw [funext exponent?_eq]
  exact Scans.onPrefix rfl scans_exponentDigits
    (Scans.onPrefix rfl scans_exponentDigits (.stay none))

theorem scans_unsignedNumber (negative : Bool) : Scans (unsignedNumber? negative) :=
  scans_whole.bind fun _ => scans_fraction.bind fun _ => scans_exponent.bind fun _ => .stay _

/-! Words and strings. -/

/-- Reads a literal or a number. -/
def readWord? : List Glyph → Option (Tree × List Glyph) :=
  onPrefix ['n', 'u', 'l', 'l'] (fun rest => some (null, rest)) <|
  onPrefix ['t', 'r', 'u', 'e'] (fun rest => some (bool true, rest)) <|
  onPrefix ['f', 'a', 'l', 's', 'e'] (fun rest => some (bool false, rest)) <|
  onPrefix ['-'] (unsignedNumber? true) (unsignedNumber? false)

theorem scans_readWord : Scans readWord? :=
  Scans.onPrefix rfl (.stay null) <|
  Scans.onPrefix rfl (.stay (bool true)) <|
  Scans.onPrefix rfl (.stay (bool false)) <|
  Scans.onPrefix rfl (scans_unsignedNumber true) (scans_unsignedNumber false)

theorem read?_eq_readWord? {g : Glyph} (hg : isWordGlyph g = true) (fuel : Nat)
    (gs : List Glyph) : read? (fuel + 1) (g :: gs) = readWord? (g :: gs) := by
  have hmark : ∀ c ∈ separators, ∀ rest, g :: gs ≠ .char c :: rest := by
    rintro c hc rest ⟨⟩
    exact Bool.eq_false_iff.mp (isWordGlyph_eq_false_iff.mpr ⟨c, hc, rfl⟩) hg
  generalize g :: gs = all at hmark
  refine eq_onPrefix ?_ fun hnull => eq_onPrefix ?_ fun htrue => eq_onPrefix ?_ fun hfalse =>
    eq_onPrefix ?_ fun hminus => ?_
  · rintro rest rfl
    rfl
  · rintro rest rfl
    rfl
  · rintro rest rfl
    rfl
  · rintro rest rfl
    rfl
  · rw [read?]
    · exact hnull
    · exact htrue
    · exact hfalse
    · exact hmark '"' (by decide)
    · exact hminus
    · exact hmark '[' (by decide)
    · exact hmark '\x7b' (by decide)

/-- A word is read by itself, if what reading leaves does not go on with it. -/
theorem exists_word_of_read? {g : Glyph} (hg : isWordGlyph g = true) {fuel : Nat}
    {gs rest : List Glyph} {t : Tree} (h : read? (fuel + 1) (g :: gs) = some (t, rest))
    (hrest : Ended rest) :
    ∃ w : Word, g :: gs = w.glyphs ++ rest ∧ read? 1 w.glyphs = some (t, []) := by
  -- the text is split where its first word ends, and nothing of that word can be left
  have hmore : Ended (gs.dropWhile isWordGlyph) := by
    intro g' hg'
    have hnot := List.head?_dropWhile_not isWordGlyph gs
    rw [Option.mem_def.mp hg'] at hnot
    exact hnot
  have hsplit : g :: gs = (g :: gs.takeWhile isWordGlyph) ++ gs.dropWhile isWordGlyph := by
    rw [List.cons_append, List.takeWhile_append_dropWhile]
  have hwhole : ∀ g' ∈ g :: gs.takeWhile isWordGlyph, isWordGlyph g' = true :=
    List.forall_mem_cons.mpr ⟨hg, fun _ hg' => List.mem_takeWhile_imp hg'⟩
  rw [read?_eq_readWord? hg, hsplit, scans_readWord.append _ _ hmore] at h
  obtain ⟨⟨t', left⟩, hread, heq⟩ := Option.map_eq_some_iff.mp h
  cases heq
  have hleft : left = [] := by
    cases left with
    | nil => rfl
    | cons g' left =>
        have hmem := (scans_readWord.suffix _ _ _ hread).subset List.mem_cons_self
        exact absurd (hwhole g' hmem) (Bool.eq_false_iff.mp (hrest g' rfl))
  subst hleft
  refine ⟨⟨_, List.cons_ne_nil _ _, hwhole⟩, hsplit, ?_⟩
  rw [read?_eq_readWord? hg]
  exact hread

theorem read?_word {w : Word} {t : Tree} (h : read? 1 w.glyphs = some (t, [])) (fuel : Nat)
    {rest : List Glyph} (hrest : Ended rest) :
    read? (fuel + 1) (w.glyphs ++ rest) = some (t, rest) := by
  obtain ⟨g, gs, hw⟩ := List.exists_cons_of_ne_nil w.nonempty
  have hg : isWordGlyph g = true := w.unbroken g (hw ▸ List.mem_cons_self)
  rw [hw, read?_eq_readWord? hg] at h
  rw [hw, List.cons_append, read?_eq_readWord? hg, ← List.cons_append,
    scans_readWord.append _ _ hrest, h]
  rfl

theorem string?_unit {a b c d : Glyph} {n : Nat} (h : unit? a b c d = some n) (p : Draft)
    (gs : List Glyph) :
    string? p (.char '\\' :: .char 'u' :: a :: b :: c :: d :: gs) = string? (p.pushUnit n) gs := by
  rw [string?, h]

theorem string?_escaped {e c : Char} (h : escaped? e = some c) (p : Draft) (gs : List Glyph) :
    string? p (.char '\\' :: .char e :: gs) = string? (p.push c) gs := by
  rw [string?, h]
  rintro _ _ _ _ _ rfl rfl
  cases h

/-- Reading a string does not depend on what follows its closing quotation mark. -/
theorem exists_of_string? {p : Draft} {gs rest : List Glyph} {text : Option String}
    (h : string? p gs = some (text, rest)) :
    ∃ body, gs = body ++ rest ∧ ∀ more, string? p (body ++ more) = some (text, more) := by
  fun_induction string? p gs with
  | case1 p => cases h
  | case2 p gs ih =>
      obtain ⟨body, rfl, hread⟩ := ih h
      exact ⟨.stray :: body, rfl, hread⟩
  | case3 p gs =>
      cases h
      exact ⟨[.char '"'], rfl, fun more => rfl⟩
  | case4 p a b c d gs n hunit ih =>
      obtain ⟨body, rfl, hread⟩ := ih h
      refine ⟨.char '\\' :: .char 'u' :: a :: b :: c :: d :: body, rfl, ?_⟩
      intro more
      exact (string?_unit hunit p (body ++ more)).trans (hread more)
  | case5 p a b c d gs hunit => cases h
  | case6 p e gs hother c hescaped ih =>
      obtain ⟨body, rfl, hread⟩ := ih h
      refine ⟨.char '\\' :: .char e :: body, rfl, ?_⟩
      intro more
      exact (string?_escaped hescaped p (body ++ more)).trans (hread more)
  | case7 p e gs hother hescaped => cases h
  | case8 p c gs hquote hunit hback hc => cases h
  | case9 p c gs hquote hunit hback hc ih =>
      obtain ⟨body, rfl, hread⟩ := ih h
      simp only [Bool.or_eq_true, decide_eq_true_eq, not_or, Nat.not_lt] at hc
      refine ⟨.char c :: body, rfl, ?_⟩
      intro more
      exact (string?_plain hquote hc.1 hc.2 p (body ++ more)).trans (hread more)

theorem string?_quoted (q : Quoted) (rest : List Glyph) :
    string? .start (q.glyphs ++ rest) = some (q.text, rest) := by
  obtain ⟨body, hbody, hread⟩ := exists_of_string? q.reads
  rw [List.append_nil] at hbody
  rw [hbody]
  exact hread rest

theorem exists_quoted_of_string? {gs rest : List Glyph} {text : Option String}
    (h : string? .start gs = some (text, rest)) :
    ∃ q : Quoted, gs = q.glyphs ++ rest ∧ q.text = text := by
  obtain ⟨body, hbody, hread⟩ := exists_of_string? h
  have hreads := hread []
  rw [List.append_nil] at hreads
  exact ⟨⟨body, text, hreads⟩, hbody, rfl⟩

end Tree

end IntentProvider.Json
