import IntentProvider.Proofs.Json.Lexeme

/-!
What documents look like. A phrase is a document with the lexemes that spell it, and the reader is
right about phrases: it finds a document in a text exactly if the text is laid out from a phrase
with this document. So blanks between lexemes say nothing.
-/

namespace IntentProvider.Json

open IntentProvider.Text

namespace Tree

/-- A document as it is spelled. -/
inductive Phrase where
  | word (w : Word) (t : Tree) (reads : read? 1 w.glyphs = some (t, []))
  | quoted (q : Quoted)
  | array (items : List Phrase)
  | object (members : List (Quoted × Phrase))

namespace Phrase

mutual

/-- The document that a phrase spells. -/
def tree : Phrase → Tree
  | word _ t _ => t
  | quoted q => .string q.text
  | array items => .array (trees items)
  | object members => .object (memberTrees members)

def trees : List Phrase → List Tree
  | [] => []
  | x :: xs => tree x :: trees xs

def memberTrees : List (Quoted × Phrase) → List (Option String × Tree)
  | [] => []
  | (key, x) :: ms => (key.text, tree x) :: memberTrees ms

end

mutual

def lexemes : Phrase → List Lexeme
  | word w _ _ => [.word w]
  | quoted q => [.quoted q]
  | array items => .mark .openBracket :: (itemLexemes items ++ [.mark .closeBracket])
  | object members => .mark .openBrace :: (memberLexemes members ++ [.mark .closeBrace])

/-- The lexemes of items, with commas between them. -/
def itemLexemes : List Phrase → List Lexeme
  | [] => []
  | [x] => lexemes x
  | x :: xs => lexemes x ++ .mark .comma :: itemLexemes xs

/-- The lexemes of members, with commas between them. -/
def memberLexemes : List (Quoted × Phrase) → List Lexeme
  | [] => []
  | [(key, x)] => .quoted key :: .mark .colon :: lexemes x
  | (key, x) :: ms =>
      .quoted key :: .mark .colon :: (lexemes x ++ .mark .comma :: memberLexemes ms)

end

theorem memberTrees_eq_map (members : List (Quoted × Phrase)) :
    memberTrees members = members.map fun m => (m.1.text, m.2.tree) := by
  induction members with
  | nil => rfl
  | cons m ms ih => rw [memberTrees, ih, List.map_cons]

theorem itemLexemes_cons (x y : Phrase) (xs : List Phrase) :
    itemLexemes (x :: y :: xs) = x.lexemes ++ .mark .comma :: itemLexemes (y :: xs) := by
  rw [itemLexemes]
  rintro ⟨⟩

theorem memberLexemes_cons (key : Quoted) (x : Phrase) (m : Quoted × Phrase)
    (ms : List (Quoted × Phrase)) :
    memberLexemes ((key, x) :: m :: ms) =
      .quoted key :: .mark .colon ::
        (x.lexemes ++ .mark .comma :: memberLexemes (m :: ms)) := by
  rw [memberLexemes]
  rintro ⟨⟩

end Phrase

/-! From a phrase its document is read. -/

/-- A text that is laid out from lexemes and others begins, past its blanks, with what is read as a
document, and is laid out from the others after that. -/
def Begins (t : Tree) (ls : List Lexeme) : Prop :=
  ∀ fuel more gs, ls.length ≤ fuel → LaidOut (ls ++ more) gs →
    ∃ rest, read? fuel (skipBlanks gs) = some (t, rest) ∧ LaidOut more rest

/-- Nothing begins with a blank or with a mark that opens nothing. -/
theorem read?_of_separator {c : Char} (hc : c ∈ separators) (hopen : c ∉ ['"', '[', '\x7b'])
    (fuel : Nat) (gs : List Glyph) : read? fuel (.char c :: gs) = none := by
  cases fuel with
  | zero => rfl
  | succ fuel =>
      simp only [separators, List.mem_cons, List.not_mem_nil, or_false] at hc
      rcases hc with rfl | rfl | rfl | rfl | rfl | rfl | rfl | rfl | rfl | rfl | rfl
      all_goals first | rfl | exact absurd (by decide) hopen

theorem begins_word {w : Word} {t : Tree} (h : read? 1 w.glyphs = some (t, [])) :
    Begins t [.word w] := by
  intro fuel more gs hfuel hgs
  obtain ⟨k, rfl⟩ := Nat.exists_eq_add_of_le' hfuel
  obtain ⟨rest, hskip, hparts, hrest⟩ := hgs.skipBlanks_of_cons
  rw [hskip]
  exact ⟨rest, read?_word h k (hparts w rfl), hrest⟩

theorem begins_quoted (q : Quoted) : Begins (.string q.text) [.quoted q] := by
  intro fuel more gs hfuel hgs
  obtain ⟨k, rfl⟩ := Nat.exists_eq_add_of_le' hfuel
  obtain ⟨rest, hskip, -, hrest⟩ := hgs.skipBlanks_of_cons
  refine ⟨rest, ?_, hrest⟩
  rw [hskip, Lexeme.glyphs, List.cons_append, List.length_singleton, read?, string?_quoted]
  rfl

theorem readItems?_phrases {xs : List Phrase} (hne : xs ≠ [])
    (hbegins : ∀ x ∈ xs, Begins x.tree x.lexemes) {fuel : Nat}
    (hfuel : (Phrase.itemLexemes xs).length < fuel) (done : List Tree) {more : List Lexeme}
    {gs : List Glyph}
    (hgs : LaidOut (Phrase.itemLexemes xs ++ .mark .closeBracket :: more) gs) :
    ∃ rest, readItems? fuel done (skipBlanks gs) =
        some (.array (done.reverse ++ Phrase.trees xs), rest) ∧ LaidOut more rest := by
  induction xs generalizing fuel done gs with
  | nil => exact absurd rfl hne
  | cons x xs ih =>
      obtain ⟨k, rfl⟩ : ∃ k, fuel = k + 1 := ⟨fuel - 1, by omega⟩
      have hx := hbegins x List.mem_cons_self
      cases xs with
      | nil =>
          obtain ⟨rest, hread, hrest⟩ := hx k _ gs (Nat.le_of_lt_succ hfuel) hgs
          obtain ⟨last, hskip, -, hlast⟩ := hrest.skipBlanks_of_cons
          refine ⟨last, ?_, hlast⟩
          rw [readItems?, hread]
          simp only [hskip]
          simp [Lexeme.glyphs, Mark.char, Phrase.trees]
      | cons y ys =>
          rw [Phrase.itemLexemes_cons] at hfuel hgs
          rw [List.length_append, List.length_cons] at hfuel
          rw [List.append_assoc, List.cons_append] at hgs
          obtain ⟨rest, hread, hrest⟩ := hx k _ gs (by omega) hgs
          obtain ⟨next, hskip, -, hnext⟩ := hrest.skipBlanks_of_cons
          obtain ⟨last, hitems, hlast⟩ := ih (List.cons_ne_nil y ys)
            (fun z hz => hbegins z (List.mem_cons_of_mem x hz)) (by omega : _ < k)
            (x.tree :: done) hnext
          refine ⟨last, ?_, hlast⟩
          rw [readItems?, hread]
          simp only [hskip]
          change readItems? k (x.tree :: done) (skipBlanks next) = _
          rw [hitems, List.reverse_cons, List.append_assoc]
          rfl

theorem begins_array {xs : List Phrase} (hbegins : ∀ x ∈ xs, Begins x.tree x.lexemes) :
    Begins (Phrase.array xs).tree (Phrase.array xs).lexemes := by
  intro fuel more gs hfuel hgs
  rw [Phrase.lexemes] at hfuel hgs
  rw [List.length_cons, List.length_append, List.length_singleton] at hfuel
  rw [List.cons_append, List.append_assoc, List.singleton_append] at hgs
  obtain ⟨k, rfl⟩ : ∃ k, fuel = k + 1 := ⟨fuel - 1, by omega⟩
  obtain ⟨first, hskip, -, hfirst⟩ := hgs.skipBlanks_of_cons
  rw [hskip]
  change ∃ rest, read? (k + 1) (.char '[' :: first) = _ ∧ _
  cases xs with
  | nil =>
      obtain ⟨rest, hclose, -, hrest⟩ := hfirst.skipBlanks_of_cons
      refine ⟨rest, ?_, hrest⟩
      rw [read?, hclose]
      rfl
  | cons x xs =>
      obtain ⟨rest, hitems, hrest⟩ := readItems?_phrases (List.cons_ne_nil x xs) hbegins
        (by omega : _ < k) [] hfirst
      refine ⟨rest, ?_, hrest⟩
      rw [read?]
      split
      -- no item begins with the closing bracket
      · rename_i heq
        obtain ⟨j, rfl⟩ : ∃ j, k = j + 1 := ⟨k - 1, by omega⟩
        rw [heq, readItems?, read?_of_separator (by decide) (by decide)] at hitems
        cases hitems
      · exact hitems

/-- What comes after a member: the end of the object, or the other members. -/
def readAfterMember? (fuel : Nat) (done : List (Option String × Tree)) :
    List Glyph → Option (Tree × List Glyph)
  | .char '}' :: rest => some (object done.reverse, rest)
  | .char ',' :: rest => readMembers? fuel done (skipBlanks rest)
  | _ => none

theorem readMembers?_phrase (key : Quoted) {x : Phrase} (hx : Begins x.tree x.lexemes) {fuel : Nat}
    (hfuel : x.lexemes.length ≤ fuel) (done : List (Option String × Tree)) {more : List Lexeme}
    {gs : List Glyph}
    (hgs : LaidOut (.quoted key :: .mark .colon :: (x.lexemes ++ more)) gs) :
    ∃ rest, readMembers? (fuel + 1) done (skipBlanks gs) =
        readAfterMember? fuel ((key.text, x.tree) :: done) (skipBlanks rest) ∧
      LaidOut more rest := by
  obtain ⟨middle, hkey, -, hmiddle⟩ := hgs.skipBlanks_of_cons
  obtain ⟨value, hcolon, -, hvalue⟩ := hmiddle.skipBlanks_of_cons
  obtain ⟨rest, hread, hrest⟩ := hx fuel more value hfuel hvalue
  refine ⟨rest, ?_, hrest⟩
  have hcolon' : skipBlanks middle = .char ':' :: value := hcolon
  rw [hkey, Lexeme.glyphs, List.cons_append, readMembers?, string?_quoted]
  simp only [hcolon', hread]
  rfl

theorem readMembers?_phrases {ms : List (Quoted × Phrase)} (hne : ms ≠ [])
    (hbegins : ∀ m ∈ ms, Begins m.2.tree m.2.lexemes) {fuel : Nat}
    (hfuel : (Phrase.memberLexemes ms).length < fuel) (done : List (Option String × Tree))
    {more : List Lexeme} {gs : List Glyph}
    (hgs : LaidOut (Phrase.memberLexemes ms ++ .mark .closeBrace :: more) gs) :
    ∃ rest, readMembers? fuel done (skipBlanks gs) =
        some (.object (done.reverse ++ Phrase.memberTrees ms), rest) ∧ LaidOut more rest := by
  induction ms generalizing fuel done gs with
  | nil => exact absurd rfl hne
  | cons m ms ih =>
      obtain ⟨key, x⟩ := m
      obtain ⟨k, rfl⟩ : ∃ k, fuel = k + 1 := ⟨fuel - 1, by omega⟩
      have hx : Begins x.tree x.lexemes := hbegins (key, x) List.mem_cons_self
      cases ms with
      | nil =>
          rw [Phrase.memberLexemes, List.length_cons, List.length_cons] at hfuel
          obtain ⟨rest, hread, hrest⟩ := readMembers?_phrase key hx (by omega : _ ≤ k) done hgs
          obtain ⟨last, hclose, -, hlast⟩ := hrest.skipBlanks_of_cons
          refine ⟨last, ?_, hlast⟩
          rw [hread, hclose]
          simp [readAfterMember?, Lexeme.glyphs, Mark.char, Phrase.memberTrees]
      | cons n ms =>
          rw [Phrase.memberLexemes_cons] at hfuel hgs
          rw [List.length_cons, List.length_cons, List.length_append, List.length_cons] at hfuel
          rw [List.cons_append, List.cons_append, List.append_assoc, List.cons_append] at hgs
          obtain ⟨rest, hread, hrest⟩ := readMembers?_phrase key hx (by omega : _ ≤ k) done hgs
          obtain ⟨next, hcomma, -, hnext⟩ := hrest.skipBlanks_of_cons
          obtain ⟨last, hmembers, hlast⟩ := ih (List.cons_ne_nil n ms)
            (fun m hm => hbegins m (List.mem_cons_of_mem _ hm)) (by omega : _ < k)
            ((key.text, x.tree) :: done) hnext
          refine ⟨last, ?_, hlast⟩
          rw [hread, hcomma]
          change readMembers? k ((key.text, x.tree) :: done) (skipBlanks next) = _
          rw [hmembers, List.reverse_cons, List.append_assoc]
          rfl

theorem begins_object {ms : List (Quoted × Phrase)}
    (hbegins : ∀ m ∈ ms, Begins m.2.tree m.2.lexemes) :
    Begins (Phrase.object ms).tree (Phrase.object ms).lexemes := by
  intro fuel more gs hfuel hgs
  rw [Phrase.lexemes] at hfuel hgs
  rw [List.length_cons, List.length_append, List.length_singleton] at hfuel
  rw [List.cons_append, List.append_assoc, List.singleton_append] at hgs
  obtain ⟨k, rfl⟩ : ∃ k, fuel = k + 1 := ⟨fuel - 1, by omega⟩
  obtain ⟨first, hskip, -, hfirst⟩ := hgs.skipBlanks_of_cons
  rw [hskip]
  change ∃ rest, read? (k + 1) (.char '\x7b' :: first) = _ ∧ _
  cases ms with
  | nil =>
      obtain ⟨rest, hclose, -, hrest⟩ := hfirst.skipBlanks_of_cons
      refine ⟨rest, ?_, hrest⟩
      rw [read?, hclose]
      rfl
  | cons m ms =>
      obtain ⟨rest, hmembers, hrest⟩ := readMembers?_phrases (List.cons_ne_nil m ms) hbegins
        (by omega : _ < k) [] hfirst
      refine ⟨rest, ?_, hrest⟩
      rw [read?]
      split
      · rename_i heq
        obtain ⟨j, rfl⟩ : ∃ j, k = j + 1 := ⟨k - 1, by omega⟩
        rw [heq, readMembers?] at hmembers
        cases hmembers
        rintro rest ⟨⟩
      · exact hmembers

theorem begins_phrase : ∀ x : Phrase, Begins x.tree x.lexemes
  | .word _ _ h => begins_word h
  | .quoted q => begins_quoted q
  | .array _ => begins_array fun x _ => begins_phrase x
  | .object _ => begins_object fun m _ => begins_phrase m.2
decreasing_by
  · have hsize := List.sizeOf_lt_of_mem ‹_›
    rw [Phrase.array.sizeOf_spec]
    omega
  · obtain ⟨key, x⟩ := m
    have hsize := List.sizeOf_lt_of_mem ‹_›
    rw [Prod.mk.sizeOf_spec] at hsize
    rw [Phrase.object.sizeOf_spec]
    dsimp only
    omega

/-! What is read is the document of a phrase. -/

/-- A text begins with the lexemes, and goes on with the rest. -/
def Covers (ls : List Lexeme) (gs rest : List Glyph) : Prop :=
  ∀ more, LaidOut more rest → LaidOut (ls ++ more) gs

namespace Covers

variable {ls others : List Lexeme} {gs middle rest : List Glyph}

theorem word (w : Word) (hend : Ended rest) : Covers [.word w] (w.glyphs ++ rest) rest :=
  fun _ h => .word w hend h

theorem quoted (q : Quoted) (rest : List Glyph) :
    Covers [.quoted q] (.char '"' :: (q.glyphs ++ rest)) rest :=
  fun _ h => .quoted q h

theorem cons_mark (m : Mark) (rest : List Glyph) : Covers [.mark m] (.char m.char :: rest) rest :=
  fun _ h => .mark m h

theorem of_skipBlanks (h : Covers ls (skipBlanks gs) rest) : Covers ls gs rest :=
  fun more hmore => (h more hmore).of_skipBlanks

theorem mark (m : Mark) (h : skipBlanks gs = .char m.char :: rest) : Covers [.mark m] gs rest :=
  of_skipBlanks (h ▸ cons_mark m rest)

theorem append (h : Covers ls gs middle) (h' : Covers others middle rest) :
    Covers (ls ++ others) gs rest := by
  intro more hmore
  rw [List.append_assoc]
  exact h _ (h' more hmore)

end Covers

/-- What is read with so much fuel up to the end of a word is the document of a phrase. -/
def Phrased (fuel : Nat) : Prop :=
  ∀ gs t rest, read? fuel gs = some (t, rest) → Ended rest →
    ∃ x : Phrase, x.tree = t ∧ Covers x.lexemes gs rest

theorem ended_of_mark {gs rest : List Glyph} {m : Mark} (h : skipBlanks gs = .char m.char :: rest) :
    Ended gs := by
  refine ended_of_skipBlanks ?_
  rw [h]
  exact Ended.cons (isWordGlyph_mark m) rest

theorem exists_items {fuel : Nat} (hphrased : ∀ k < fuel, Phrased k) {done : List Tree} {t : Tree}
    {gs rest : List Glyph} (h : readItems? fuel done gs = some (t, rest)) :
    ∃ x xs, t = .array (done.reverse ++ Phrase.trees (x :: xs)) ∧
      Covers (Phrase.itemLexemes (x :: xs) ++ [.mark .closeBracket]) gs rest := by
  induction fuel generalizing done gs with
  | zero => cases h
  | succ k ih =>
      rw [readItems?] at h
      split at h
      · cases h
      · rename_i t' middle hread
        split at h
        · rename_i hclose
          cases h
          obtain ⟨x, rfl, hx⟩ := hphrased k (Nat.lt_succ_self k) gs t' middle hread
            (ended_of_mark (m := .closeBracket) hclose)
          refine ⟨x, [], ?_, hx.append (Covers.mark .closeBracket hclose)⟩
          rw [List.reverse_cons]
          rfl
        · rename_i next hcomma
          obtain ⟨x, rfl, hx⟩ := hphrased k (Nat.lt_succ_self k) gs t' middle hread
            (ended_of_mark (m := .comma) hcomma)
          obtain ⟨y, ys, rfl, hys⟩ := ih (fun j hj => hphrased j (Nat.lt_succ_of_lt hj)) h
          refine ⟨x, y :: ys, ?_, ?_⟩
          · rw [List.reverse_cons, List.append_assoc]
            rfl
          · have hall := (hx.append (Covers.mark .comma hcomma)).append hys.of_skipBlanks
            rw [Phrase.itemLexemes_cons]
            simpa only [List.append_assoc, List.cons_append, List.nil_append] using hall
        · cases h

theorem exists_of_readMembers? {fuel : Nat} {done : List (Option String × Tree)} {t : Tree}
    {gs rest : List Glyph} (h : readMembers? (fuel + 1) done gs = some (t, rest)) :
    ∃ key value middle next last, gs = .char '"' :: middle ∧
      (∃ after, string? .start middle = some (key, after) ∧
        skipBlanks after = .char ':' :: next) ∧
      read? fuel (skipBlanks next) = some (value, last) ∧
      readAfterMember? fuel ((key, value) :: done) (skipBlanks last) = some (t, rest) := by
  rw [readMembers?.eq_def] at h
  dsimp only at h
  split at h
  · rename_i middle
    split at h
    · cases h
    · rename_i key after hkey
      split at h
      · rename_i next hcolon
        split at h
        · cases h
        · rename_i value last hvalue
          exact ⟨key, value, middle, next, last, rfl, ⟨after, hkey, hcolon⟩, hvalue, h⟩
      · cases h
  · cases h

theorem exists_members {fuel : Nat} (hphrased : ∀ k < fuel, Phrased k)
    {done : List (Option String × Tree)} {t : Tree} {gs rest : List Glyph}
    (h : readMembers? fuel done gs = some (t, rest)) :
    ∃ m ms, t = .object (done.reverse ++ Phrase.memberTrees (m :: ms)) ∧
      Covers (Phrase.memberLexemes (m :: ms) ++ [.mark .closeBrace]) gs rest := by
  induction fuel generalizing done gs with
  | zero => cases h
  | succ k ih =>
      obtain ⟨key, value, middle, next, last, rfl, ⟨after, hkey, hcolon⟩, hvalue, hlast⟩ :=
        exists_of_readMembers? h
      obtain ⟨q, rfl, rfl⟩ := exists_quoted_of_string? hkey
      have hname : Covers [.quoted q, .mark .colon] (.char '"' :: (q.glyphs ++ after)) next :=
        (Covers.quoted q after).append (Covers.mark .colon hcolon)
      unfold readAfterMember? at hlast
      split at hlast
      · rename_i hclose
        cases hlast
        obtain ⟨x, rfl, hx⟩ := hphrased k (Nat.lt_succ_self k) _ value last hvalue
          (ended_of_mark (m := .closeBrace) hclose)
        refine ⟨(q, x), [], ?_, ?_⟩
        · rw [List.reverse_cons]
          rfl
        · exact (hname.append hx.of_skipBlanks).append (Covers.mark .closeBrace hclose)
      · rename_i others hcomma
        obtain ⟨x, rfl, hx⟩ := hphrased k (Nat.lt_succ_self k) _ value last hvalue
          (ended_of_mark (m := .comma) hcomma)
        obtain ⟨m, ms, rfl, hms⟩ := ih (fun j hj => hphrased j (Nat.lt_succ_of_lt hj)) hlast
        refine ⟨(q, x), m :: ms, ?_, ?_⟩
        · rw [List.reverse_cons, List.append_assoc]
          rfl
        · have hall := ((hname.append hx.of_skipBlanks).append (Covers.mark .comma hcomma)).append
            hms.of_skipBlanks
          rw [Phrase.memberLexemes_cons]
          simpa only [List.append_assoc, List.cons_append, List.nil_append] using hall
      · cases hlast

theorem exists_array {fuel : Nat} (hphrased : ∀ k < fuel, Phrased k) {t : Tree}
    {gs rest : List Glyph} (h : read? (fuel + 1) (.char '[' :: gs) = some (t, rest)) :
    ∃ xs, t = .array (Phrase.trees xs) ∧
      Covers (Phrase.array xs).lexemes (.char '[' :: gs) rest := by
  have hopen : Covers [.mark .openBracket] (.char '[' :: gs) gs := Covers.cons_mark .openBracket gs
  rw [read?] at h
  split at h
  · rename_i hclose
    cases h
    exact ⟨[], rfl, hopen.append (Covers.mark .closeBracket hclose)⟩
  · obtain ⟨x, xs, rfl, hxs⟩ := exists_items hphrased h
    exact ⟨x :: xs, rfl, hopen.append hxs.of_skipBlanks⟩

theorem exists_object {fuel : Nat} (hphrased : ∀ k < fuel, Phrased k) {t : Tree}
    {gs rest : List Glyph} (h : read? (fuel + 1) (.char '\x7b' :: gs) = some (t, rest)) :
    ∃ ms, t = .object (Phrase.memberTrees ms) ∧
      Covers (Phrase.object ms).lexemes (.char '\x7b' :: gs) rest := by
  have hopen : Covers [.mark .openBrace] (.char '\x7b' :: gs) gs := Covers.cons_mark .openBrace gs
  rw [read?] at h
  split at h
  · rename_i hclose
    cases h
    exact ⟨[], rfl, hopen.append (Covers.mark .closeBrace hclose)⟩
  · obtain ⟨m, ms, rfl, hms⟩ := exists_members hphrased h
    exact ⟨m :: ms, rfl, hopen.append hms.of_skipBlanks⟩

theorem phrased (fuel : Nat) : Phrased fuel := by
  induction fuel using Nat.strongRecOn with
  | ind fuel ih =>
      intro gs t rest h hrest
      cases fuel with
      | zero => cases h
      | succ k =>
          have hphrased : ∀ j < k, Phrased j := fun j hj => ih j (Nat.lt_succ_of_lt hj)
          cases gs with
          | nil => cases h
          | cons g gs =>
              cases hg : isWordGlyph g with
              | true =>
                  obtain ⟨w, hw, hread⟩ := exists_word_of_read? hg h hrest
                  rw [hw]
                  exact ⟨.word w t hread, rfl, Covers.word w hrest⟩
              | false =>
                  -- what is no word is opened by a quotation mark, a bracket or a brace
                  obtain ⟨c, hc, rfl⟩ := isWordGlyph_eq_false_iff.mp hg
                  by_cases hopen : c ∈ ['"', '[', '\x7b']
                  · simp only [List.mem_cons, List.not_mem_nil, or_false] at hopen
                    rcases hopen with rfl | rfl | rfl
                    · obtain ⟨⟨text, after⟩, hread, heq⟩ := Option.map_eq_some_iff.mp h
                      cases heq
                      obtain ⟨q, rfl, rfl⟩ := exists_quoted_of_string? hread
                      exact ⟨.quoted q, rfl, Covers.quoted q after⟩
                    · obtain ⟨xs, rfl, hxs⟩ := exists_array hphrased h
                      exact ⟨.array xs, rfl, hxs⟩
                    · obtain ⟨ms, rfl, hms⟩ := exists_object hphrased h
                      exact ⟨.object ms, rfl, hms⟩
                  · rw [read?_of_separator hc hopen] at h
                    cases h

/-- A document is read from a text exactly if the text is laid out from a phrase with this
document. -/
theorem ofGlyphs?_eq_some_iff {gs : List Glyph} {t : Tree} :
    ofGlyphs? gs = some t ↔ ∃ x : Phrase, x.tree = t ∧ LaidOut x.lexemes gs := by
  constructor
  · intro h
    obtain ⟨⟨t', rest⟩, hread, hrest⟩ := Option.bind_eq_some_iff.mp h
    dsimp only at hrest
    split at hrest
    · rename_i hempty
      cases hrest
      have hskip : skipBlanks rest = [] := List.isEmpty_iff.mp hempty
      have hended : Ended rest := ended_of_skipBlanks (hskip ▸ Ended.nil)
      have hlaid : LaidOut [] rest := LaidOut.of_skipBlanks (hskip ▸ LaidOut.nil)
      obtain ⟨x, hx, hcovers⟩ := phrased _ _ t rest hread hended
      refine ⟨x, hx, ?_⟩
      have hall := hcovers.of_skipBlanks [] hlaid
      rwa [List.append_nil] at hall
    · cases hrest
  · rintro ⟨x, rfl, hlaid⟩
    have hlength := hlaid.length_le
    rw [← List.append_nil x.lexemes] at hlaid
    obtain ⟨rest, hread, hrest⟩ := begins_phrase x (2 * gs.length + 2) [] gs (by omega) hlaid
    rw [ofGlyphs?, hread, Option.bind_eq_bind, Option.bind_some]
    dsimp only
    rw [hrest.skipBlanks_of_nil]
    rfl

/-- A word spells no object. -/
theorem readWord?_ne_object {gs rest : List Glyph} {members : List (Option String × Tree)} :
    readWord? gs ≠ some (.object members, rest) := by
  have hnumber : ∀ negative gs,
      unsignedNumber? negative gs ≠ some (.object members, rest) := by
    intro negative gs h
    obtain ⟨_, -, h⟩ := Option.bind_eq_some_iff.mp h
    obtain ⟨_, -, h⟩ := Option.bind_eq_some_iff.mp h
    obtain ⟨_, -, h⟩ := Option.bind_eq_some_iff.mp h
    cases h
  intro h
  simp only [readWord?, onPrefix] at h
  split at h
  · cases h
  · split at h
    · cases h
    · split at h
      · cases h
      · split at h
        · exact hnumber true _ h
        · exact hnumber false _ h

theorem Phrase.exists_members_of_tree {x : Phrase} {members : List (Option String × Tree)}
    (h : x.tree = .object members) : ∃ ms, x = .object ms ∧ memberTrees ms = members := by
  cases x with
  | word w t reads =>
      rw [tree] at h
      subst h
      obtain ⟨g, gs, hw⟩ := List.exists_cons_of_ne_nil w.nonempty
      rw [hw, read?_eq_readWord? (w.unbroken g (hw ▸ List.mem_cons_self))] at reads
      exact absurd reads readWord?_ne_object
  | quoted q => cases h
  | array items => cases h
  | object ms =>
      cases h
      exact ⟨ms, rfl, rfl⟩

end Tree

end IntentProvider.Json
