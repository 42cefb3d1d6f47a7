import IntentProvider.Proofs.Json.Grammar
import IntentProvider.Proofs.Json.Value

/-!
Reading undoes writing: the text of a value whose numbers are integers is laid out from a phrase
with the document of this value, so this document is read from it.
-/

namespace IntentProvider.Json

open IntentProvider.Text

namespace Tree

/-- The text of a value is the text of a phrase with its document. -/
def Spelled (v : Value) : Prop :=
  ∃ x : Phrase, x.tree = ofValue v ∧
    ∀ rest, Ended rest → Covers x.lexemes (Glyph.ofChars v.render ++ rest) rest

theorem isWordGlyph_of_isDigit {c : Char} (h : c.isDigit) : isWordGlyph (.char c) = true := by
  have hseparators : separators.all (fun c => !c.isDigit) = true := by decide
  cases hc : isWordGlyph (.char c) with
  | true => rfl
  | false =>
      obtain ⟨d, hd, heq⟩ := isWordGlyph_eq_false_iff.mp hc
      cases heq
      have hdigit := List.all_eq_true.mp hseparators c hd
      rw [h] at hdigit
      cases hdigit

theorem spelled_of_word {v : Value} (hword : (Glyph.ofChars v.render).all isWordGlyph = true)
    (hread : read? 1 (Glyph.ofChars v.render) = some (ofValue v, [])) : Spelled v := by
  have hne : Glyph.ofChars v.render ≠ [] := by
    intro h
    rw [h] at hread
    cases hread
  let w : Word := ⟨Glyph.ofChars v.render, hne, List.all_eq_true.mp hword⟩
  exact ⟨.word w (ofValue v) hread, rfl, fun rest hrest => Covers.word w hrest⟩

theorem spelled_int (value : Int) (fits : FitsWord value) :
    Spelled (.number (.int value fits)) := by
  have hdigits : ∀ c ∈ Nat.toDigits 10 value.natAbs, isWordGlyph (.char c) = true := fun c hc =>
    isWordGlyph_of_isDigit (Nat.isDigit_of_mem_toDigits (by decide) (by decide) hc)
  apply spelled_of_word
  · rw [Glyph.ofChars, List.all_map, List.all_eq_true]
    intro c hc
    rw [Value.render, Number.render, Number.renderInt] at hc
    split at hc
    · rcases List.mem_cons.mp hc with rfl | hc
      · rfl
      · exact hdigits c hc
    · exact hdigits c hc
  · rw [Value.render, Number.render]
    exact read?_renderInt value fits

theorem spelled_minusZero : Spelled (.number (.real 0x8000000000000000)) := by
  have hrender : Value.render (.number (.real 0x8000000000000000)) = ['-', '0', '.', '0'] :=
    render_minusZero
  apply spelled_of_word
  · rw [hrender]
    rfl
  · rw [hrender]
    exact unsignedNumber?_minusZero

theorem spelled_string (s : String) : Spelled (.string s) := by
  obtain ⟨gs, hquote, hread⟩ := string?_quote s []
  rw [List.append_nil] at hquote
  refine ⟨.quoted ⟨gs, some s, hread⟩, rfl, fun rest _ => ?_⟩
  rw [Value.render, hquote]
  exact Covers.quoted ⟨gs, some s, hread⟩ rest

theorem exists_items_of_render {vs : List Value} (hne : vs ≠ []) (h : ∀ v ∈ vs, Spelled v) :
    ∃ x xs, Phrase.trees (x :: xs) = ofValues vs ∧
      ∀ rest, Covers (Phrase.itemLexemes (x :: xs) ++ [.mark .closeBracket])
        (Glyph.ofChars (Value.renderItems vs) ++ .char ']' :: rest) rest := by
  induction vs with
  | nil => exact absurd rfl hne
  | cons v vs ih =>
      obtain ⟨x, hx, hcovers⟩ := h v List.mem_cons_self
      cases vs with
      | nil =>
          refine ⟨x, [], by rw [Phrase.trees, hx]; rfl, fun rest => ?_⟩
          exact (hcovers _ (Ended.cons rfl rest)).append (Covers.cons_mark .closeBracket _)
      | cons w vs =>
          obtain ⟨y, ys, hys, hothers⟩ := ih (List.cons_ne_nil w vs)
            fun u hu => h u (List.mem_cons_of_mem v hu)
          have hitems : Value.renderItems (v :: w :: vs) =
              v.render ++ ',' :: Value.renderItems (w :: vs) := by
            rw [Value.renderItems]
            rintro ⟨⟩
          refine ⟨x, y :: ys, by rw [Phrase.trees, hx, hys]; rfl, fun rest => ?_⟩
          have hall := (hcovers _ (Ended.cons rfl _)).append
            ((Covers.cons_mark .comma _).append (hothers rest))
          rw [Phrase.itemLexemes_cons, hitems, ofChars_append, ofChars_cons]
          simpa only [List.append_assoc, List.cons_append, List.nil_append, Mark.char] using hall

theorem spelled_array {vs : List Value} (h : ∀ v ∈ vs, Spelled v) : Spelled (.array vs) := by
  rw [Spelled, Value.render, ofChars_cons, ofChars_append]
  cases vs with
  | nil =>
      refine ⟨.array [], rfl, fun rest _ => ?_⟩
      exact (Covers.cons_mark .openBracket _).append (Covers.cons_mark .closeBracket rest)
  | cons v vs =>
      obtain ⟨x, xs, hxs, hcovers⟩ := exists_items_of_render (List.cons_ne_nil v vs) h
      refine ⟨.array (x :: xs), congrArg Tree.array hxs, fun rest _ => ?_⟩
      rw [List.cons_append, List.append_assoc]
      exact (Covers.cons_mark .openBracket _).append (hcovers rest)

theorem covers_member {k : String} {gs rest : List Glyph}
    (hquote : Glyph.ofChars (Value.quote k) = .char '"' :: gs)
    (hread : string? .start gs = some (some k, [])) {x : Phrase} {v : Value}
    (hx : Covers x.lexemes (Glyph.ofChars v.render ++ rest) rest) :
    Covers (.quoted ⟨gs, some k, hread⟩ :: .mark .colon :: x.lexemes)
      (Glyph.ofChars (Value.quote k ++ ':' :: v.render) ++ rest) rest := by
  rw [ofChars_append, ofChars_cons, hquote, List.append_assoc, List.cons_append, List.cons_append]
  exact (Covers.quoted _ _).append ((Covers.cons_mark .colon _).append hx)

theorem exists_members_of_render {ms : List (String × Value)} (hne : ms ≠ [])
    (h : ∀ m ∈ ms, Spelled m.2) :
    ∃ m others, Phrase.memberTrees (m :: others) = ofMembers ms ∧
      ∀ rest, Covers (Phrase.memberLexemes (m :: others) ++ [.mark .closeBrace])
        (Glyph.ofChars (Value.renderMembers ms) ++ .char '\x7d' :: rest) rest := by
  induction ms with
  | nil => exact absurd rfl hne
  | cons m ms ih =>
      obtain ⟨k, v⟩ := m
      obtain ⟨x, hx, hcovers⟩ : Spelled v := h (k, v) List.mem_cons_self
      obtain ⟨gs, hquote, hread⟩ := string?_quote k []
      rw [List.append_nil] at hquote
      have hmember := fun rest hrest => covers_member hquote hread (hcovers rest hrest)
      cases ms with
      | nil =>
          refine ⟨(⟨gs, some k, hread⟩, x), [], by rw [Phrase.memberTrees, hx]; rfl,
            fun rest => ?_⟩
          exact (hmember _ (Ended.cons rfl rest)).append (Covers.cons_mark .closeBrace _)
      | cons n ms =>
          obtain ⟨p, ps, hps, hothers⟩ := ih (List.cons_ne_nil n ms)
            fun u hu => h u (List.mem_cons_of_mem _ hu)
          have hmembers : Value.renderMembers ((k, v) :: n :: ms) =
              (Value.quote k ++ ':' :: v.render) ++ ',' :: Value.renderMembers (n :: ms) := by
            rw [Value.renderMembers]
            · simp
            · rintro ⟨⟩
          refine ⟨(⟨gs, some k, hread⟩, x), p :: ps, by rw [Phrase.memberTrees, hx, hps]; rfl,
            fun rest => ?_⟩
          have hall := (hmember _ (Ended.cons rfl _)).append
            ((Covers.cons_mark .comma _).append (hothers rest))
          rw [Phrase.memberLexemes_cons, hmembers, ofChars_append, ofChars_cons]
          simpa only [List.append_assoc, List.cons_append, List.nil_append, Mark.char] using hall

theorem spelled_object {ms : List (String × Value)} (h : ∀ m ∈ ms, Spelled m.2) :
    Spelled (.object ms) := by
  rw [Spelled, Value.render, ofChars_cons, ofChars_append]
  cases ms with
  | nil =>
      refine ⟨.object [], rfl, fun rest _ => ?_⟩
      exact (Covers.cons_mark .openBrace _).append (Covers.cons_mark .closeBrace rest)
  | cons m ms =>
      obtain ⟨p, ps, hps, hcovers⟩ := exists_members_of_render (List.cons_ne_nil m ms) h
      refine ⟨.object (p :: ps), congrArg Tree.object hps, fun rest _ => ?_⟩
      rw [List.cons_append, List.append_assoc]
      exact (Covers.cons_mark .openBrace _).append (hcovers rest)

theorem spelled {v : Value} (h : v.Whole) : Spelled v := by
  induction h with
  | null => exact spelled_of_word rfl rfl
  | bool b => cases b <;> exact spelled_of_word rfl rfl
  | number hn =>
      cases hn with
      | int value fits => exact spelled_int value fits
      | minusZero => exact spelled_minusZero
  | string s => exact spelled_string s
  | array _ ih => exact spelled_array ih
  | object _ ih => exact spelled_object ih

/-- From the text of a value the document of this value is read. -/
theorem ofText?_text {v : Value} (h : v.Whole) : ofText? v.text = some (ofValue v) := by
  obtain ⟨x, hx, hcovers⟩ := spelled h
  have hlaid := hcovers [] Ended.nil [] .nil
  rw [List.append_nil, List.append_nil] at hlaid
  rw [ofText?, Value.text, String.toList_ofList]
  exact ofGlyphs?_eq_some_iff.mpr ⟨x, hx, hlaid⟩

end Tree

end IntentProvider.Json
