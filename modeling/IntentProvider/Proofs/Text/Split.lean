import IntentProvider.Text.Split

/-!
Cutting a text into fields undoes joining them, and joining the fields of a text gives it back.
-/

namespace IntentProvider.Text

variable {sep : Char}

theorem splitAt_cons_self (sep : Char) (cs : List Char) :
    splitAt sep (sep :: cs) = [] :: splitAt sep cs := by
  rw [splitAt, if_pos rfl]

theorem splitAt_cons_of_ne {c : Char} (hc : c ≠ sep) {cs field : List Char}
    {fields : List (List Char)} (h : splitAt sep cs = field :: fields) :
    splitAt sep (c :: cs) = (c :: field) :: fields := by
  rw [splitAt, if_neg hc, h]

theorem splitAt_append (sep : Char) (before after : List Char) :
    splitAt sep (before ++ sep :: after) = splitAt sep before ++ splitAt sep after := by
  induction before with
  | nil => exact splitAt_cons_self sep after
  | cons c cs ih =>
      by_cases hc : c = sep
      · subst hc
        rw [List.cons_append, splitAt_cons_self, ih, splitAt_cons_self, List.cons_append]
      · cases hfields : splitAt sep cs with
        | nil => exact absurd hfields (splitAt_ne_nil sep cs)
        | cons field fields =>
            rw [hfields, List.cons_append] at ih
            rw [List.cons_append, splitAt_cons_of_ne hc ih, splitAt_cons_of_ne hc hfields,
              List.cons_append]

theorem splitAt_of_not_mem {cs : List Char} (h : sep ∉ cs) : splitAt sep cs = [cs] := by
  induction cs with
  | nil => rfl
  | cons c cs ih =>
      have hc : c ≠ sep := fun hc => h (hc ▸ List.mem_cons_self)
      exact splitAt_cons_of_ne hc (ih (List.not_mem_of_not_mem_cons h))

theorem not_mem_of_mem_splitAt {cs field : List Char} (h : field ∈ splitAt sep cs) :
    sep ∉ field := by
  induction cs generalizing field with
  | nil =>
      rw [splitAt, List.mem_singleton] at h
      simp [h]
  | cons c cs ih =>
      by_cases hc : c = sep
      · rw [hc, splitAt_cons_self, List.mem_cons] at h
        rcases h with rfl | h
        · exact List.not_mem_nil
        · exact ih h
      · cases hfields : splitAt sep cs with
        | nil => exact absurd hfields (splitAt_ne_nil sep cs)
        | cons first fields =>
            rw [hfields] at ih
            rw [splitAt_cons_of_ne hc hfields, List.mem_cons] at h
            rcases h with rfl | h
            · exact List.not_mem_cons_of_ne_of_not_mem (Ne.symm hc) (ih List.mem_cons_self)
            · exact ih (List.mem_cons_of_mem _ h)

theorem flatMap_splitAt (sep : Char) (cs : List Char) :
    (splitAt sep cs).flatMap (sep :: ·) = sep :: cs := by
  induction cs with
  | nil => rfl
  | cons c cs ih =>
      by_cases hc : c = sep
      · rw [hc, splitAt_cons_self, List.flatMap_cons, ih]
        rfl
      · cases hfields : splitAt sep cs with
        | nil => exact absurd hfields (splitAt_ne_nil sep cs)
        | cons field fields =>
            rw [hfields, List.flatMap_cons] at ih
            have hrest : field ++ fields.flatMap (sep :: ·) = cs := List.tail_eq_of_cons_eq ih
            rw [splitAt_cons_of_ne hc hfields, List.flatMap_cons, List.cons_append,
              List.cons_append, hrest]

theorem mem_of_mem_splitAt {cs field : List Char} (h : field ∈ splitAt sep cs) {c : Char}
    (hc : c ∈ field) : c ∈ cs := by
  have hmem : c ∈ (splitAt sep cs).flatMap (sep :: ·) :=
    List.mem_flatMap.mpr ⟨field, h, List.mem_cons_of_mem sep hc⟩
  rw [flatMap_splitAt, List.mem_cons] at hmem
  refine hmem.resolve_left ?_
  rintro rfl
  exact not_mem_of_mem_splitAt h hc

theorem splitAt_join {field : List Char} {fields : List (List Char)}
    (h : ∀ f ∈ field :: fields, sep ∉ f) :
    splitAt sep (field ++ fields.flatMap (sep :: ·)) = field :: fields := by
  induction fields generalizing field with
  | nil =>
      rw [List.flatMap_nil, List.append_nil]
      exact splitAt_of_not_mem (h field List.mem_cons_self)
  | cons next rest ih =>
      rw [List.flatMap_cons, List.cons_append, splitAt_append,
        splitAt_of_not_mem (h field List.mem_cons_self),
        ih fun f hf => h f (List.mem_cons_of_mem _ hf)]
      rfl

end IntentProvider.Text
