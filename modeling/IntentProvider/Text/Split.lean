/-!
Cutting a text into fields at every occurrence of a separator.
-/

namespace IntentProvider.Text

/-- The fields between the occurrences of a separator, one more than there are occurrences. -/
def splitAt (sep : Char) : List Char → List (List Char)
  | [] => [[]]
  | c :: cs =>
    if c = sep then [] :: splitAt sep cs
    else
      match splitAt sep cs with
      | [] => [[c]]
      | field :: fields => (c :: field) :: fields

theorem splitAt_ne_nil (sep : Char) (cs : List Char) : splitAt sep cs ≠ [] := by
  cases cs with
  | nil => simp [splitAt]
  | cons c cs =>
      simp only [splitAt]
      split
      · simp
      · split <;> simp

end IntentProvider.Text
