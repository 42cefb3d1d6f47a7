import IntentProvider.Text.Radix
import IntentProvider.Text.Split

/-!
Sets of code points, given by the lines of a table. A line consists of fields with blanks between
them; a field is a code point in hexadecimal digits, or two with a hyphen between them, which stand
for the range that they bound.
-/

namespace IntentProvider.Text

/-- A set of code points, as ranges that include both their ends. -/
abbrev CodePoints := List (Nat × Nat)

namespace CodePoints

/-- The number that hexadecimal digits denote. -/
def number (digits : List Char) : Nat :=
  digits.foldl (fun n c => 16 * n + (Radix.digit? 16 c).getD 0) 0

/-- The fields of the lines of a table. -/
def fields (lines : List String) : List (List Char) :=
  lines.flatMap fun line => splitAt ' ' line.toList

/-- The range that a field stands for. -/
def range (field : List Char) : Nat × Nat :=
  let first := number (field.takeWhile (· != '-'))
  match field.dropWhile (· != '-') with
  | _ :: last => (first, number last)
  | [] => (first, first)

/-- The set that the lines of a table give. -/
def ofLines (lines : List String) : CodePoints :=
  (fields lines).map range

/-- Whether a set has a code point. -/
def has (s : CodePoints) (n : Nat) : Bool :=
  s.any fun r => r.1 ≤ n && n ≤ r.2

end CodePoints

end IntentProvider.Text
