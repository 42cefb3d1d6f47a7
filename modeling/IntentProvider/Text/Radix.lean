/-!
Natural numbers written in a base from two to sixteen, with an upper limit. Reading is strict about
digits and about the limit: a value at or above it is refused, never reduced.
-/

namespace IntentProvider.Text.Radix

/-- The value of a digit of a base up to sixteen, in either case. -/
def digit? (base : Nat) (c : Char) : Option Nat :=
  let v :=
    if '0' ≤ c && c ≤ '9' then some (c.toNat - '0'.toNat)
    else if 'a' ≤ c && c ≤ 'f' then some (c.toNat - 'a'.toNat + 10)
    else if 'A' ≤ c && c ≤ 'F' then some (c.toNat - 'A'.toNat + 10)
    else none
  v.filter (· < base)

/-- The number that `n` followed by some digits denotes, as long as it stays below `limit`. -/
def continue? (base limit : Nat) : Nat → List Char → Option Nat
  | n, [] => some n
  | n, c :: cs => do
    let d ← digit? base c
    let n' := n * base + d
    if n' < limit then continue? base limit n' cs else none

/-- A number of at least one digit, possibly after a plus sign. -/
def read? (base limit : Nat) : List Char → Option Nat
  | [] => none
  | '+' :: cs => if cs.isEmpty then none else continue? base limit 0 cs
  | cs => continue? base limit 0 cs

/-- The digit of a value below sixteen, in lower case. -/
def digitChar (d : Nat) : Char :=
  if d < 10 then Char.ofNat ('0'.toNat + d) else Char.ofNat ('a'.toNat + (d - 10))

/-- The last `width` digits of `n`, most significant first. -/
def padded (base : Nat) : Nat → Nat → List Char
  | 0, _ => []
  | width + 1, n => padded base width (n / base) ++ [digitChar (n % base)]

theorem padded_length (base width n : Nat) : (padded base width n).length = width := by
  induction width generalizing n with
  | zero => rfl
  | succ width ih => simp [padded, ih]

end IntentProvider.Text.Radix
