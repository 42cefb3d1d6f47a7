/-!
Punycode (RFC 3492), which writes any text in ASCII: first its ASCII characters, then where the
others go, in the order of their code points. A place is given by how many places are passed over
since the last one, as a number whose digits have the base 36, the least digit first. A digit below
the threshold of its position ends a number; the thresholds follow the numbers before it.
-/

namespace IntentProvider.DomainName.Punycode

/-- The digit of a value below 36: a letter, or one of the ten digits from 26 on. -/
def digitChar (d : Nat) : Char :=
  if d < 26 then Char.ofNat ('a'.toNat + d) else Char.ofNat ('0'.toNat + (d - 26))

/-- The value of a digit, in either case. -/
def digit? (c : Char) : Option Nat :=
  if 'a' ≤ c && c ≤ 'z' then some (c.toNat - 'a'.toNat)
  else if 'A' ≤ c && c ≤ 'Z' then some (c.toNat - 'A'.toNat)
  else if '0' ≤ c && c ≤ '9' then some (c.toNat - '0'.toNat + 26)
  else none

/-- The threshold at a position, which is a multiple of 36, between 1 and 26. -/
def threshold (bias position : Nat) : Nat :=
  max 1 (min 26 (position - bias))

theorem threshold_pos (bias position : Nat) : 0 < threshold bias position := by
  simp only [threshold]
  omega

/-- How often a number is divided by 35 before it is at most 455, and what is left of it. -/
def shrink (delta : Nat) : Nat × Nat :=
  if 455 < delta then
    let r := shrink (delta / 35)
    (r.1 + 1, r.2)
  else (0, delta)
termination_by delta
decreasing_by exact Nat.div_lt_self (by omega) (by omega)

/-- The bias after a number, when the text has `size` characters, of which the number placed the
first one or a later one. -/
def adapt (delta size : Nat) (first : Bool) : Nat :=
  let delta := if first then delta / 700 else delta / 2
  let (times, rest) := shrink (delta + delta / size)
  36 * times + 36 * rest / (rest + 38)

/-- The digits of a number from a position on. -/
def digits (bias position n : Nat) : List Char :=
  let t := threshold bias position
  if n < t then [digitChar n]
  else digitChar (t + (n - t) % (36 - t)) :: digits bias (position + 36) ((n - t) / (36 - t))
termination_by n
decreasing_by
  have := threshold_pos bias position
  have := Nat.div_le_self (n - threshold bias position) (36 - threshold bias position)
  omega

/-- What encoding keeps while it goes through a text. -/
structure Progress where
  /-- The digits so far. -/
  written : List Char := []
  /-- The places passed over since the last number. -/
  delta : Nat := 0
  bias : Nat := 72
  /-- How many characters have their places. -/
  placed : Nat

/-- Passes over a character that has its place, or writes the place of one with the code point `n`.
The text has `basic` characters of ASCII. -/
def Progress.pass (basic n : Nat) (p : Progress) (c : Char) : Progress :=
  if c.toNat < n then { p with delta := p.delta + 1 }
  else if c.toNat = n then
    { written := p.written ++ digits p.bias 36 p.delta
      delta := 0
      bias := adapt p.delta (p.placed + 1) (p.placed == basic)
      placed := p.placed + 1 }
  else p

/-- Writes the places of the characters with the given code points, which ascend from `least`. -/
def Progress.writeAll (text : List Char) (basic least : Nat) (p : Progress) : List Nat → Progress
  | [] => p
  | n :: rest =>
    let p := text.foldl (pass basic n) { p with delta := p.delta + (n - least) * (p.placed + 1) }
    Progress.writeAll text basic (n + 1) { p with delta := p.delta + 1 } rest

/-- The code points of a text after ASCII, each once, in ascending order. -/
def codePoints (text : List Char) : List Nat :=
  ((text.map Char.toNat).filter (0x80 ≤ ·)).mergeSort.eraseDups

/-- A text in ASCII. A hyphen separates its ASCII characters, if there are any, from the digits. -/
def encode (text : List Char) : List Char :=
  let basic := text.filter (·.toNat < 0x80)
  let start : Progress := { placed := basic.length }
  (if basic.isEmpty then [] else basic ++ ['-']) ++
    (start.writeAll text basic.length 0x80 (codePoints text)).written

/-- Reads a number from a position on, each digit of which counts `weight` times, and adds it to
`n`. -/
def number? (bias position weight n : Nat) : List Char → Option (Nat × List Char)
  | [] => none
  | c :: cs => do
    let d ← digit? c
    let t := threshold bias position
    if d < t then some (n + d * weight, cs)
    else number? bias (position + 36) (weight * (36 - t)) (n + d * weight) cs

theorem length_of_number? {bias position weight n m : Nat} {cs rest : List Char}
    (h : number? bias position weight n cs = some (m, rest)) : rest.length < cs.length := by
  induction cs generalizing position weight n with
  | nil => simp [number?] at h
  | cons c cs ih =>
      simp only [number?, Option.bind_eq_bind, Option.bind_eq_some_iff] at h
      obtain ⟨d, -, h⟩ := h
      split at h
      · simp_all
      · exact Nat.lt_succ_of_lt (ih h)

/-- Puts the characters that the digits place into a text. The last one had the code point `least`,
and the next place counts from `place`. -/
def insertAll? (bias least place : Nat) (text digits : List Char) : Option (List Char) :=
  if digits.isEmpty then some text
  else
    match _h : number? bias 36 1 place digits with
    | none => none
    | some (n, rest) =>
      let size := text.length + 1
      let c := least + n / size
      if c.isValidChar then
        insertAll? (adapt (n - place) size (place == 0)) c (n % size + 1)
          (text.insertIdx (n % size) (Char.ofNat c)) rest
      else none
termination_by digits.length
decreasing_by exact length_of_number? _h

/-- The text that is written in ASCII. -/
def decode? (written : List Char) : Option (List Char) :=
  match written.reverse.dropWhile (· != '-') with
  | _ :: c :: cs =>
    insertAll? 72 0x80 0 (c :: cs).reverse (written.reverse.takeWhile (· != '-')).reverse
  | _ => insertAll? 72 0x80 0 [] written

example : encode ['b', 'ü', 'c', 'h', 'e', 'r'] = "bcher-kva".toList := by cbv

example : decode? "bcher-kva".toList = some ['b', 'ü', 'c', 'h', 'e', 'r'] := by cbv

end IntentProvider.DomainName.Punycode
