import IntentProvider.Text.Blank
import IntentProvider.Text.Radix
import IntentProvider.Time.Instant

/-!
Instants as text after RFC 3339. Writing is canonical: universal time with `Z`, and three, six or
nine digits of a fraction, or none. Reading is lenient: blanks around every number, numbers with
fewer digits, signed years of any length, a small `t` or `z`, a blank in place of `T`, an offset
without colon, and second 60.
-/

namespace IntentProvider.Time

open IntentProvider.Text

namespace Rfc3339

/-- A number written with at least `width` digits. -/
def pad (width n : Nat) : List Char :=
  let ds := Nat.toDigits 10 n
  List.replicate (width - ds.length) '0' ++ ds

/-- A year: four digits, or a sign and at least four digits outside the first ten thousand years. -/
def renderYear (year : Int) : List Char :=
  if 0 ≤ year ∧ year ≤ 9999 then pad 4 year.natAbs
  else (if year < 0 then '-' else '+') :: pad 4 year.natAbs

/-- A fraction of a second in the fewest of zero, three, six or nine digits. -/
def renderFraction (nano : Nat) : List Char :=
  if nano = 0 then []
  else if nano % 1000000 = 0 then '.' :: pad 3 (nano / 1000000)
  else if nano % 1000 = 0 then '.' :: pad 6 (nano / 1000)
  else '.' :: pad 9 nano

/-- The canonical text of an instant. -/
def render (t : Instant) : List Char :=
  let leap := decide (1000000000 ≤ t.nano)
  let second := t.second % 60 + (if leap then 1 else 0)
  let nano := if leap then t.nano - 1000000000 else t.nano
  renderYear t.date.year ++ '-' :: pad 2 t.date.month ++ '-' :: pad 2 t.date.day ++
    'T' :: pad 2 (t.second / 3600) ++ ':' :: pad 2 (t.second / 60 % 60) ++ ':' :: pad 2 second ++
    renderFraction nano ++ ['Z']

/-- The value of a decimal digit. -/
def digit? (c : Char) : Option Nat :=
  Radix.digit? 10 c

/-- At most `most` digits that continue the number `n`, their count, and what follows. -/
def moreDigits (n count : Nat) : Nat → List Char → Nat × Nat × List Char
  | 0, cs => (n, count, cs)
  | _ + 1, [] => (n, count, [])
  | most + 1, c :: cs =>
    match digit? c with
    | some d => moreDigits (n * 10 + d) (count + 1) most cs
    | none => (n, count, c :: cs)

/-- A number of one to `most` digits, the count of its digits, and what follows. -/
def digits? (most : Nat) (cs : List Char) : Option (Nat × Nat × List Char) :=
  let (n, count, rest) := moreDigits 0 0 most cs
  if count = 0 then none else some (n, count, rest)

/-- A number of one or two digits within bounds, after any blanks. -/
def bounded? (least greatest : Nat) (cs : List Char) : Option (Nat × List Char) := do
  let (n, _, rest) ← digits? 2 (trimStart cs)
  if least ≤ n && n ≤ greatest then some (n, rest) else none

/-- A year after any blanks: up to four digits, or a sign and any number of them. -/
def year? (cs : List Char) : Option (Int × List Char) :=
  match trimStart cs with
  | '-' :: cs => (digits? cs.length cs).map fun (n, _, rest) => (-(n : Int), rest)
  | '+' :: cs => (digits? cs.length cs).map fun (n, _, rest) => ((n : Int), rest)
  | cs => (digits? 4 cs).map fun (n, _, rest) => ((n : Int), rest)

/-- What follows a mark, which may have blanks before it. -/
def mark? (c : Char) (cs : List Char) : Option (List Char) :=
  match trimStart cs with
  | d :: rest => if d = c then some rest else none
  | [] => none

/-- The nanoseconds of a fraction, if a point comes next. Digits after the ninth are dropped. -/
def fraction? : List Char → Option (Nat × List Char)
  | '.' :: cs => do
    let (n, count, rest) ← digits? 9 cs
    some (n * Nat.pow 10 (9 - count), rest.dropWhile fun c => (digit? c).isSome)
  | cs => some (0, cs)

/-- The two digits of a part of an offset. -/
def pair? : List Char → Option (Nat × Nat)
  | a :: b :: _ => do
    let a ← digit? a
    let b ← digit? b
    some (a, b)
  | _ => none

/-- The seconds of an offset after its sign: two digits of hours, then two of minutes below sixty.
Colons and blanks may stand between them. -/
def unsignedOffset? (cs : List Char) : Option (Nat × List Char) := do
  let (h, h') ← pair? cs
  let rest := (cs.drop 2).dropWhile fun c => c == ':' || isBlank c
  let (m, m') ← pair? rest
  if m < 6 then some ((h * 10 + h') * 3600 + (m * 10 + m') * 60, rest.drop 2) else none

/-- The offset at the end of an instant: a sign and a time, `Z`, or `UTC` in any case. -/
def offset? (cs : List Char) : Option (Int × List Char) :=
  match trimStart cs with
  | a :: b :: c :: rest =>
    if [a, b, c].map Char.toUpper = ['U', 'T', 'C'] then some (0, rest)
    else named (a :: b :: c :: rest)
  | cs => named cs
where
  /-- An offset that is not `UTC`. -/
  named : List Char → Option (Int × List Char)
  | 'Z' :: rest => some (0, rest)
  | 'z' :: rest => some (0, rest)
  | '+' :: cs => (unsignedOffset? cs).map fun (n, rest) => ((n : Int), rest)
  | '-' :: cs => (unsignedOffset? cs).map fun (n, rest) => (-(n : Int), rest)
  | '−' :: cs => (unsignedOffset? cs).map fun (n, rest) => (-(n : Int), rest)
  | _ => none

/-- What follows the mark between the date and the time. -/
def separator? : List Char → Option (List Char)
  | 'T' :: rest => some rest
  | 't' :: rest => some rest
  | ' ' :: rest => some rest
  | _ => none

/-- The instant that a text denotes. -/
def read? (cs : List Char) : Option Instant := do
  let (year, cs) ← year? cs
  let cs ← mark? '-' cs
  let (month, cs) ← bounded? 1 12 cs
  let cs ← mark? '-' cs
  let (day, cs) ← bounded? 1 31 cs
  let cs ← separator? cs
  let (hour, cs) ← bounded? 0 23 cs
  let cs ← mark? ':' cs
  let (minute, cs) ← bounded? 0 59 cs
  let cs ← mark? ':' cs
  let (second, cs) ← bounded? 0 60 cs
  let (nano, cs) ← fraction? cs
  let (offset, cs) ← offset? cs
  if (trimStart cs).isEmpty then
    let leap := second == 60
    Instant.ofLocal? ⟨year, month, day⟩ (hour * 3600 + minute * 60 + (if leap then 59 else second))
      (if leap then nano + 1000000000 else nano) offset
  else none

end Rfc3339

namespace Instant

/-- The canonical text of an instant. -/
def text (t : Instant) : String :=
  String.ofList (Rfc3339.render t)

end Instant

end IntentProvider.Time
