import IntentProvider.Text.Radix
import IntentProvider.Text.Split

/-!
IPv6 addresses: eight groups of up to four hexadecimal digits with colons between them. Two colons
stand once for one or more groups of zeros, and four decimal numbers may stand for the last two
groups. An address is written with the longest run of zeros left out, the first of the longest, if
it is of more than one group.
-/

namespace IntentProvider.Http.Ipv6

open IntentProvider.Text

/-- A group of hexadecimal digits. -/
def group? (cs : List Char) : Option UInt16 :=
  if cs.isEmpty || 4 < cs.length then none
  else (Radix.continue? 16 0x10000 0 cs).map UInt16.ofNat

/-- One of four decimal numbers, which has no zero in front. -/
def octet? (cs : List Char) : Option Nat :=
  if cs.isEmpty || (cs.head? == some '0' && cs != ['0']) then none
  else Radix.continue? 10 256 0 cs

/-- The two groups that four decimal numbers stand for. -/
def dotted? (cs : List Char) : Option (List UInt16) := do
  match ← (splitAt '.' cs).mapM octet? with
  | [a, b, c, d] => some [UInt16.ofNat (a * 256 + b), UInt16.ofNat (c * 256 + d)]
  | _ => none

/-- The groups of fields, of which the last may consist of decimal numbers. -/
def groups? : List (List Char) → Option (List UInt16)
  | [] => some []
  | [f] => if f.contains '.' then dotted? f else (group? f).map ([·])
  | f :: fs => do some ((← group? f) :: (← groups? fs))

/-- The groups of a text that may be empty. -/
def part? (cs : List Char) : Option (List UInt16) :=
  if cs.isEmpty then some [] else groups? (splitAt ':' cs)

/-- The text before the first two colons and the text after them. -/
def halves? : List Char → Option (List Char × List Char)
  | [] => none
  | ':' :: ':' :: cs => some ([], cs)
  | c :: cs => (halves? cs).map fun h => (c :: h.1, h.2)

/-- The groups of an address. -/
def read? (cs : List Char) : Option (List UInt16) :=
  match halves? cs with
  | none => (groups? (splitAt ':' cs)).filter (·.length == 8)
  | some (before, after) => do
    let left ← part? before
    let right ← part? after
    let size := left.length + right.length
    if size < 8 && !before.contains '.' then some (left ++ List.replicate (8 - size) 0 ++ right)
    else none

/-- Where the longest run of zeros begins, and how many groups it has. -/
def longestZeros (gs : List UInt16) : Nat × Nat :=
  (List.range gs.length).foldl (fun best i =>
    let size := ((gs.drop i).takeWhile (· == 0)).length
    if best.2 < size then (i, size) else best) (0, 0)

/-- Groups with colons between them. -/
def join (gs : List UInt16) : List Char :=
  [':'].intercalate (gs.map fun g => Nat.toDigits 16 g.toNat)

/-- An address with a run of zeros left out. -/
def text (gs : List UInt16) : List Char :=
  let (start, size) := longestZeros gs
  if size < 2 then join gs
  else join (gs.take start) ++ [':', ':'] ++ join (gs.drop (start + size))

example : (read? "0:0::1".toList).map text = some "::1".toList := by decide +kernel

example : (read? "::ffff:127.0.0.1".toList).map text = some "::ffff:7f00:1".toList := by
  decide +kernel

example : read? "1::2::3".toList = none ∧ read? ":::".toList = none ∧ read? [] = none := by
  decide +kernel

end IntentProvider.Http.Ipv6
