import IntentProvider.Decimal.Shortest

/-!
Numbers of JSON documents. An integer that fits a signed or an unsigned word of 64 bits keeps its
exact value; every other number is a double, held by its bits. Reading starts from the digits of a
literal: those that fit a word are its significand, and the rest only move the exponent.
-/

namespace IntentProvider.Json

/-- An integer has an exact form: it is a signed or an unsigned word of 64 bits. -/
def FitsWord (value : Int) : Prop :=
  -9223372036854775808 ≤ value ∧ value < 18446744073709551616

instance (value : Int) : Decidable (FitsWord value) :=
  inferInstanceAs (Decidable (_ ∧ _))

/-- A number: an integer of 64 bits, or a finite double given by its bits. -/
inductive Number where
  | int (value : Int) (fits : FitsWord value)
  | real (bits : UInt64)
  deriving DecidableEq, Repr

namespace Number

/-- An unsigned word. -/
def ofUInt64 (n : UInt64) : Number :=
  .int n.toNat (by have := n.toNat_lt; unfold FitsWord; omega)

/-- A signed word. -/
def ofInt64 (n : Int64) : Number :=
  .int n.toInt (by have := n.toInt_lt; have := n.le_toInt; unfold FitsWord; omega)

/-- The unsigned word that a number is. -/
def toUInt64? : Number → Option UInt64
  | int value _ => if 0 ≤ value then some (UInt64.ofNat value.toNat) else none
  | real _ => none

/-- The signed word that a number is. -/
def toInt64? : Number → Option Int64
  | int value _ => if value < 9223372036854775808 then some (Int64.ofInt value) else none
  | real _ => none

/-- The natural number that a number is, if it is below `limit`. -/
def toNat? (limit : Nat) : Number → Option Nat
  | int value _ => if 0 ≤ value ∧ value.toNat < limit then some value.toNat else none
  | real _ => none

/-- A number as it is spelled: its sign, its whole digits, and its fraction and exponent if it has
them. -/
structure Literal where
  negative : Bool
  whole : List Nat
  fraction : Option (List Nat)
  exponent : Option Int

namespace Literal

/-- Takes digits into a significand as long as it stays a word. Gives the significand and the
number of digits taken. -/
def absorb : Nat → List Nat → Nat × Nat
  | n, [] => (n, 0)
  | n, d :: ds =>
    if n * 10 + d < Nat.pow 2 64 then
      let (m, taken) := absorb (n * 10 + d) ds
      (m, taken + 1)
    else (n, 0)

/-- The significand of a literal and the power of ten that goes with it. -/
def significand (l : Literal) : Nat × Int :=
  let (w, taken) := absorb 0 l.whole
  let (m, more) := absorb w (l.fraction.getD [])
  (m, (l.whole.length - taken : Int) - more + l.exponent.getD 0)

/-- Multiplies by a power of ten in one rounded step; `none` beyond the largest double. -/
def scaleUp? (f : Float) (n : Nat) : Option Float :=
  if f == 0 then some f
  else if 308 < n then none
  else
    let g := f * Float.ofScientific 1 false n
    if g.isInf then none else some g

/-- Divides by `10 ^ 308` a number of times, each time rounded. -/
def shrink (f : Float) : Nat → Float
  | 0 => f
  | times + 1 => if f == 0 then f else shrink (f / Float.ofScientific 1 false 308) times

/-- Divides by a power of ten in rounded steps of at most `10 ^ 308`. -/
def scaleDown (f : Float) (n : Nat) : Float :=
  if f == 0 then f
  else
    let times := (n - 1) / 308
    shrink f times / Float.ofScientific 1 false (n - 308 * times)

/-- The double of a literal; `none` if it is beyond the largest one. -/
def toFloat? (l : Literal) : Option Float := do
  let (m, e) := l.significand
  let f := m.toUInt64.toFloat
  let g ← if 0 ≤ e then scaleUp? f e.toNat else some (scaleDown f e.natAbs)
  some (if l.negative then -g else g)

/-- The integer that a literal without fraction and exponent spells. Minus zero is none. -/
def toInt? (l : Literal) : Option Int :=
  if l.fraction.isNone && l.exponent.isNone then
    let n : Int := (l.whole.foldl (fun n d => n * 10 + d) 0 : Nat)
    if l.negative then (if n = 0 then none else some (-n)) else some n
  else none

/-- The number that a literal stands for; `none` if it is beyond the largest double. -/
def number? (l : Literal) : Option Number :=
  let double := l.toFloat?.map fun f => .real f.toBits
  match l.toInt? with
  | some n => if h : FitsWord n then some (.int n h) else double
  | none => double

end Literal

/-- Doubles are written without an exponent from `0.00001` up to sixteen whole digits. -/
def layout : Decimal.Layout := ⟨-5, 16⟩

/-- The text of a finite double. -/
def renderReal (bits : UInt64) : List Char :=
  let n := bits.toNat
  let magnitude := n % Nat.pow 2 63
  let digits :=
    if magnitude = 0 then ['0', '.', '0']
    else layout.write (Decimal.Target.ofBits magnitude).shortest
  if n / Nat.pow 2 63 = 0 then digits else '-' :: digits

/-- The digits of an integer, after a minus sign if it is negative. -/
def renderInt (value : Int) : List Char :=
  if value < 0 then '-' :: Decimal.digitsOf value.natAbs else Decimal.digitsOf value.natAbs

/-- The text of a number. -/
def render : Number → List Char
  | int value _ => renderInt value
  | real bits => renderReal bits

end Number

end IntentProvider.Json
