import IntentProvider.Text.Radix
import IntentProvider.Text.Split

/-!
IPv4 addresses as URLs have them: up to four numbers with dots between them, each in decimal, octal
or hexadecimal digits, of which the last fills all the bytes that are left.
-/

namespace IntentProvider.Http.Ipv4

open IntentProvider.Text

/-- The number that digits of a base denote. No digits denote zero. -/
def digits? (base : Nat) (cs : List Char) : Option Nat :=
  cs.foldlM (fun n c => (Radix.digit? base c).map (n * base + ·)) 0

/-- A number in hexadecimal digits after `0x`, in octal digits after a zero, or in decimal digits.
-/
def number? : List Char → Option Nat
  | [] => none
  | '0' :: c :: cs => if c == 'x' || c == 'X' then digits? 16 cs else digits? 8 (c :: cs)
  | cs => digits? 10 cs

/-- The fields of a host between its dots. A dot at the end ends no field. -/
def fields (host : List Char) : List (List Char) :=
  let fs := splitAt '.' host
  if fs.length > 1 && fs.getLast? == some [] then fs.dropLast else fs

/-- Whether a host has to be an address, because its last field is a number. -/
def endsInNumber (host : List Char) : Bool :=
  match (fields host).getLast? with
  | some last => !last.isEmpty && (last.all Char.isDigit || (number? last).isSome)
  | none => false

/-- The address of a host. -/
def read? (host : List Char) : Option UInt32 := do
  let numbers ← (fields host).mapM number?
  let last ← numbers.getLast?
  let high := numbers.dropLast
  if numbers.length ≤ 4 && high.all (· < 256) && last < Nat.pow 256 (5 - numbers.length) then
    some (UInt32.ofNat
      (high.foldl (fun n b => n * 256 + b) 0 * Nat.pow 256 (5 - numbers.length) + last))
  else none

/-- The bytes of an address. -/
def bytes (a : UInt32) : List Nat :=
  [a.toNat / 0x1000000, a.toNat / 0x10000 % 256, a.toNat / 0x100 % 256, a.toNat % 256]

/-- An address as four decimal numbers. -/
def text (a : UInt32) : List Char :=
  ['.'].intercalate ((bytes a).map fun b => (Nat.repr b).toList)

example : read? "127.1".toList = some 0x7F000001 := by decide +kernel

example : read? "0x7f.0.0.01".toList = some 0x7F000001 := by decide +kernel

example : read? "256.1.1.1".toList = none := by decide +kernel

example : endsInNumber "127.0.0.09".toList ∧ read? "127.0.0.09".toList = none := by decide +kernel

end IntentProvider.Http.Ipv4
