/-!
The shortest decimal that stands for a binary fraction: among the decimals with the fewest digits
inside the interval that rounds to the fraction, the one nearest to it. The search is exact: all
comparisons are between natural numbers.
-/

namespace IntentProvider.Decimal

/-- A positive binary fraction `center · 2 ^ scale`, with the ends of the interval of numbers that
round to it in the same unit, and whether the ends belong to the interval. -/
structure Target where
  low : Nat
  center : Nat
  high : Nat
  scale : Int
  closed : Bool

/-- A positive decimal `digits · 10 ^ exponent`. -/
structure Scaled where
  digits : Nat
  exponent : Int
  deriving DecidableEq, Repr

namespace Target

/-- The numerator of `x · 2 ^ scale / 10 ^ k`. -/
def numerator (t : Target) (k : Int) (x : Nat) : Nat :=
  x * Nat.pow 2 t.scale.toNat * Nat.pow 10 (-k).toNat

/-- The denominator of `x · 2 ^ scale / 10 ^ k`. -/
def denominator (t : Target) (k : Int) : Nat :=
  Nat.pow 2 (-t.scale).toNat * Nat.pow 10 k.toNat

/-- Whether `d · 10 ^ k` lies in the interval. -/
def holds (t : Target) (k : Int) (d : Nat) : Bool :=
  let x := d * t.denominator k
  if t.closed then t.numerator k t.low ≤ x && x ≤ t.numerator k t.high
  else t.numerator k t.low < x && x < t.numerator k t.high

/-- The multiple of `10 ^ k` in the interval that is nearest to the centre, if there is one. An
exact tie goes to the even digit. -/
def nearest? (t : Target) (k : Int) : Option Nat :=
  let n := t.numerator k t.center
  let u := t.denominator k
  let below := n / u
  let rest := n % u
  match t.holds k below, t.holds k (below + 1) with
  | true, true =>
    if 2 * rest < u then some below
    else if u < 2 * rest then some (below + 1)
    else if below % 2 == 0 then some below else some (below + 1)
  | true, false => some below
  | false, true => some (below + 1)
  | false, false => none

/-- Searches the grids `10 ^ k`, `10 ^ (k - 1)`, … for the first one with a point in the
interval. -/
def search (t : Target) : Nat → Int → Scaled
  | 0, k => ⟨t.numerator k t.center / t.denominator k, k⟩
  | fuel + 1, k =>
    match t.nearest? k with
    | some d => ⟨d, k⟩
    | none => search t fuel (k - 1)

/-- An exponent of ten whose grid is too coarse to have a point below the interval's high end. -/
def coarse (t : Target) : Int :=
  ((t.high.log2 : Int) + 1 + t.scale) * 30103 / 100000 + 1

/-- The shortest decimal of a target. Seventeen digits always suffice for a double, so the search
passes over few grids. -/
def shortest (t : Target) : Scaled :=
  t.search 24 t.coarse

end Target

/-- The interval of a double with the magnitude bits `bits` (no sign, neither zero, infinite nor
NaN). The gap below a power of two is half the gap above it. -/
def Target.ofBits (bits : Nat) : Target :=
  let fraction := bits % Nat.pow 2 52
  let field := bits / Nat.pow 2 52
  let m := if field = 0 then fraction else Nat.pow 2 52 + fraction
  let q : Int := if field = 0 then -1074 else Int.ofNat field - 1075
  { low := if fraction = 0 && 1 < field then 4 * m - 1 else 4 * m - 2
    center := 4 * m
    high := 4 * m + 2
    scale := q - 2
    closed := m % 2 == 0 }

/-- How a decimal is laid out: the least and the first too large exponent of the leading digit for
which no exponent is written. -/
structure Layout where
  least : Int
  beyond : Int

/-- The decimal digits of a natural number. -/
def digitsOf (n : Nat) : List Char :=
  Nat.toDigits 10 n

/-- The digits of a decimal with a point, either among zeros or followed by an exponent with its
sign. A whole number ends in `.0` unless it has an exponent. -/
def Layout.write (layout : Layout) (d : Scaled) : List Char :=
  let ds := digitsOf d.digits
  let lead := d.exponent + (ds.length : Int) - 1
  if layout.least ≤ lead && lead < layout.beyond then
    if 0 ≤ d.exponent then ds ++ List.replicate d.exponent.toNat '0' ++ ['.', '0']
    else if 0 ≤ lead then
      ds.take (lead.toNat + 1) ++ '.' :: ds.drop (lead.toNat + 1)
    else '0' :: '.' :: (List.replicate ((-lead).toNat - 1) '0' ++ ds)
  else
    let fraction := ds.drop 1
    ds.take 1 ++ (if fraction.isEmpty then [] else '.' :: fraction) ++
      'e' :: (if lead < 0 then '-' else '+') :: digitsOf lead.natAbs

end IntentProvider.Decimal
