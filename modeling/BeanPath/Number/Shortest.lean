import BeanPath.Number.Binary

/-!
# The shortest decimal text of a floating-point number

Of all decimal numbers that read back as a given one, those with the fewest digits are considered,
and of these the nearest is taken; a tie goes up.  On the decimal grid of `n` digits only the two
neighbours of the number can be nearest, so the first grid that has a neighbour inside the
rounding interval decides.  All comparisons are exact, on natural numbers.
-/

namespace BeanPath
namespace Shortest

/-- A positive number with its rounding interval over one denominator: `low`, `mid` and `high` are
numerators, and `closed` says whether the ends read back as the number itself. -/
structure Interval where
  low : Nat
  mid : Nat
  high : Nat
  den : Nat
  closed : Bool

/-- The rounding interval of a positive finite magnitude.  Just above a power of two the neighbour
below is only half as far away. -/
def interval (k : FloatKind) (magnitude : Nat) : Interval :=
  let (m, q) := k.decode magnitude
  let scale := twoTo (q - 2).toNat
  let narrow := m == twoTo k.fractionBits && k.leastExponent < q
  { low := (4 * m - (if narrow then 1 else 2)) * scale
    mid := 4 * m * scale
    high := (4 * m + 2) * scale
    den := twoTo (2 - q).toNat
    closed := m % 2 == 0 }

/-- The decimal exponent `e` with `10 ^ (e - 1) ≤ num / den < 10 ^ e`. -/
def decimalExponent (num den : Nat) : Int :=
  if den ≤ num then (Nat.toDigits 10 (num / den)).length
  else
    let places := (Nat.toDigits 10 (den / num)).length - 1
    if den ≤ num * tenTo places then 1 - (places : Int) else -(places : Int)

/-- Whether `c · 10 ^ p` lies in the interval. -/
def Interval.has (i : Interval) (c : Nat) (p : Int) : Bool :=
  let point := c * tenTo p.toNat * i.den
  let low := i.low * tenTo (-p).toNat
  let high := i.high * tenTo (-p).toNat
  if i.closed then low ≤ point && point ≤ high else low < point && point < high

/-- The nearest of the two neighbours of the number on the grid of multiples of `10 ^ p` that lies
in the interval. -/
def Interval.onGrid (i : Interval) (p : Int) : Option Nat :=
  let num := i.mid * tenTo (-p).toNat
  let den := i.den * tenTo p.toNat
  let below := num / den
  let rest := num % den
  match i.has below p, i.has (below + 1) p with
  | true, true => some (if 2 * rest < den then below else below + 1)
  | true, false => some below
  | false, true => some (below + 1)
  | false, false => none

/-- The first grid with a hit, from `n` digits on, given up after `fuel` more digits. -/
def search (i : Interval) (e : Int) : Nat → Nat → Nat × Int
  | 0, n => (i.mid / i.den, e - n)
  | fuel + 1, n =>
    match i.onGrid (e - n) with
    | some c => (c, e - n)
    | none => search i e fuel (n + 1)

/-- The digits of the shortest decimal of a positive finite magnitude, without zeros at the end,
and the exponent `s` of the first of them: the number is `d.ddd · 10 ^ s`. -/
def digits (k : FloatKind) (magnitude : Nat) : List Char × Int :=
  let i := interval k magnitude
  let (c, p) := search i (decimalExponent i.mid i.den) 17 1
  let ds := Nat.toDigits 10 c
  ((ds.reverse.dropWhile (· == '0')).reverse, p + ds.length - 1)

end Shortest

/-- How a floating-point number is laid out as text. -/
structure FloatLayout where
  /-- Exponents from this one on are written positionally. -/
  plainFrom : Int
  /-- Exponents up to this one are written positionally. -/
  plainTo : Int
  /-- The text of what is no number. -/
  nan : String
  /-- The text of infinity. -/
  infinity : String

namespace FloatLayout

/-- Digits with a point, at least one digit at either side of it. -/
def plain (ds : List Char) (s : Int) : List Char :=
  if s < 0 then ['0', '.'] ++ List.replicate (-s - 1).toNat '0' ++ ds
  else
    let whole := (s + 1).toNat
    let padded := ds ++ List.replicate (whole - ds.length) '0'
    padded.take whole ++ '.' :: (if ds.length ≤ whole then ['0'] else padded.drop whole)

/-- One digit, a point before the others if there are any, and the exponent. -/
def scientific (ds : List Char) (s : Int) : List Char :=
  match ds with
  | [] => []
  | [d] => d :: 'e' :: (toString s).toList
  | d :: rest => d :: '.' :: rest ++ 'e' :: (toString s).toList

/-- The text of a number without its sign. -/
def magnitude (layout : FloatLayout) (k : FloatKind) (bits : Nat) : List Char :=
  if bits = 0 then ['0', '.', '0']
  else
    let (ds, s) := Shortest.digits k bits
    if layout.plainFrom ≤ s && s ≤ layout.plainTo then plain ds s else scientific ds s

/-- The text of a pattern. -/
def write (layout : FloatLayout) (k : FloatKind) (bits : Nat) : String :=
  if k.isNaN bits then layout.nan
  else
    let unsigned :=
      if k.isInfinite bits then layout.infinity.toList
      else layout.magnitude k (k.magnitude bits)
    String.ofList (if k.isNegative bits then '-' :: unsigned else unsigned)

end FloatLayout
end BeanPath
