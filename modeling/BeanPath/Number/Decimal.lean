import BeanPath.Number.Integer
import BeanPath.Number.Binary

/-!
# Reading decimal floating-point text

A number is an optional sign, digits with at most one point among or around them, and an optional
exponent; or one of the words `inf`, `infinity` and `nan` in any case, signed or not.  The number
read is the one nearest to the decimal, ties to even, rounded once.
-/

namespace BeanPath

/-- Why a text is no floating-point number. -/
inductive FloatError where
  | empty | invalid
  deriving DecidableEq, Repr

/-- The wording of a floating-point error. -/
def FloatError.message : FloatError → String
  | .empty => "cannot parse float from empty string"
  | .invalid => "invalid float literal"

namespace Decimal

/-- A number `digits · 10 ^ exponent`. -/
structure Scaled where
  digits : Nat
  exponent : Int
  deriving DecidableEq, Repr

/-- The number that decimal digits stand for. -/
def numberOf (cs : List Char) : Nat := cs.foldl (fun n c => n * 10 + Numeral.digitValue c) 0

/-- The leading decimal digits and what follows them. -/
def spanDigits (cs : List Char) : List Char × List Char :=
  (cs.takeWhile Char.isDigit, cs.dropWhile Char.isDigit)

/-- The exponent behind the digits: nothing, or a mark, a sign and at least one digit. -/
def readExponent : List Char → Option Int
  | [] => some 0
  | c :: cs =>
    if c = 'e' || c = 'E' then
      let (negative, ds) := Numeral.splitSign cs
      if ds.isEmpty || !ds.all Char.isDigit then none
      else some (if negative then -(numberOf ds : Int) else numberOf ds)
    else none

/-- Reads an unsigned decimal number. -/
def readScaled (cs : List Char) : Option Scaled := do
  let (whole, rest) := spanDigits cs
  let (fraction, rest) :=
    match rest with
    | '.' :: rest => spanDigits rest
    | _ => ([], rest)
  if whole.isEmpty && fraction.isEmpty then none
  else
    let exponent ← readExponent rest
    some ⟨numberOf (whole ++ fraction), exponent - fraction.length⟩

/-- The pattern nearest to a scaled number.  Numbers so large or so small that their place value
alone decides are not multiplied out. -/
def Scaled.bits (k : FloatKind) (x : Scaled) : Nat :=
  if x.digits = 0 then 0
  else
    let place := (Nat.toDigits 10 x.digits).length + x.exponent
    if place > 400 then k.infinity
    else if place < -400 then 0
    else k.ofRatio (x.digits * tenTo x.exponent.toNat) (tenTo (-x.exponent).toNat)

/-- The words that stand for numbers without digits. -/
def readWord (k : FloatKind) (cs : List Char) : Option Nat :=
  let word := cs.map Char.toLower
  if word = "inf".toList || word = "infinity".toList then some k.infinity
  else if word = "nan".toList then some k.quietNaN
  else none

/-- Reads a floating-point number, giving its pattern. -/
def read (k : FloatKind) (cs : List Char) : Except FloatError Nat :=
  if cs.isEmpty then .error .empty
  else
    let (negative, unsigned) := Numeral.splitSign cs
    match (readScaled unsigned).map (·.bits k) <|> readWord k unsigned with
    | some magnitude => .ok (if negative then k.signBit + magnitude else magnitude)
    | none => .error .invalid

end Decimal
end BeanPath
