import BeanPath.Number.Power

/-!
# Binary floating-point numbers as bit patterns

A binary format has a fraction of `p` bits and an exponent of `w` bits below one sign bit.  A
finite number is `m · 2 ^ q` with `m < 2 ^ (p + 1)`; bit patterns of one sign are ordered as the
numbers they stand for, so rounding may carry from the fraction into the exponent.
-/

namespace BeanPath

/-- The two floating-point types. -/
inductive FloatKind where
  | f32 | f64
  deriving DecidableEq, Repr, Inhabited

namespace FloatKind

/-- The name of the type. -/
def name : FloatKind → String
  | f32 => "f32"
  | f64 => "f64"

/-- The bits of the fraction. -/
def fractionBits : FloatKind → Nat
  | f32 => 23
  | f64 => 52

/-- The bits of the exponent. -/
def exponentBits : FloatKind → Nat
  | f32 => 8
  | f64 => 11

/-- The exponent of the last fraction bit of the least numbers. -/
def leastExponent (k : FloatKind) : Int :=
  2 - (twoTo (k.exponentBits - 1) : Int) - k.fractionBits

/-- The pattern of positive infinity. -/
def infinity (k : FloatKind) : Nat := (twoTo k.exponentBits - 1) * twoTo k.fractionBits

/-- The pattern of the number that is written when a text asks for no number. -/
def quietNaN (k : FloatKind) : Nat := k.infinity + twoTo (k.fractionBits - 1)

/-- The pattern of negative zero, which is the sign bit. -/
def signBit (k : FloatKind) : Nat := twoTo (k.fractionBits + k.exponentBits)

/-- The pattern without its sign. -/
def magnitude (k : FloatKind) (bits : Nat) : Nat := bits % k.signBit

/-- A pattern with the sign bit. -/
def isNegative (k : FloatKind) (bits : Nat) : Bool := bits / k.signBit % 2 == 1

/-- A pattern that stands for no number. -/
def isNaN (k : FloatKind) (bits : Nat) : Bool := k.infinity < k.magnitude bits

/-- A pattern that stands for an infinity. -/
def isInfinite (k : FloatKind) (bits : Nat) : Bool := k.magnitude bits == k.infinity

/-- The integer `m` and the exponent `q` of a finite magnitude `m · 2 ^ q`. -/
def decode (k : FloatKind) (magnitude : Nat) : Nat × Int :=
  let exponent := magnitude / twoTo k.fractionBits
  let fraction := magnitude % twoTo k.fractionBits
  if exponent = 0 then (fraction, k.leastExponent)
  else (twoTo k.fractionBits + fraction, k.leastExponent + exponent - 1)

/-- The pattern of `m · 2 ^ q`, where `m` is at most `2 ^ (p + 1)` and `q` is the least exponent
unless `m` is at least `2 ^ p`.  What is beyond the greatest finite number is infinite. -/
def encode (k : FloatKind) (m : Nat) (q : Int) : Nat :=
  if m < twoTo k.fractionBits then m
  else
    min k.infinity
      ((q - k.leastExponent).toNat * twoTo k.fractionBits + m)

/-- Numeric equality of patterns: no number is equal to itself only if it is one, and the two
zeros are equal. -/
def sameNumber (k : FloatKind) (a b : Nat) : Bool :=
  !k.isNaN a && !k.isNaN b && (a == b || (k.magnitude a == 0 && k.magnitude b == 0))

/-- Being the same number is symmetric. -/
theorem sameNumber_comm (k : FloatKind) (a b : Nat) : k.sameNumber a b = k.sameNumber b a := by
  unfold sameNumber
  rw [BEq.comm (a := a) (b := b), Bool.and_comm (!k.isNaN a)]
  simp only [Bool.and_comm (k.magnitude a == 0)]

/-- Every number but the one that is none is the same as itself. -/
theorem sameNumber_self {k : FloatKind} {a : Nat} (h : k.isNaN a = false) :
    k.sameNumber a a = true := by
  simp [sameNumber, h]

end FloatKind

/-- The integer nearest to `num / den`; of two, the even one. -/
def roundHalfEven (num den : Nat) : Nat :=
  let low := num / den
  let rest := num % den
  if den < 2 * rest || (2 * rest == den && low % 2 == 1) then low + 1 else low

/-- The greatest `e` with `2 ^ e ≤ num / den`, for positive `num` and `den`. -/
def floorLog2 (num den : Nat) : Int :=
  let e : Int := (Nat.log2 num : Int) - (Nat.log2 den : Int)
  if den * twoTo e.toNat ≤ num * twoTo (-e).toNat then e else e - 1

namespace FloatKind

/-- The pattern of the number nearest to the positive ratio `num / den`; of two, the even one. -/
def ofRatio (k : FloatKind) (num den : Nat) : Nat :=
  let q := max k.leastExponent (floorLog2 num den - k.fractionBits)
  k.encode (roundHalfEven (num * twoTo (-q).toNat) (den * twoTo q.toNat)) q

end FloatKind
end BeanPath
