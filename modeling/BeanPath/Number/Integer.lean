import BeanPath.Number.Power

/-!
# Fixed-width integers and their numerals

The twelve integer types by width and sign, the reading of digits in a radix, and the integer
literals of path expressions.  A literal is an optional sign followed by `0x`, `0X` or `#` and
hexadecimal digits, by `0` and octal digits, or by decimal digits.

Digits are taken from the left, and the first one that is no digit of the radix, or that carries
the number out of the range of its type, decides the error.  The sign belongs to the digits that
are read, so the least value of a signed type can be written.
-/

namespace BeanPath

/-- An integer type: 64-bit machine words are types of their own. -/
inductive IntKind where
  | u8 | u16 | u32 | u64 | u128 | usize
  | i8 | i16 | i32 | i64 | i128 | isize
  deriving DecidableEq, Repr, Inhabited

namespace IntKind

/-- The name of the type. -/
def name : IntKind → String
  | u8 => "u8" | u16 => "u16" | u32 => "u32" | u64 => "u64" | u128 => "u128" | usize => "usize"
  | i8 => "i8" | i16 => "i16" | i32 => "i32" | i64 => "i64" | i128 => "i128" | isize => "isize"

/-- The width in bits. -/
def bits : IntKind → Nat
  | u8 | i8 => 8
  | u16 | i16 => 16
  | u32 | i32 => 32
  | u64 | i64 | usize | isize => 64
  | u128 | i128 => 128

/-- Types that hold negative numbers. -/
def signed : IntKind → Bool
  | i8 | i16 | i32 | i64 | i128 | isize => true
  | _ => false

/-- The least value. -/
def least (k : IntKind) : Int := if k.signed then -(twoTo (k.bits - 1)) else 0

/-- The greatest value. -/
def greatest (k : IntKind) : Int :=
  (twoTo (if k.signed then k.bits - 1 else k.bits) : Int) - 1

/-- The numbers that the type holds. -/
def holds (k : IntKind) (n : Int) : Bool := k.least ≤ n && n ≤ k.greatest

/-- A type holds the numbers between its bounds. -/
theorem holds_iff {k : IntKind} {n : Int} : k.holds n = true ↔ k.least ≤ n ∧ n ≤ k.greatest := by
  simp [holds]

/-- Every type holds zero: its least number is not above it. -/
theorem least_nonpos (k : IntKind) : k.least ≤ 0 := by cases k <;> decide

/-- The greatest number of every type is above zero. -/
theorem greatest_pos (k : IntKind) : 0 < k.greatest := by cases k <;> decide

/-- The number of the type that has the same residue modulo two to the width: arithmetic that
leaves the range wraps around. -/
def wrap (k : IntKind) (n : Int) : Int :=
  if k.signed then Int.bmod n (twoTo k.bits) else n % twoTo k.bits

end IntKind

/-- Why digits are no number of a type. -/
inductive IntegerError where
  | empty | invalidDigit | tooLarge | tooSmall
  deriving DecidableEq, Repr

/-- The wording of an integer error. -/
def IntegerError.message : IntegerError → String
  | .empty => "cannot parse integer from empty string"
  | .invalidDigit => "invalid digit found in string"
  | .tooLarge => "number too large to fit in target type"
  | .tooSmall => "number too small to fit in target type"

namespace Numeral

/-- The value of a character as a digit, upper and lower case letters alike; other characters
have a value above that of all digits. -/
def digitValue (c : Char) : Nat :=
  let n := c.toNat
  if 0x30 ≤ n && n ≤ 0x39 then n - 0x30
  else if 0x61 ≤ n && n ≤ 0x7A then n - 0x61 + 10
  else if 0x41 ≤ n && n ≤ 0x5A then n - 0x41 + 10
  else 36

/-- The value of a digit of the radix. -/
def digit? (radix : Nat) (c : Char) : Option Nat :=
  if digitValue c < radix then some (digitValue c) else none

/-- A character is a digit of a radix if it has a value below it. -/
theorem digit?_eq_some_iff {radix : Nat} {c : Char} {d : Nat} :
    digit? radix c = some d ↔ digitValue c = d ∧ d < radix := by
  unfold digit?
  split
  · simp only [Option.some.injEq]
    exact ⟨fun h => ⟨h, h ▸ ‹_›⟩, fun h => h.1⟩
  · simp only [reduceCtorEq, false_iff]
    rintro ⟨rfl, h⟩
    contradiction

/-- Appends digits to a number above or below zero, as long as it stays in range. -/
def appendDigits (k : IntKind) (radix : Nat) (negative : Bool) :
    Int → List Char → Except IntegerError Int
  | n, [] => .ok n
  | n, c :: cs =>
    match digit? radix c with
    | none => .error .invalidDigit
    | some d =>
      let next := if negative then n * radix - d else n * radix + d
      if k.holds next then appendDigits k radix negative next cs
      else .error (if negative then .tooSmall else .tooLarge)

/-- Reads a signed run of digits.  A sign alone is no number, and in an unsigned type the minus
sign is no digit. -/
def readDigits (k : IntKind) (radix : Nat) : List Char → Except IntegerError Int
  | [] => .error .empty
  | ['+'] => .error .invalidDigit
  | ['-'] => .error .invalidDigit
  | '+' :: cs => appendDigits k radix false 0 cs
  | '-' :: cs =>
    if k.signed then appendDigits k radix true 0 cs else .error .invalidDigit
  | cs => appendDigits k radix false 0 cs

/-- The parts of an integer literal: whether it starts with a minus sign, its radix, and what is
left to be read as digits. -/
structure Parts where
  negative : Bool
  radix : Nat
  digits : List Char
  deriving DecidableEq, Repr

/-- Splits a sign off: a minus sign is remembered. -/
def splitSign : List Char → Bool × List Char
  | '-' :: cs => (true, cs)
  | '+' :: cs => (false, cs)
  | cs => (false, cs)

/-- Splits the radix off: `0x`, `0X` and `#` announce hexadecimal digits and a zero before other
characters octal ones. -/
def splitRadix : List Char → Nat × List Char
  | '0' :: 'x' :: cs => (16, cs)
  | '0' :: 'X' :: cs => (16, cs)
  | '#' :: cs => (16, cs)
  | '0' :: c :: cs => (8, c :: cs)
  | cs => (10, cs)

/-- Splits an integer literal into its parts. -/
def parts (cs : List Char) : Parts :=
  let (negative, unsigned) := splitSign cs
  let (radix, digits) := splitRadix unsigned
  ⟨negative, radix, digits⟩

/-- Why a text is no integer literal of a type. -/
inductive LiteralError where
  /-- A second sign, after the radix. -/
  | misplacedSign
  /-- Digits that are no number of the type. -/
  | digits (error : IntegerError)
  deriving DecidableEq, Repr

/-- Another sign in front of the digits. -/
def startsWithSign : List Char → Bool
  | '-' :: _ => true
  | '+' :: _ => true
  | _ => false

/-- Reads an integer literal. -/
def readLiteral (k : IntKind) (cs : List Char) : Except LiteralError Int :=
  let p := parts cs
  if startsWithSign p.digits then .error .misplacedSign
  else (readDigits k p.radix (if p.negative then '-' :: p.digits else p.digits)).mapError .digits

end Numeral
end BeanPath
