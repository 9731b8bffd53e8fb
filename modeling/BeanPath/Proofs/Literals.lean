import Mathlib.Data.Nat.Digits.Defs
import BeanPath.Conversion.OfText
import BeanPath.Proofs.Updates
import BeanPath.Samples

/-!
# Integer literals

A literal is a sign, an announcement of a radix and digits (`Numeral.Literal`), and it denotes the
number of its digits, most significant first, above or below zero.  Reading takes exactly what
literals spell and gives the numbers that they denote, as far as the integer type holds them
(`Numeral.readLiteral_eq_ok_iff`).

The reader appends the digits one by one and stops at the first number that leaves the range.  It
loses nothing by that, since more digits only lead further out (`Numeral.number_le_numberFrom`): a
run of digits is read exactly if the number that it denotes is in range
(`Numeral.appendDigits_number`).  What is in front of the digits is split off without a look at the
type, and the splits undo the spelling because no digit is taken for a sign or for an announcement
(`Numeral.Literal.parts_spelling`).
-/

namespace BeanPath
namespace Numeral

/-! ### Digits -/

/-- A digit of a radix, and the case of the letter if it is written as one. -/
structure Digit (radix : Nat) where
  value : Fin radix
  upper : Bool
  deriving DecidableEq, Repr

/-- The character that a digit is written as. -/
def Digit.char {radix : Nat} (d : Digit radix) : Char :=
  if d.upper then d.value.val.digitChar.toUpper else d.value.val.digitChar

section
variable {radix : Nat}

/-- A digit is read as its value, whatever the case of the letter. -/
theorem digitValue_char (hr : radix ≤ 16) (d : Digit radix) : digitValue d.char = d.value := by
  have all : ∀ n < 16, ∀ upper : Bool,
      digitValue (if upper then n.digitChar.toUpper else n.digitChar) = n := by decide
  exact all d.value (d.value.isLt.trans_le hr) d.upper

/-- Only ASCII characters are digits. -/
theorem toNat_lt_of_digitValue {c : Char} (h : digitValue c < 16) : c.toNat < 128 := by
  unfold digitValue at h
  simp only [Bool.and_eq_true, decide_eq_true_eq] at h
  split at h
  · omega
  · split at h
    · omega
    · split at h <;> omega

/-- A character that is read as a digit of a radix is what such a digit is written as. -/
theorem exists_digit (hr : radix ≤ 16) {c : Char} (h : digitValue c < radix) :
    ∃ d : Digit radix, d.char = c := by
  have all : ∀ n < 128, digitValue (Char.ofNat n) < 16 →
      ∃ upper : Bool, (if upper then (digitValue (Char.ofNat n)).digitChar.toUpper
        else (digitValue (Char.ofNat n)).digitChar) = Char.ofNat n := by
    decide
  have small : digitValue c < 16 := h.trans_le hr
  obtain ⟨upper, hc⟩ := all c.toNat (toNat_lt_of_digitValue small) (by rwa [Char.ofNat_toNat])
  rw [Char.ofNat_toNat] at hc
  exact ⟨⟨⟨digitValue c, h⟩, upper⟩, hc⟩

/-- There is one way only to write the digit zero. -/
theorem Digit.char_of_zero {d : Digit radix} (h : d.value.val = 0) : d.char = '0' := by
  rw [Digit.char, h]
  split <;> rfl

/-- What is no digit of any radix is not what a digit is written as. -/
theorem Digit.char_ne (hr : radix ≤ 16) (d : Digit radix) {c : Char} (hc : 16 ≤ digitValue c) :
    d.char ≠ c := by
  rintro rfl
  rw [digitValue_char hr] at hc
  omega

/-- The number that digits denote, the most significant one first. -/
def number (ds : List (Digit radix)) : Nat := Nat.ofDigits radix (ds.reverse.map (·.value.val))

/-- The number that digits denote behind those of another number. -/
def numberFrom (n : Nat) (ds : List (Digit radix)) : Nat :=
  ds.foldl (fun n d => n * radix + d.value) n

/-- The number of a run of digits is what appending them one by one to zero gives. -/
theorem number_eq_numberFrom (ds : List (Digit radix)) : number ds = numberFrom 0 ds := by
  rw [number, Nat.ofDigits_eq_foldr, List.foldr_map, List.foldr_reverse, numberFrom]
  congr 1
  funext n d
  rw [Nat.cast_id, Nat.mul_comm, Nat.add_comm]

/-- Appending digits never makes a number smaller. -/
theorem number_le_numberFrom (n : Nat) (ds : List (Digit radix)) : n ≤ numberFrom n ds := by
  induction ds generalizing n with
  | nil => exact le_rfl
  | cons d ds ih =>
    have positive : 0 < radix := Nat.lt_of_le_of_lt (Nat.zero_le _) d.value.isLt
    calc n ≤ n * radix := Nat.le_mul_of_pos_right n positive
      _ ≤ n * radix + d.value := Nat.le_add_right _ _
      _ ≤ numberFrom n (d :: ds) := ih _

/-- A number above or below zero. -/
def signed (negative : Bool) (n : Nat) : Int := if negative then -n else n

/-- A type that holds a number holds every other one between it and zero. So once an intermediate
number is out of range, the whole one is. -/
theorem holds_signed_of_le {k : IntKind} {negative : Bool} {m n : Nat} (hmn : m ≤ n)
    (h : k.holds (signed negative n) = true) : k.holds (signed negative m) = true := by
  have least := k.least_nonpos
  have greatest := k.greatest_pos
  rw [IntKind.holds_iff] at h ⊢
  cases negative <;> simp only [signed, Bool.false_eq_true, if_true, if_false] at h ⊢ <;> omega

/-- Appending a run of digits to a number in range gives the number of all of them if that is in
range. If it is not, the reader reports so as soon as it leaves the range, which may be before the
last digit. -/
theorem appendDigits_digits {k : IntKind} (hr : radix ≤ 16) (negative : Bool)
    (ds : List (Digit radix)) (n : Nat) (hn : k.holds (signed negative n) = true) :
    appendDigits k radix negative (signed negative n) (ds.map Digit.char) =
      if k.holds (signed negative (numberFrom n ds)) then
        .ok (signed negative (numberFrom n ds))
      else .error (if negative then .tooSmall else .tooLarge) := by
  induction ds generalizing n with
  | nil => exact (if_pos hn).symm
  | cons d ds ih =>
    have digit : digit? radix d.char = some d.value.val :=
      digit?_eq_some_iff.2 ⟨digitValue_char hr d, d.value.isLt⟩
    have next : (if negative then signed negative n * radix - d.value
        else signed negative n * radix + d.value : Int) =
          signed negative (n * radix + d.value) := by
      cases negative <;> simp only [signed, Bool.false_eq_true, if_true, if_false] <;>
        push_cast <;> ring
    rw [List.map_cons, appendDigits, digit]
    dsimp only
    rw [next]
    split
    · next inside => exact ih _ inside
    · next outside =>
      exact (if_neg fun h => outside (holds_signed_of_le (number_le_numberFrom _ ds) h)).symm

/-- What has been read as digits of a radix is what some digits are written as. -/
theorem exists_digits {k : IntKind} (hr : radix ≤ 16) {negative : Bool} {n m : Int}
    {cs : List Char} (h : appendDigits k radix negative n cs = .ok m) :
    ∃ ds : List (Digit radix), ds.map Digit.char = cs := by
  induction cs generalizing n with
  | nil => exact ⟨[], rfl⟩
  | cons c cs ih =>
    rw [appendDigits] at h
    split at h
    · cases h
    · next v hv =>
      obtain ⟨d, hd⟩ := exists_digit hr (c := c) (by
        obtain ⟨rfl, hlt⟩ := digit?_eq_some_iff.1 hv
        exact hlt)
      dsimp only at h
      generalize (if negative then n * radix - v else n * radix + v : Int) = next at h
      split at h
      · obtain ⟨ds, hds⟩ := ih h
        exact ⟨d :: ds, by rw [List.map_cons, hd, hds]⟩
      · cases h

/-- **A run of digits is read as the number that it denotes**, if that is in range. -/
theorem appendDigits_number {k : IntKind} (hr : radix ≤ 16) (negative : Bool)
    (ds : List (Digit radix)) :
    appendDigits k radix negative 0 (ds.map Digit.char) =
      if k.holds (signed negative (number ds)) then .ok (signed negative (number ds))
      else .error (if negative then .tooSmall else .tooLarge) := by
  have zero : signed negative 0 = 0 := by cases negative <;> rfl
  have start : k.holds (signed negative 0) = true := by
    rw [zero, IntKind.holds_iff]
    exact ⟨k.least_nonpos, k.greatest_pos.le⟩
  have run := appendDigits_digits hr negative ds 0 start
  rwa [zero, ← number_eq_numberFrom] at run

end

/-! ### Literals -/

/-- What stands in front of a literal. -/
inductive Sign where
  | none | plus | minus
  deriving DecidableEq, Repr

/-- The spelling of a sign. -/
def Sign.chars : Sign → List Char
  | none => []
  | plus => ['+']
  | minus => ['-']

/-- How a literal announces its radix: a decimal one not at all, an octal one by a zero, and a
hexadecimal one by a zero and an x of either case or by a number sign. -/
inductive Form where
  | decimal | octal | lowerHex | upperHex | hashHex
  deriving DecidableEq, Repr

/-- The radix of a form. -/
def Form.radix : Form → Nat
  | decimal => 10
  | octal => 8
  | lowerHex | upperHex | hashHex => 16

/-- The spelling of the announcement. -/
def Form.chars : Form → List Char
  | decimal => []
  | octal => ['0']
  | lowerHex => ['0', 'x']
  | upperHex => ['0', 'X']
  | hashHex => ['#']

/-- An integer literal.  It has a digit, and one without an announcement starts with a zero only if
there is no other digit. -/
structure Literal where
  sign : Sign
  form : Form
  digits : List (Digit form.radix)
  digits_ne_nil : digits ≠ []
  no_leading_zero : form = .decimal → ∀ d ds, digits = d :: ds → d.value.val = 0 → ds = []

namespace Literal

variable (l : Literal)

/-- The text of a literal. -/
def spelling : List Char := l.sign.chars ++ (l.form.chars ++ l.digits.map Digit.char)

/-- The number that a literal denotes. -/
def value : Int := signed (l.sign = .minus) (number l.digits)

/-- An integer type has the literal if it holds its number and has the sign. -/
def Fits (k : IntKind) : Prop := k.holds l.value = true ∧ (l.sign = .minus → k.signed = true)

instance (k : IntKind) : Decidable (l.Fits k) := inferInstanceAs (Decidable (_ ∧ (_ → _)))

end Literal

/-- No form has a radix above sixteen. -/
theorem Form.radix_le (f : Form) : f.radix ≤ 16 := by cases f <;> decide

/-- The announcement of a radix does not start with a sign. -/
theorem Form.startsWithSign_chars (f : Form) {cs : List Char} (h : startsWithSign cs = false) :
    startsWithSign (f.chars ++ cs) = false := by
  cases f with
  | decimal => exact h
  | _ => rfl

/-! ### Taking a literal apart -/

/-- A sign in front of what has none is split off. -/
theorem splitSign_chars (sign : Sign) {cs : List Char} (h : startsWithSign cs = false) :
    splitSign (sign.chars ++ cs) = (decide (sign = .minus), cs) := by
  cases sign with
  | plus => rfl
  | minus => rfl
  | none =>
    unfold splitSign
    split
    · next hcs => cases hcs; cases h
    · next hcs => cases hcs; cases h
    · rfl

/-- What has been split off as a sign is how some sign is written. -/
theorem exists_sign (cs : List Char) :
    ∃ sign : Sign, cs = sign.chars ++ (splitSign cs).2 ∧
      (splitSign cs).1 = decide (sign = .minus) := by
  unfold splitSign
  split
  · exact ⟨.minus, rfl, rfl⟩
  · exact ⟨.plus, rfl, rfl⟩
  · exact ⟨.none, rfl, rfl⟩

/-- A zero with something behind it other than an x announces an octal literal. -/
theorem splitRadix_octal {c : Char} (hx : c ≠ 'x') (hX : c ≠ 'X') (cs : List Char) :
    splitRadix ('0' :: c :: cs) = (8, c :: cs) := by
  unfold splitRadix
  split
  · next h => cases h; exact absurd rfl hx
  · next h => cases h; exact absurd rfl hX
  · next h => cases h
  · next h => cases h; rfl
  · next single => exact absurd rfl (single c cs)

/-- Without a number sign, and without a zero in front of something, a literal is decimal. -/
theorem splitRadix_decimal {cs : List Char} (hash : ∀ rest, cs ≠ '#' :: rest)
    (zero : ∀ c rest, cs ≠ '0' :: c :: rest) : splitRadix cs = (10, cs) := by
  unfold splitRadix
  split
  · exact absurd rfl (zero _ _)
  · exact absurd rfl (zero _ _)
  · exact absurd rfl (hash _)
  · exact absurd rfl (zero _ _)
  · rfl

/-- What has been split off as an announcement is how some form announces itself; what is left of a
decimal literal starts with a zero only if that is all of it. -/
theorem exists_form (cs : List Char) :
    ∃ form : Form, cs = form.chars ++ (splitRadix cs).2 ∧ (splitRadix cs).1 = form.radix ∧
      (form = .decimal → ∀ rest, (splitRadix cs).2 = '0' :: rest → rest = []) := by
  unfold splitRadix
  split
  · exact ⟨.lowerHex, rfl, rfl, nofun⟩
  · exact ⟨.upperHex, rfl, rfl, nofun⟩
  · exact ⟨.hashHex, rfl, rfl, nofun⟩
  · exact ⟨.octal, rfl, rfl, nofun⟩
  · next single =>
    refine ⟨.decimal, rfl, rfl, fun _ rest hrest => ?_⟩
    cases rest with
    | nil => rfl
    | cons c rest => exact absurd hrest (single c rest)

namespace Literal

variable (l : Literal)

/-- The announcement of a literal is split off where its digits start. -/
theorem splitRadix_spelling :
    splitRadix (l.form.chars ++ l.digits.map Digit.char) =
      (l.form.radix, l.digits.map Digit.char) := by
  obtain ⟨sign, form, digits, hne, hzero⟩ := l
  obtain ⟨d, ds, rfl⟩ := List.exists_cons_of_ne_nil hne
  have no_mark {c : Char} (hc : 16 ≤ digitValue c) : d.char ≠ c := d.char_ne form.radix_le hc
  cases form with
  | lowerHex => rfl
  | upperHex => rfl
  | hashHex => rfl
  | octal => exact splitRadix_octal (no_mark (by decide)) (no_mark (by decide)) _
  | decimal =>
    refine splitRadix_decimal (fun rest h => ?_) fun c rest h => ?_
    · exact no_mark (by decide) (List.cons.inj h).1
    · have value : d.value.val = 0 := by
        rw [← digitValue_char (by decide) d, (List.cons.inj h).1]
        rfl
      have alone : ds = [] := hzero rfl d ds rfl value
      have tail : ds.map Digit.char = c :: rest := (List.cons.inj h).2
      rw [alone] at tail
      cases tail

/-- The digits of a literal do not start with a sign. -/
theorem startsWithSign_digits : startsWithSign (l.digits.map Digit.char) = false := by
  obtain ⟨d, ds, hds⟩ := List.exists_cons_of_ne_nil l.digits_ne_nil
  have no_mark {c : Char} (hc : 16 ≤ digitValue c) : d.char ≠ c := d.char_ne l.form.radix_le hc
  rw [hds, List.map_cons]
  unfold startsWithSign
  split
  · next h => exact absurd (List.cons.inj h).1 (no_mark (by decide))
  · next h => exact absurd (List.cons.inj h).1 (no_mark (by decide))
  · rfl

/-- Taking apart what a literal spells gives its sign, its radix and its digits. -/
theorem parts_spelling :
    parts l.spelling = ⟨decide (l.sign = .minus), l.form.radix, l.digits.map Digit.char⟩ := by
  unfold parts spelling
  rw [splitSign_chars _ (l.form.startsWithSign_chars l.startsWithSign_digits)]
  dsimp only
  rw [l.splitRadix_spelling]

end Literal

/-! ### Reading -/

/-- Digits without a sign of their own are read if there are any, with a minus sign put in front of
them only in a signed type. -/
theorem readDigits_eq_ok_iff {k : IntKind} {radix : Nat} {negative : Bool} {cs : List Char}
    {n : Int} (h : startsWithSign cs = false) :
    readDigits k radix (if negative then '-' :: cs else cs) = .ok n ↔
      cs ≠ [] ∧ (negative = true → k.signed = true) ∧
        appendDigits k radix negative 0 cs = .ok n := by
  cases negative with
  | true =>
    cases cs with
    | nil => simp [readDigits]
    | cons c cs =>
      have read : readDigits k radix ('-' :: c :: cs) =
          if k.signed then appendDigits k radix true 0 (c :: cs) else .error .invalidDigit := rfl
      simp only [if_true, read]
      split
      · next hs => simp [hs]
      · next hs => simp [hs]
  | false =>
    simp only [Bool.false_eq_true, if_false, false_imp_iff, true_and]
    unfold readDigits
    split
    · simp
    · cases h
    · cases h
    · cases h
    · cases h
    · next nonempty _ _ _ _ => exact (and_iff_right nonempty).symm

/-- What reading a literal comes to once it is taken apart. -/
theorem readLiteral_parts {k : IntKind} {cs : List Char} {n : Int} :
    readLiteral k cs = .ok n ↔
      startsWithSign (parts cs).digits = false ∧ (parts cs).digits ≠ [] ∧
        ((parts cs).negative = true → k.signed = true) ∧
          appendDigits k (parts cs).radix (parts cs).negative 0 (parts cs).digits = .ok n := by
  unfold readLiteral
  dsimp only
  split
  · next h => simp [h]
  · next h =>
    have unsigned := Bool.eq_false_iff.2 h
    rw [mapError_eq_ok_iff, readDigits_eq_ok_iff unsigned]
    exact (and_iff_right unsigned).symm

/-- What has been read as a literal is what some literal spells. -/
theorem exists_literal {k : IntKind} {cs : List Char} {n : Int} (h : readLiteral k cs = .ok n) :
    ∃ l : Literal, l.spelling = cs := by
  obtain ⟨-, hne, -, h⟩ := readLiteral_parts.1 h
  obtain ⟨sign, hsign, -⟩ := exists_sign cs
  obtain ⟨form, hform, hradix, hzero⟩ := exists_form (splitSign cs).2
  have hparts : (parts cs).radix = form.radix := hradix
  rw [hparts] at h
  obtain ⟨ds, hds⟩ := exists_digits form.radix_le h
  have digits : ds.map Digit.char = (splitRadix (splitSign cs).2).2 := hds
  refine ⟨⟨sign, form, ds, ?_, fun hd d rest hrest value => ?_⟩, ?_⟩
  · rintro rfl
    exact hne hds.symm
  · rw [hrest, List.map_cons, Digit.char_of_zero value] at digits
    exact List.map_eq_nil_iff.1 (hzero hd _ digits.symm)
  · show sign.chars ++ (form.chars ++ ds.map Digit.char) = cs
    rw [digits, ← hform, ← hsign]

/-- **What is an integer literal**, and what it is read as: the number that it denotes, in a type
that has it. -/
theorem readLiteral_eq_ok_iff {k : IntKind} {cs : List Char} {n : Int} :
    readLiteral k cs = .ok n ↔ ∃ l : Literal, l.spelling = cs ∧ l.Fits k ∧ l.value = n := by
  have spelled (l : Literal) :
      readLiteral k l.spelling = .ok n ↔ l.Fits k ∧ l.value = n := by
    rw [readLiteral_parts, l.parts_spelling]
    dsimp only
    rw [appendDigits_number l.form.radix_le]
    constructor
    · rintro ⟨-, -, hs, h⟩
      split at h
      · next inside =>
        cases h
        exact ⟨⟨inside, fun minus => hs (decide_eq_true minus)⟩, rfl⟩
      · cases h
    · rintro ⟨⟨inside, hs⟩, rfl⟩
      exact ⟨l.startsWithSign_digits, List.map_eq_nil_iff.not.2 l.digits_ne_nil,
        fun minus => hs (of_decide_eq_true minus), if_pos inside⟩
  constructor
  · intro h
    obtain ⟨l, rfl⟩ := exists_literal h
    exact ⟨l, rfl, (spelled l).1 h⟩
  · rintro ⟨l, rfl, h⟩
    exact (spelled l).2 h

/-! ### Spelling numbers -/

section
variable {radix : Nat}

/-- A digit at the end counts as many as it denotes, and all digits in front of it count for as much
more as the radix says. -/
theorem number_concat (ds : List (Digit radix)) (d : Digit radix) :
    number (ds ++ [d]) = number ds * radix + d.value := by
  rw [number_eq_numberFrom, number_eq_numberFrom, numberFrom, List.foldl_append]
  rfl

/-- The shortest digits of a number denote it, and they start with a zero only if they are just
that. -/
theorem exists_toDigits (hr : 1 < radix) (n : Nat) :
    ∃ ds : List (Digit radix), ds.map Digit.char = Nat.toDigits radix n ∧ number ds = n ∧
      ds ≠ [] ∧ ∀ d rest, ds = d :: rest → d.value.val = 0 → rest = [] := by
  induction n using Nat.strongRecOn with
  | ind n ih =>
    rw [Nat.toDigits_eq_if hr]
    split
    · next small =>
      refine ⟨[⟨⟨n, small⟩, false⟩], rfl, ?_, nofun, fun d rest h _ => (List.cons.inj h).2.symm⟩
      rw [number_eq_numberFrom]
      simp [numberFrom]
    · next large =>
      obtain ⟨ds, hds, hn, hne, hzero⟩ := ih (n / radix) (Nat.div_lt_self (by omega) hr)
      have last : n % radix < radix := Nat.mod_lt _ (by omega)
      refine ⟨ds ++ [⟨⟨n % radix, last⟩, false⟩], ?_, ?_, by simp, fun d rest h value => ?_⟩
      · rw [List.map_append, hds]
        rfl
      · rw [number_concat, hn]
        exact Nat.div_add_mod' n radix
      -- a leading zero would be all that is in front of the last digit
      · obtain ⟨d', ds', rfl⟩ := List.exists_cons_of_ne_nil hne
        obtain ⟨rfl, -⟩ := List.cons.inj h
        have alone : ds' = [] := hzero d' ds' rfl value
        have front : n / radix = 0 := by
          rw [← hn, alone, number_eq_numberFrom]
          simp [numberFrom, value]
        have := Nat.div_pos (Nat.le_of_not_lt large) (by omega : 0 < radix)
        omega

end

/-- The spelling of a number in a form, without a plus sign and without zeros in front of its
digits. -/
def spell (form : Form) (n : Int) : List Char :=
  (if n < 0 then ['-'] else []) ++ (form.chars ++ Nat.toDigits form.radix n.natAbs)

/-- What a number is spelled as is what a literal for it spells, with a minus sign only for numbers
below zero. -/
theorem exists_literal_spell (form : Form) (n : Int) :
    ∃ l : Literal, l.spelling = spell form n ∧ l.value = n ∧ (l.sign = .minus → n < 0) := by
  have base : 1 < form.radix := by cases form <;> decide
  obtain ⟨ds, hds, hn, hne, hzero⟩ := exists_toDigits base n.natAbs
  by_cases h : n < 0
  · refine ⟨⟨.minus, form, ds, hne, fun _ => hzero⟩, ?_, ?_, fun _ => h⟩
    · rw [Literal.spelling, hds, spell, if_pos h]
      rfl
    · rw [Literal.value, hn]
      simp only [decide_true, signed, if_true]
      omega
  · refine ⟨⟨.none, form, ds, hne, fun _ => hzero⟩, ?_, ?_, nofun⟩
    · rw [Literal.spelling, hds, spell, if_neg h]
      rfl
    · rw [Literal.value, hn]
      simp only [reduceCtorEq, decide_false, signed, Bool.false_eq_true, if_false]
      omega

end Numeral

/-- Only signed types hold numbers below zero. -/
theorem IntKind.signed_of_holds {k : IntKind} {n : Int} (h : k.holds n = true) (hn : n < 0) :
    k.signed = true := by
  by_contra unsigned
  have least : k.least = 0 := if_neg unsigned
  have := (holds_iff.1 h).1
  omega

/-- The failure that reports a problem is of the kind of the problem. -/
theorem Problem.kind_failure (p : Problem) : p.failure.kind = p.kind := by
  unfold failure
  split <;> rfl

/-- Reading an integer succeeds exactly on the literals of its type. -/
theorem readInteger_eq_ok_iff {k : IntKind} {text : String} {n : Int} :
    readInteger k text = .ok n ↔ Numeral.readLiteral k text.toList = .ok n := mapError_eq_ok_iff

/-- Whatever is wrong with an integer is a matter of its format. -/
theorem kind_of_readInteger {k : IntKind} {text : String} {p : Problem}
    (h : readInteger k text = .error p) : p.kind = .number := by
  unfold readInteger at h
  cases hl : Numeral.readLiteral k text.toList with
  | ok n => rw [hl] at h; cases h
  | error e => rw [hl] at h; cases e <;> cases h <;> rfl

namespace Scope

open Numeral

/-- A text that stands for an integer is read as a literal, and a mistake in it becomes a
failure. -/
theorem ofText_int {C : Scope} {k : IntKind} {text : String} : C.ofText text (.int k) =
    ((readInteger k text).map (Value.int k)).mapError Problem.failure := rfl

/-- A text is decoded as an integer exactly if it is read as a literal of the type. -/
theorem ofText_int_eq_ok_iff {C : Scope} {k : IntKind} {text : String} {v : Value} :
    C.ofText text (.int k) = .ok v ↔ ∃ n, readLiteral k text.toList = .ok n ∧ v = .int k n := by
  rw [ofText_int, mapError_eq_ok_iff, map_eq_ok_iff]
  simp only [readInteger_eq_ok_iff, eq_comm]

/-- A text that cannot be decoded as an integer is a failure of the number format. -/
theorem kind_of_ofText_int {C : Scope} {k : IntKind} {text : String} {f : Failure}
    (h : C.ofText text (.int k) = .error f) : f.kind = .number := by
  rw [ofText_int] at h
  cases hr : readInteger k text with
  | ok n => rw [hr] at h; cases h
  | error p =>
    rw [hr] at h
    cases h
    rw [p.kind_failure, kind_of_readInteger hr]

/-- **Integer literals decode exactly.**  For every integer type, a text is decoded if and only if
it is a literal that the type has, and then to the number that the literal denotes; every other text
is a failure of the number format.  So what a number of the type is spelled as, in any form, is
decoded to it. -/
theorem integer_literals_decode (C : Scope) (k : IntKind) :
    (∀ text v, C.ofText text (.int k) = .ok v ↔
      ∃ l : Literal, l.spelling = text.toList ∧ l.Fits k ∧ v = .int k l.value) ∧
    (∀ text, (¬ ∃ l : Literal, l.spelling = text.toList ∧ l.Fits k) →
      ∃ f, C.ofText text (.int k) = .error f ∧ f.kind = .number) ∧
    ∀ form n, k.holds n = true →
      C.ofText (String.ofList (spell form n)) (.int k) = .ok (.int k n) := by
  have decoded (text : String) (v : Value) : C.ofText text (.int k) = .ok v ↔
      ∃ l : Literal, l.spelling = text.toList ∧ l.Fits k ∧ v = .int k l.value := by
    rw [ofText_int_eq_ok_iff]
    constructor
    · rintro ⟨n, hn, rfl⟩
      obtain ⟨l, hl, fits, rfl⟩ := readLiteral_eq_ok_iff.1 hn
      exact ⟨l, hl, fits, rfl⟩
    · rintro ⟨l, hl, fits, rfl⟩
      exact ⟨l.value, readLiteral_eq_ok_iff.2 ⟨l, hl, fits, rfl⟩, rfl⟩
  refine ⟨decoded, fun text none => ?_, fun form n hn => ?_⟩
  · cases h : C.ofText text (.int k) with
    | ok v =>
      obtain ⟨l, hl, fits, -⟩ := (decoded text v).1 h
      exact absurd ⟨l, hl, fits⟩ none
    | error f => exact ⟨f, rfl, kind_of_ofText_int h⟩
  · obtain ⟨l, hl, hvalue, minus⟩ := exists_literal_spell form n
    have fits : l.Fits k := ⟨hvalue.symm ▸ hn, fun h => IntKind.signed_of_holds hn (minus h)⟩
    exact (decoded _ _).2 ⟨l, by rw [hl, String.toList_ofList], fits, by rw [hvalue]⟩

/-- The ends of three types, each in another form; the number behind an end, which is refused; and a
literal below zero with letters of both cases. -/
theorem integer_literals_decode_at_the_ends :
    let C : Scope := ⟨Sample.schema, Registry.empty⟩
    C.ofText "-128" (.int .i8) = .ok (.int .i8 (-128)) ∧
      C.ofText "0177777" (.int .u16) = .ok (.int .u16 65535) ∧
      C.ofText "#7fffffffffffffff" (.int .i64) = .ok (.int .i64 9223372036854775807) ∧
      ¬ (∃ l : Literal, l.spelling = "128".toList ∧ l.Fits .i8) ∧
      (∃ f, C.ofText "128" (.int .i8) = .error f ∧ f.kind = .number) ∧
      C.ofText "-0XfF" (.int .i16) = .ok (.int .i16 (-255)) := by
  intro C
  have least := (integer_literals_decode C .i8).2.2 .decimal (-128) (by decide)
  have greatest := (integer_literals_decode C .u16).2.2 .octal 65535 (by decide)
  have long := (integer_literals_decode C .i64).2.2 .hashHex 9223372036854775807 (by decide)
  have beyond : ¬ ∃ l : Literal, l.spelling = "128".toList ∧ l.Fits .i8 := by
    rintro ⟨l, hl, fits⟩
    have decoded := ((integer_literals_decode C .i8).1 "128" _).2 ⟨l, hl, fits, rfl⟩
    have refused : C.ofText "128" (.int .i8) =
        .error (Problem.badNumber "128" IntegerError.tooLarge.external).failure := by
      decide +kernel
    rw [refused] at decoded
    cases decoded
  let hex : Literal :=
    ⟨.minus, .upperHex, [⟨⟨15, by decide⟩, false⟩, ⟨⟨15, by decide⟩, true⟩], by decide, nofun⟩
  exact ⟨least, greatest, long, beyond, (integer_literals_decode C .i8).2.1 "128" beyond,
    ((integer_literals_decode C .i16).1 "-0XfF" _).2 ⟨hex, by decide, by decide, by decide⟩⟩

end Scope
end BeanPath
