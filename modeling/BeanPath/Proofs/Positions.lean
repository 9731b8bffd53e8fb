import BeanPath.Proofs.Literals
import BeanPath.Proofs.Readings
import BeanPath.Proofs.SetSteps

/-!
# Positions that a name denotes

The text of a name may be an integer literal of any magnitude and in any radix, and then the name
denotes the number of the literal (`Name.Denotes`).  A position is read as a number of 64 bits, so a
literal is read as what it denotes or refused because its number is too large or too small
(`Numeral.Literal.readLiteral_spelling`).

A number in range is compared with the size, and the failure at or beyond the end reports it.  One
out of range is never compared with anything: in a sequence it is a malformed number, and in a set
it is no position, so its text is looked up among the elements like any other text.  Reading a text
as an element may fail too, but never for being out of bounds (`Scope.kind_of_ofText_ne_bounds`).
-/

namespace BeanPath

/-! ### Literals in and out of range -/

namespace IntKind

/-- A number that is not below zero and less than the first one with more than 63 bits is a number
of 64 bits. -/
theorem holds_i64_of_lt {i : Int} (nonneg : 0 ≤ i) (small : i < 2 ^ 63) : i64.holds i = true := by
  have last : i64.greatest = 2 ^ 63 - 1 := by decide
  exact holds_iff.2 ⟨i64.least_nonpos.trans nonneg, by omega⟩

/-- Numbers of 64 bits have at most 63 bits besides the sign. -/
theorem lt_of_holds_i64 {i : Int} (h : i64.holds i = true) : i < 2 ^ 63 := by
  have last : i64.greatest = 2 ^ 63 - 1 := by decide
  have := (holds_iff.1 h).2
  omega

end IntKind

namespace Numeral

/-- In a signed type, digits without a sign of their own are read with or without a minus in
front. -/
theorem readDigits_of_signed {k : IntKind} (hk : k.signed = true) (radix : Nat) (negative : Bool)
    {cs : List Char} (hs : startsWithSign cs = false) (hne : cs ≠ []) :
    readDigits k radix (if negative then '-' :: cs else cs) =
      appendDigits k radix negative 0 cs := by
  obtain ⟨c, cs, rfl⟩ := List.exists_cons_of_ne_nil hne
  cases negative with
  | true => exact if_pos hk
  | false =>
    simp only [Bool.false_eq_true, if_false]
    unfold readDigits
    split
    · next h => cases h
    · next h => cases h; cases hs
    · next h => cases h; cases hs
    · next h => cases h; cases hs
    · next h => cases h; cases hs
    · rfl

/-- What a literal denotes is read, or is out of the range of the type. -/
theorem Literal.readLiteral_spelling {k : IntKind} (hk : k.signed = true) (l : Literal) :
    readLiteral k l.spelling =
      if k.holds l.value then .ok l.value
      else .error (.digits (if l.sign = .minus then .tooSmall else .tooLarge)) := by
  have hne : l.digits.map Digit.char ≠ [] := List.map_eq_nil_iff.not.2 l.digits_ne_nil
  unfold readLiteral
  rw [l.parts_spelling]
  dsimp only
  rw [l.startsWithSign_digits, if_neg Bool.false_ne_true,
    readDigits_of_signed hk _ _ l.startsWithSign_digits hne, appendDigits_number l.form.radix_le]
  change (if k.holds l.value then Except.ok l.value else Except.error _).mapError _ = _
  split
  · rfl
  · by_cases minus : l.sign = .minus
    · rw [if_pos minus, if_pos (decide_eq_true minus)]
      rfl
    · rw [if_neg minus, if_neg (by simpa using minus)]
      rfl

/-- No literal is spelled as the empty text. -/
theorem Literal.spelling_ne_nil (l : Literal) : l.spelling ≠ [] := by
  intro h
  have digits : l.digits.map Digit.char = [] :=
    (List.append_eq_nil_iff.1 (List.append_eq_nil_iff.1 h).2).2
  exact l.digits_ne_nil (List.map_eq_nil_iff.1 digits)

/-- A literal with a minus sign denotes no positive number. -/
theorem Literal.value_nonpos {l : Literal} (h : l.sign = .minus) : l.value ≤ 0 := by
  simp only [value, signed, h, decide_true, if_true]
  omega

/-- A literal without a minus sign denotes no negative number. -/
theorem Literal.value_nonneg {l : Literal} (h : l.sign ≠ .minus) : 0 ≤ l.value := by
  simp only [value, signed, h, decide_false, Bool.false_eq_true, if_false]
  omega

end Numeral

/-! ### What names denote -/

namespace Name

/-- The text of a name is a literal of a number, of whatever magnitude; a star denotes nothing. -/
def Denotes (n : Name) (i : Int) : Prop :=
  n.wild = false ∧ ∃ l : Numeral.Literal, l.spelling = n.text.toList ∧ l.value = i

/-- The problem with a number of more than 64 bits: it counts as malformed. -/
def oversized (n : Name) (i : Int) : Problem :=
  .badNumber n.text (if i < 0 then IntegerError.tooSmall else .tooLarge).external

/-- The problem with a number that is no position below a size. -/
def misplaced (n : Name) (i : Int) (size : Nat) : Problem :=
  if IntKind.i64.holds i then .outOfBounds i size else n.oversized i

/-- What is read as an integer of some type denotes that integer. -/
theorem denotes_of_readInteger {n : Name} {k : IntKind} {i : Int} (hn : n.wild = false)
    (h : BeanPath.readInteger k n.text = .ok i) : n.Denotes i := by
  obtain ⟨l, hl, -, value⟩ := Numeral.readLiteral_eq_ok_iff.1 (readInteger_eq_ok_iff.1 h)
  exact ⟨hn, l, hl, value⟩

variable {n : Name} {i : Int} (h : n.Denotes i)
include h

/-- The text of a name that denotes a number is not empty. -/
theorem Denotes.text_ne_empty : n.text ≠ "" := by
  obtain ⟨-, l, hl, -⟩ := h
  rintro empty
  exact l.spelling_ne_nil (by rw [hl, empty]; rfl)

/-- A number is read as a position if it has 64 bits. -/
theorem Denotes.readInteger : readInteger .i64 n.text =
    if IntKind.i64.holds i then .ok i else .error (n.oversized i) := by
  obtain ⟨-, l, hl, rfl⟩ := h
  have least := IntKind.i64.least_nonpos
  have greatest := IntKind.i64.greatest_pos
  unfold BeanPath.readInteger oversized
  rw [← hl, Numeral.Literal.readLiteral_spelling rfl]
  split
  · rfl
  · next out =>
    rw [IntKind.holds_iff] at out
    by_cases minus : l.sign = .minus
    · have := Numeral.Literal.value_nonpos minus
      have negative : l.value < 0 := by omega
      rw [if_pos minus, if_pos negative]
      rfl
    · have := Numeral.Literal.value_nonneg minus
      have positive : ¬ l.value < 0 := by omega
      rw [if_neg minus, if_neg positive]
      rfl

/-- A number from zero up that has 64 bits is read as itself. -/
theorem Denotes.readInteger_nat {j : Nat} (hj : i = j) (small : i < 2 ^ 63) :
    BeanPath.readInteger .i64 n.text = .ok (j : Int) := by
  rw [h.readInteger, if_pos (IntKind.holds_i64_of_lt (hj ▸ Int.natCast_nonneg j) small), hj]

/-- A number outside a size, or of more than 64 bits, is no position. -/
theorem Denotes.index_eq_error {size : Nat} (out : ¬ (0 ≤ i ∧ i < size ∧ i < 2 ^ 63)) :
    n.index size = .error (n.misplaced i size) := by
  unfold index
  rw [h.readInteger]
  split
  · next held =>
    have small := IntKind.lt_of_holds_i64 held
    rw [bind_ok, boundedIndex, dif_neg fun hi => out ⟨hi.1, hi.2, small⟩, misplaced, if_pos held]
  · next long => rw [bind_error, misplaced, if_neg long]

/-- A name without a qualifier is the position that it denotes, if that has 64 bits, and else
none. -/
theorem Denotes.position? (hq : n.qualifier = none) :
    n.position? = if IntKind.i64.holds i then some i else none := by
  unfold Name.position?
  rw [hq, h.readInteger, Option.isSome_none, if_neg Bool.false_ne_true]
  split <;> rfl

end Name

/-! ### Numbers that are no positions of a sequence -/

/-- A number outside is no position of any form of sequences. -/
theorem SeqForm.indexOf_of_misplaced {n : Name} {i : Int} {vs : List Value} (form : SeqForm)
    (h : n.Denotes i) (out : ¬ (0 ≤ i ∧ i < vs.length ∧ i < 2 ^ 63)) :
    form.indexOf vs n = .error (n.misplaced i vs.length) := by
  rw [indexOf, h.1, if_neg Bool.false_ne_true, h.index_eq_error out]

namespace Navigator

variable {N : Navigator} {n : Name} {form : SeqForm} {vs : List Value} {p : Problem}
  (hi : form.indexOf vs n = .error p)
include hi

/-- Reading in a sequence fails for the reason that a name is no position of it. -/
theorem get_seq_of_error : N.get (.seq form vs) n = .error p.failure := by
  have hg : form.getAt vs n = .error p := by rw [SeqForm.getAt, hi, bind_error]
  rw [get_of_seq, hg]
  rfl

/-- A step into a sequence fails for the reason that a name is no position of it. -/
theorem descend_seq_of_error : N.descend (.seq form vs) n = .error p.failure := by
  have hp : form.placeAt vs n = .error p := by rw [SeqForm.placeAt, hi, bind_error]
  simp only [descend, Focus.present_whole, Value.payload?, liftProblem_ok, bind_ok, descendInto, hp,
    liftProblem_error, bind_error]

end Navigator

/-! ### Numbers that are no positions of a set -/

namespace Scope

variable {C : Scope} {n : Name} {i : Int} {form : SetForm} {vs : List Value}

/-- What a text is looked up as in a set where no type is stated: it is read as the declared type of
the elements, or as the type of the first one. -/
def elementOfText (C : Scope) (form : SetForm) (vs : List Value) (text : String) :
    Except Failure Value :=
  match form.element? <|> vs.head?.map Value.ty with
  | some t => C.ofText text t
  | none => .error (Problem.undeterminedType form.ty text).failure

/-- A name that is no position and states no type is looked up by its text. -/
theorem elementFor_of_text (hq : n.qualifier = none) (hp : n.position? = none) :
    C.elementFor form vs n none = C.elementOfText form vs n.text := by
  unfold elementFor elementOfText qualifier?
  rw [hp, hq]
  simp only [liftProblem_ok, bind_ok]
  cases form.element? <;> cases vs <;> rfl

/-- A number of 64 bits beyond the last element is out of bounds in a set. -/
theorem elementFor_of_beyond (h : n.Denotes i) (hq : n.qualifier = none)
    (beyond : (vs.length : Int) ≤ i) (small : i < 2 ^ 63) :
    C.elementFor form vs n none = .error (.outOfBounds (toString i) vs.length) := by
  have held : IntKind.i64.holds i = true := IntKind.holds_i64_of_lt (by omega) small
  have hp : n.position? = some i := by rw [h.position? hq, if_pos held]
  unfold elementFor
  rw [hp]
  simp only [boundedIndex, dif_neg fun hi : 0 ≤ i ∧ i < vs.length => absurd hi.2 (by omega)]
  rfl

/-- A text may be no scalar of a type, but that is never a matter of bounds. -/
theorem kind_of_scalarOfText_ne_bounds {text : String} (hne : text ≠ "") {s : Scalar} {p : Problem}
    (h : C.scalarOfText text s = .error p) : p.kind ≠ .bounds := by
  cases s with
  | text => cases h
  | bool => cases h
  | int k =>
    cases hr : BeanPath.readInteger k text with
    | ok n => rw [scalarOfText, hr] at h; cases h
    | error p' =>
      rw [scalarOfText, hr] at h
      cases h
      simp [kind_of_readInteger hr]
  | float k =>
    cases hr : Decimal.read k (Text.trim text.toList) with
    | ok bits => rw [scalarOfText, hr] at h; cases h
    | error e => rw [scalarOfText, hr] at h; cases h; nofun
  | char =>
    rw [scalarOfText] at h
    split at h
    · cases h
    · next empty => exact absurd (String.toList_eq_nil_iff.1 empty) hne
  | typeRef =>
    cases hr : C.typeOf text with
    | ok t => rw [scalarOfText, hr] at h; cases h
    | error p' =>
      rw [scalarOfText, hr] at h
      cases h
      unfold typeOf at hr
      split at hr <;> cases hr
      nofun

/-- A text may be no value of a type, but that is never a matter of bounds. -/
theorem kind_of_ofText_ne_bounds {text : String} (hne : text ≠ "") {t : Ty} {f : Failure}
    (h : C.ofText text t = .error f) : f.kind ≠ .bounds := by
  fun_induction ofText C text t generalizing f with
  | case1 => cases h
  | case2 s =>
    cases hs : C.scalarOfText text s with
    | ok v => rw [hs] at h; cases h
    | error p =>
      rw [hs] at h
      cases h
      rw [p.kind_failure]
      exact kind_of_scalarOfText_ne_bounds hne hs
  | case3 t ih =>
    cases ht : C.ofText text t with
    | error f' =>
      rw [ht] at h
      cases h
      exact ih ht
    | ok v =>
      rw [ht, bind_ok, Value.inOption] at h
      split at h <;> cases h
      nofun
  | case4 t _ _ _ result hc =>
    obtain ⟨make, -, rfl⟩ := Option.map_eq_some_iff.1 hc
    cases hm : make text with
    | ok v => rw [hm] at h; cases h
    | error e => rw [hm] at h; cases h; nofun
  | case5 => cases h; nofun

/-- A text may be no element of a set, but that is never a matter of bounds. -/
theorem kind_of_elementOfText_ne_bounds {text : String} (hne : text ≠ "") {f : Failure}
    (h : C.elementOfText form vs text = .error f) : f.kind ≠ .bounds := by
  unfold elementOfText at h
  split at h
  · exact kind_of_ofText_ne_bounds hne h
  · cases h
    nofun

end Scope

/-! ### Numbers beyond the end -/

/-- **A number of 64 bits beyond the end is out of bounds**, in a sequence and in a set, and the
failure reports it with the size.  A larger number is no matter of bounds: in a sequence it is a
malformed number, and in a set its text is looked up as an element, which gives the element, gives
nothing or fails because no element can be made from it. -/
theorem numbers_of_64_bits_beyond_the_end_are_out_of_bounds (N : Navigator) {n : Name} {i : Int}
    (h : n.Denotes i) (hq : n.qualifier = none) :
    (i < 2 ^ 63 →
      (∀ form vs, (vs.length : Int) ≤ i →
        N.get (.seq form vs) n = .error (.outOfBounds (toString i) vs.length) ∧
        N.descend (.seq form vs) n = .error (.outOfBounds (toString i) vs.length)) ∧
      ∀ form vs, (vs.length : Int) ≤ i →
        N.get (.set form vs) n = .error (.outOfBounds (toString i) vs.length) ∧
        N.descend (.set form vs) n = .error (.outOfBounds (toString i) vs.length)) ∧
    (2 ^ 63 ≤ i →
      (∀ form vs,
        N.get (.seq form vs) n =
          .error (Problem.badNumber n.text IntegerError.tooLarge.external).failure ∧
        N.descend (.seq form vs) n =
          .error (Problem.badNumber n.text IntegerError.tooLarge.external).failure) ∧
      ∀ form vs,
        (∀ e, N.scope.elementOfText form vs n.text = .ok e →
          N.get (.set form vs) n =
            .ok ((N.scope.schema.element? form vs e).map (⟨·, false⟩)) ∧
          N.descend (.set form vs) n = match N.scope.schema.element? form vs e with
            | some v => .ok (.copy v (.element e))
            | none => .error Problem.nullTarget.failure) ∧
        ∀ f, N.scope.elementOfText form vs n.text = .error f →
          N.get (.set form vs) n = .error f ∧ N.descend (.set form vs) n = .error f ∧
            f.kind ≠ .bounds) := by
  refine ⟨fun small => ⟨fun form vs beyond => ?_, fun form vs beyond => ?_⟩,
    fun large => ?_⟩
  · have out : ¬ (0 ≤ i ∧ i < vs.length ∧ i < 2 ^ 63) := by omega
    have hm : n.misplaced i vs.length = .outOfBounds i vs.length :=
      if_pos (IntKind.holds_i64_of_lt (by omega) small)
    have hi := (form.indexOf_of_misplaced h out).trans (congrArg Except.error hm)
    exact ⟨N.get_seq_of_error hi, N.descend_seq_of_error hi⟩
  · have he : N.scope.elementFor form vs n none = .error (.outOfBounds (toString i) vs.length) :=
      Scope.elementFor_of_beyond h hq beyond small
    exact ⟨N.get_set_of_failed h.1 he, N.descend_set_of_failed h.1 he⟩
  · have long : ¬ IntKind.i64.holds i = true := fun held => by
      have := IntKind.lt_of_holds_i64 held
      omega
    refine ⟨fun form vs => ?_, fun form vs => ?_⟩
    · have out : ¬ (0 ≤ i ∧ i < vs.length ∧ i < 2 ^ 63) := by omega
      have hm : n.misplaced i vs.length = .badNumber n.text IntegerError.tooLarge.external := by
        have positive : ¬ i < 0 := by omega
        rw [Name.misplaced, if_neg long, Name.oversized, if_neg positive]
      have hi := (form.indexOf_of_misplaced h out).trans (congrArg Except.error hm)
      exact ⟨N.get_seq_of_error hi, N.descend_seq_of_error hi⟩
    · have hp : n.position? = none := by rw [h.position? hq, if_neg long]
      have ht : N.scope.elementFor form vs n none = N.scope.elementOfText form vs n.text :=
        Scope.elementFor_of_text hq hp
      refine ⟨fun e he => ?_, fun f hf => ?_⟩
      · rw [he] at ht
        exact ⟨N.get_set_of_element h.1 hp ht, N.descend_set h.1 ht⟩
      · rw [hf] at ht
        exact ⟨N.get_set_of_failed h.1 ht, N.descend_set_of_failed h.1 ht,
          Scope.kind_of_elementOfText_ne_bounds h.text_ne_empty hf⟩

/-- A number that 64 bits hold, and the first one that they do not hold, in hexadecimal digits. -/
theorem numbers_of_64_bits_beyond_the_end_are_out_of_bounds_in_samples :
    let N : Navigator := { scope := ⟨Sample.schema, Sample.freshRegistry⟩ }
    let near := Name.literal "0x10"
    let far := Name.literal "#8000000000000000"
    let numbers := Value.set (.table .tree (.int .i32)) [.int .i32 7]
    near.Denotes 16 ∧ far.Denotes (2 ^ 63) ∧
      N.get numbers near = .error (.outOfBounds "16" 1) ∧
      N.descend (.seq .dyn [.text "a"]) near = .error (.outOfBounds "16" 1) ∧
      N.get (.seq .dyn []) far =
        .error (Problem.badNumber far.text IntegerError.tooLarge.external).failure ∧
      ∃ f, N.get numbers far = .error f ∧ N.descend numbers far = .error f ∧
        f.kind ≠ .bounds := by
  intro N near far numbers
  have near_denotes : near.Denotes 16 :=
    Name.denotes_of_readInteger (k := .i64) rfl (by decide +kernel)
  have far_denotes : far.Denotes (2 ^ 63) :=
    Name.denotes_of_readInteger (k := .i128) rfl (by decide +kernel)
  have inside := (numbers_of_64_bits_beyond_the_end_are_out_of_bounds N near_denotes rfl).1
    (by decide)
  have outside := (numbers_of_64_bits_beyond_the_end_are_out_of_bounds N far_denotes rfl).2
    (by decide)
  have unread : N.scope.elementOfText (.table .tree (.int .i32)) [.int .i32 7] far.text =
      .error (Problem.badNumber far.text IntegerError.tooLarge.external).failure := by
    decide +kernel
  exact ⟨near_denotes, far_denotes, (inside.2 _ _ (by decide)).1, (inside.1 _ _ (by decide)).2,
    (outside.1 _ _).1, _, (outside.2 _ _).2 _ unread⟩

/-- A set of texts is asked for the first number that 64 bits do not hold: it is looked up as a text
and not compared with the size. -/
theorem number_of_more_than_64_bits_is_looked_up_as_text :
    let N : Navigator := { scope := ⟨Sample.schema, Sample.freshRegistry⟩ }
    let n := Name.literal "9223372036854775808"
    let texts := Value.set (.table .tree .text) [.text "a"]
    n.Denotes 9223372036854775808 ∧ n.qualifier = none ∧
      N.get texts n = .ok none ∧
      N.descend texts n = .error Problem.nullTarget.failure ∧
      N.get texts n ≠ .error (.outOfBounds "9223372036854775808" 1) ∧
      N.get (.seq .dyn []) n ≠ .error (.outOfBounds "9223372036854775808" 0) := by
  intro N n texts
  have denotes : n.Denotes 9223372036854775808 :=
    Name.denotes_of_readInteger (k := .i128) rfl (by decide +kernel)
  have position : n.position? = none := by decide +kernel
  have element : N.scope.elementFor (.table .tree .text) [.text "a"] n none =
      .ok (.text "9223372036854775808") := by
    rw [Scope.elementFor_of_text rfl position]
    rfl
  have missing : N.scope.schema.element? (.table .tree .text) [.text "a"]
      (.text "9223372036854775808") = none := by decide +kernel
  have read : N.get texts n = .ok none := by
    rw [N.get_set_of_element rfl position element, missing]
    rfl
  have unread : N.get (.seq .dyn []) n ≠ .error (.outOfBounds "9223372036854775808" 0) := by
    rw [N.get_seq_of_error (SeqForm.dyn.indexOf_of_misplaced denotes (by decide))]
    nofun
  refine ⟨denotes, rfl, read, ?_, ?_, unread⟩
  · rw [N.descend_set rfl element, missing]
  · rw [read]
    nofun

end BeanPath
