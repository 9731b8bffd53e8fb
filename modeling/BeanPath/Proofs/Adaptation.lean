import BeanPath.Proofs.Payloads

/-!
# Adapting, by the number of layers

Seen through its optional layers, a value is a number of present ones over a value that is no
optional, or over an absent optional (`Value.exists_layers`).  A type is a number of layers over one
that is no optional (`Ty.exists_layers`).  So what adapting does is a matter of two numbers and of
what is innermost on either side.

That a value of the target type is taken at once makes no difference, because without that it would
be taken apart and put together again (`Value.adapt_self`).  Adapting to an optional is therefore
adapting the content, and putting the layer back (`Value.adapt_option`); this is what the inductions
on the layers of the target follow.
-/

namespace BeanPath

/-! ### Layers of types and of values -/

namespace Ty

/-- Under all its optional layers a type is no optional. -/
theorem kind_core (t : Ty) : t.core.kind ≠ .optional := by
  induction t with
  | option t ih => exact ih
  | _ => simp [core, kind]

/-- Every type is a number of optional layers over a type that is no optional. -/
theorem exists_layers (t : Ty) : ∃ T n, T.kind ≠ .optional ∧ t = wrapped T n :=
  ⟨t.core, t.layers, t.kind_core, t.wrapped_core_layers.symm⟩

/-- Layers over a type other than that of all values do not make it that of all values. -/
theorem wrapped_ne_any {t : Ty} (h : t ≠ .any) (n : Nat) : t.wrapped n ≠ .any := by
  cases n with
  | zero => exact h
  | succ n => simp [wrapped]

end Ty

namespace Value

/-- Every value is a number of layers over a value that is no optional, or over an absent one. -/
theorem exists_layers (v : Value) :
    (∃ x m, x.ty.kind ≠ .optional ∧ v = wrapped x m) ∨ ∃ u k, v = (absent u).wrapped k := by
  fun_induction payload? v with
  | case1 u => exact .inr ⟨u, 0, rfl⟩
  | case2 v ih =>
    obtain ⟨x, m, hx, rfl⟩ | ⟨u, k, rfl⟩ := ih
    · exact .inl ⟨x, m + 1, hx, rfl⟩
    · exact .inr ⟨u, k + 1, rfl⟩
  | case3 v notAbsent notPresent =>
    exact .inl ⟨v, 0, kind_ne_optional notAbsent notPresent, rfl⟩

/-- Layers do not change what is under them. -/
theorem payload?_wrapped (v : Value) (m : Nat) : (v.wrapped m).payload? = v.payload? := by
  induction m with
  | zero => rfl
  | succ m ih => rw [wrapped, payload?, ih]

/-- A value that is no optional is its own content. -/
theorem content?_of_kind {v : Value} (h : v.ty.kind ≠ .optional) : v.content? = some v := by
  cases v with
  | absent t => exact absurd rfl h
  | present v => exact absurd rfl h
  | _ => rfl

/-- The content of layers over a value has one layer less, if there is any. -/
theorem content?_wrapped {x : Value} (h : x.ty.kind ≠ .optional) (m : Nat) :
    (x.wrapped m).content? = some (x.wrapped (m - 1)) := by
  cases m with
  | zero => exact content?_of_kind h
  | succ m => rfl

/-! ### One layer of the target -/

/-- Under a target that is no optional all layers of the value are taken off, and what is left has
to be of that type. -/
theorem adapt_plain {T : Ty} (hk : T.kind ≠ .optional) (hT : T ≠ .any) (v : Value) :
    v.adapt T = match v.payload? with
      | none => .error (.nullNotAllowed T)
      | some w => if w.ty = T then .ok w else .error (.typeMismatch T w.ty) := by
  cases T with
  | any => exact absurd rfl hT
  | option t => exact absurd rfl hk
  | _ => rfl

/-- A value already of the target type is the result. -/
theorem adapt_self (v : Value) : v.adapt v.ty = .ok v := by
  by_cases hk : v.ty.kind = .optional
  · cases ht : v.ty with
    | option t => rw [adapt, if_pos ht]
    | _ => rw [ht] at hk; cases hk
  · rw [adapt_plain hk v.ty_ne_any, payload?_of_kind hk]
    exact if_pos rfl

/-- Adapting to an optional adapts the content and puts the layer back. -/
theorem adapt_option {inner : Ty} (hi : inner ≠ .any) (v : Value) :
    v.adapt (.option inner) = match v.content? with
      | none => .ok (absent inner)
      | some w => (w.adapt inner).map present := by
  have layer (w : Value) :
      (do (← w.adapt inner).inOption inner) = (w.adapt inner).map present := by
    cases h : w.adapt inner with
    | error e => rfl
    | ok x => exact if_pos ((ty_adapt h).resolve_left hi)
  by_cases ht : v.ty = .option inner
  · rw [adapt, if_pos ht]
    cases v with
    | absent t => cases ht; rfl
    | present w =>
      cases ht
      simp only [content?, adapt_self, Except.map]
    | seq form items => cases form <;> cases ht
    | map form es => cases form <;> cases ht
    | set form es => cases form <;> cases ht
    | _ => cases ht
  · rw [adapt, if_neg ht]
    cases v.content? with
    | none => rfl
    | some w => exact layer w

/-! ### All layers -/

section
variable {T : Ty} (hk : T.kind ≠ .optional) (hT : T ≠ .any)
include hk hT

/-- Over a payload the layers of the value do not count: only its type does. -/
theorem adapt_wrapped {x : Value} (hx : x.ty.kind ≠ .optional) (m n : Nat) :
    (x.wrapped m).adapt (T.wrapped n) =
      if x.ty = T then .ok (x.wrapped n) else .error (.typeMismatch T x.ty) := by
  induction n generalizing m with
  | zero =>
    have hp : (x.wrapped m).payload? = some x := by rw [payload?_wrapped, payload?_of_kind hx]
    rw [Ty.wrapped, adapt_plain hk hT, hp]
    rfl
  | succ n ih =>
    rw [Ty.wrapped, adapt_option (Ty.wrapped_ne_any hT n), content?_wrapped hx]
    dsimp only
    rw [ih (m - 1)]
    split <;> rfl

/-- An absent optional keeps the layers over it and needs one more of the target for itself; the
type it has no value of does not count. -/
theorem adapt_wrapped_absent (u : Ty) (k n : Nat) :
    ((absent u).wrapped k).adapt (T.wrapped n) =
      if k < n then .ok ((absent (T.wrapped (n - (k + 1)))).wrapped k)
      else .error (.nullNotAllowed T) := by
  induction n generalizing k with
  | zero =>
    have hp : ((absent u).wrapped k).payload? = none := payload?_wrapped ..
    rw [Ty.wrapped, adapt_plain hk hT, hp]
    rfl
  | succ n ih =>
    rw [Ty.wrapped, adapt_option (Ty.wrapped_ne_any hT n)]
    cases k with
    | zero => rfl
    | succ k =>
      show (((absent u).wrapped k).adapt (T.wrapped n)).map present = _
      simp only [ih k, Nat.add_lt_add_iff_right, Nat.add_sub_add_right]
      split <;> rfl

end

/-- What adapting does is settled by the layers of the value and of the target, for every value, for
none at all, and for every target: a target is that of all values, or a number of layers over a type
`T` that is neither optional nor that.  A result has the target type, and its payload is the one
that was given. -/
theorem adapt?_by_layers :
    (∀ v : Value, (∃ x m, x.ty.kind ≠ .optional ∧ v = wrapped x m) ∨
      ∃ u k, v = (absent u).wrapped k) ∧
    (∀ t : Ty, ∃ T n, T.kind ≠ .optional ∧ t = Ty.wrapped T n) ∧
    (∀ (T : Ty) (n : Nat), T.kind ≠ .optional → T ≠ .any →
      (∀ (x : Value) (m : Nat), x.ty.kind ≠ .optional →
        adapt? (some (x.wrapped m)) (T.wrapped n) =
          if x.ty = T then .ok (x.wrapped n) else .error (.typeMismatch T x.ty)) ∧
      ∀ (u : Ty) (k : Nat),
        adapt? (some ((absent u).wrapped k)) (T.wrapped n) =
          if k < n then .ok ((absent (T.wrapped (n - (k + 1)))).wrapped k)
          else .error (.nullNotAllowed T)) ∧
    (∀ t : Ty, adapt? none (.option t) = .ok (absent t)) ∧
    (∀ t : Ty, t.kind ≠ .optional → adapt? none t = .error (.nullNotAllowed t)) ∧
    (∀ v : Value, adapt? (some v) .any = .ok v) ∧
    ∀ (v : Option Value) (t : Ty) (w : Value), adapt? v t = .ok w →
      (t = .any ∨ w.ty = t) ∧ w.payload? = v.bind payload? := by
  refine ⟨exists_layers, Ty.exists_layers, fun T n hk hT => ⟨fun x m hx => ?_, fun u k => ?_⟩,
    fun t => rfl, fun t hk => ?_, fun v => rfl, fun v t w h => ⟨ty_adapt? h, ?_⟩⟩
  · exact adapt_wrapped hk hT hx m n
  · exact adapt_wrapped_absent hk hT u k n
  · cases t with
    | option t => exact absurd rfl hk
    | _ => rfl
  · cases v with
    | some v => exact payload?_adapt h
    | none =>
      cases t with
      | option t => cases h; rfl
      | _ => cases h

/-- Two layers over a text become one; one over no text is kept under a target of two, and is too
many for a target of one. -/
theorem adapt?_by_layers_text :
    adapt? (some ((text "a").wrapped 2)) (Ty.text.wrapped 1) = .ok ((text "a").wrapped 1) ∧
    adapt? (some ((absent .truth).wrapped 1)) (Ty.text.wrapped 2) =
      .ok ((absent .text).wrapped 1) ∧
    adapt? (some ((absent .text).wrapped 1)) (Ty.text.wrapped 1) =
      .error (.nullNotAllowed Ty.text) := by
  obtain ⟨-, -, by_layers, -⟩ := adapt?_by_layers
  have plain : Ty.text.kind ≠ .optional := by decide
  have present_text := (by_layers .text 1 plain (by decide)).1 (text "a") 2 plain
  have absent_text := (by_layers .text 1 plain (by decide)).2 .text 1
  have absent_truth := (by_layers .text 2 plain (by decide)).2 .truth 1
  exact ⟨by simpa only [text, ty, Atom.scalar, if_true] using present_text, absent_truth,
    absent_text⟩

end Value
end BeanPath
