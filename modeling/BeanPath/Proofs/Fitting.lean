import BeanPath.Proofs.Adaptation
import BeanPath.Proofs.Assignable
import BeanPath.Samples

/-!
# What fits a declared type

There are two notions of fitting.  By type, a declared type takes another one if, optional layers
aside, the other one is the same or embeds it as a parent at some distance
(`Schema.types_take_what_descends`).  By value, adapting puts a value under as many optional layers
as the declared type has, and asks for the same type under them (`Value.adapt_of_payload?`).

So the two agree as far as optional layers go and part at parents: what adapts is assignable, and
what is assignable adapts, unless the value is a bean that only embeds what is declared
(`Schema.values_fit_unless_embedding`).
-/

namespace BeanPath

namespace Schema

/-- **What a type takes, by climbing.**  A type takes every other one if it is that of all values,
and otherwise those from which some steps lead to it, each from a bean to the type of the field in
which it embeds its parent, with optional layers left out everywhere.  So every type takes itself,
and takes what is taken by one that it takes. -/
theorem types_take_what_descends (S : Schema) :
    (∀ d o : Ty, d.Proper →
      (S.assignable d o = true ↔ d = .any ∨ S.Descends o.core d.core)) ∧
    (∀ t : Ty, S.assignable t t = true) ∧
    ∀ d m o : Ty, S.assignable d m = true → S.assignable m o = true →
      S.assignable d o = true :=
  ⟨fun d o hd => by rw [assignable_iff, hd.core_eq_any_iff], assignable_refl,
    fun _ _ _ => assignable_trans⟩

/-- A bean whose parent is optional, under two more layers, for an optional of that parent; and the
last of a chain of three for the first. -/
theorem types_take_what_descends_under_layers :
    let S := Sample.schema
    (Ty.option Sample.entity.ty).Proper ∧
      S.assignable (.option Sample.entity.ty) (.option (.option Sample.orphan.ty)) = true ∧
      S.assignable Sample.entity.ty Sample.derived.ty = true ∧
      S.assignable Sample.derived.ty Sample.third.ty = true ∧
      S.assignable Sample.entity.ty Sample.third.ty = true := by
  intro S
  obtain ⟨by_climbing, -, chained⟩ := types_take_what_descends S
  have proper : (Ty.option Sample.entity.ty).Proper := by decide
  have inner : S.parentField? Sample.orphan.ty = some ⟨"inner", .option Sample.entity.ty⟩ := by
    decide +kernel
  have base : S.parentField? Sample.derived.ty = some ⟨"base", Sample.entity.ty⟩ := by
    decide +kernel
  have derived : S.parentField? Sample.third.ty = some ⟨"derived", Sample.derived.ty⟩ := by
    decide +kernel
  have first := (by_climbing _ Sample.derived.ty (by decide)).2 (.inr (.parent base (.self _)))
  have second := (by_climbing _ Sample.third.ty (by decide)).2 (.inr (.parent derived (.self _)))
  exact ⟨proper, (by_climbing _ _ proper).2 (.inr (.parent inner (.self _))), first, second,
    chained _ _ _ first second⟩

end Schema

/-! ### Values for declared types -/

namespace Value

/-- A value is a number of layers over its payload. -/
theorem exists_wrapped_of_payload? {v x : Value} (h : v.payload? = some x) :
    ∃ m, v = x.wrapped m := by
  obtain ⟨y, m, hy, rfl⟩ | ⟨u, k, rfl⟩ := v.exists_layers
  · rw [payload?_wrapped, payload?_of_kind hy] at h
    cases h
    exact ⟨m, rfl⟩
  · rw [payload?_wrapped] at h
    cases h

/-- A value with a payload is put under the layers of the target. -/
theorem adapt_of_payload? {v x : Value} {d : Ty} (hx : v.payload? = some x) (hd : d.core ≠ .any) :
    v.adapt d = if x.ty = d.core then .ok (x.wrapped d.layers)
      else .error (.typeMismatch d.core x.ty) := by
  obtain ⟨m, rfl⟩ := exists_wrapped_of_payload? hx
  have h := adapt_wrapped d.kind_core hd (kind_of_payload? hx) m d.layers
  rwa [d.wrapped_core_layers] at h

end Value

namespace Schema

/-- One type is taken by another, which is not that of all values, only because it embeds it at some
distance, optional layers aside. -/
def Embeds (S : Schema) (o d : Ty) : Prop :=
  d ≠ .any ∧ o.core ≠ d.core ∧ S.Descends o.core d.core

/-- **What is assignable adapts, unless it only embeds what is declared.**  For a value without an
absent optional around its payload, the declared type takes the type of the value exactly if the
value can be adapted to it or is a bean that embeds it at some distance; and such a bean cannot be
adapted. -/
theorem values_fit_unless_embedding (S : Schema) {v : Value} {d : Ty} (hv : v.payload? ≠ none)
    (hd : d.Proper) :
    (S.assignable d v.ty = true ↔
      (∃ w, Value.adapt? (some v) d = .ok w) ∨ S.Embeds v.ty d) ∧
    (S.Embeds v.ty d →
      Value.adapt? (some v) d = .error (.typeMismatch d.core v.ty.core)) := by
  obtain ⟨x, hx⟩ := Option.ne_none_iff_exists'.1 hv
  rw [assignable_iff, hd.core_eq_any_iff]
  by_cases hne : d = .any
  · subst hne
    exact ⟨iff_of_true (.inl rfl) (.inl ⟨v, rfl⟩), fun h => absurd rfl h.1⟩
  have adapts : Value.adapt? (some v) d =
      if v.ty.core = d.core then .ok (x.wrapped d.layers)
      else .error (.typeMismatch d.core v.ty.core) := by
    have h := Value.adapt_of_payload? hx (hd.core_ne_any hne)
    rwa [Value.ty_of_payload? hx] at h
  by_cases hcore : v.ty.core = d.core
  · rw [if_pos hcore] at adapts
    exact ⟨iff_of_true (.inr (hcore ▸ .self _)) (.inl ⟨_, adapts⟩), fun h => absurd hcore h.2.1⟩
  · rw [if_neg hcore] at adapts
    refine ⟨⟨?_, ?_⟩, fun _ => adapts⟩
    · rintro (h | h)
      · exact absurd h hne
      · exact .inr ⟨hne, hcore, h⟩
    · rintro (⟨w, hw⟩ | ⟨-, -, h⟩)
      · rw [adapts] at hw
        cases hw
      · exact .inr h

/-- A text adapts to two layers over texts, so they take its type; a number under a layer does not
adapt to a text, which does not take it; and the last of a chain of three, which embeds the first at
some distance, does not adapt to a layer over it. -/
theorem values_fit_unless_embedding_in_chain :
    let S := Sample.schema
    S.assignable (.option (.option .text)) (Value.text "a").ty = true ∧
      S.assignable .text (Value.present (.int .i8 1)).ty = false ∧
      S.Embeds Sample.third.ty (.option Sample.entity.ty) ∧
      Value.adapt? (some Sample.third.value) (.option Sample.entity.ty) =
        .error (.typeMismatch Sample.entity.ty Sample.third.ty) := by
  intro S
  have text_fits := values_fit_unless_embedding S (v := .text "a") (d := .option (.option .text))
    (by decide) (by decide)
  have number_fits := values_fit_unless_embedding S (v := .present (.int .i8 1)) (d := .text)
    (by decide) (by decide)
  have bean_fits := values_fit_unless_embedding S (v := Sample.third.value)
    (d := .option Sample.entity.ty) (by decide) (by decide)
  have number_embeds_no_text : ¬ S.Embeds (Value.present (.int .i8 1)).ty .text := by
    rintro ⟨-, -, h⟩
    cases h with
    | parent hf _ => cases hf
  have base : S.parentField? Sample.derived.ty = some ⟨"base", Sample.entity.ty⟩ := by
    decide +kernel
  have derived : S.parentField? Sample.third.ty = some ⟨"derived", Sample.derived.ty⟩ := by
    decide +kernel
  have embeds : S.Embeds Sample.third.ty (.option Sample.entity.ty) :=
    ⟨by decide, by decide, .parent derived (.parent base (.self _))⟩
  refine ⟨text_fits.1.2 (.inl ⟨_, rfl⟩), Bool.eq_false_iff.2 fun h => ?_, embeds,
    bean_fits.2 embeds⟩
  rcases number_fits.1.1 h with ⟨w, hw⟩ | hw
  · cases hw
  · exact number_embeds_no_text hw

/-- A bean for the parent that it embeds: the type is taken, a lookup for it finds the member, and
the value is refused. -/
theorem embedding_bean_is_taken_and_refused :
    let S := Sample.schema
    let v := Sample.derived.value
    let d := Sample.entity.ty
    v.payload? ≠ none ∧ d.Proper ∧ S.assignable d v.ty = true ∧
      (∃ m, S.member? { role := .field, name := "base", expected := some v.ty } v.ty = .ok m ∧
        m.map Member.ty = some d) ∧
      Value.adapt? (some v) d = .error (.typeMismatch d v.ty) := by
  intro S v d
  refine ⟨?_, ?_, ?_, ?_, ?_⟩ <;> decide +kernel

end Schema
end BeanPath
