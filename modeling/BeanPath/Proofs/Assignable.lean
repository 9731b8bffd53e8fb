import BeanPath.Schema.Assignable

/-!
# What can be stored where

The search of `Schema.assignable` peels optional layers and climbs from a bean to its parent, in any
order.  The order does not matter: a type takes what is, under its optional layers, the same bean
or scalar or embeds it as a parent at some distance (`Schema.assignable_iff`).  So assignability is
reflexive and transitive.
-/

namespace BeanPath

/-- A type descends from itself and from the parents that it embeds, optional layers aside. -/
inductive Schema.Descends (S : Schema) : Ty → Ty → Prop where
  | self (t : Ty) : S.Descends t t
  | parent {t u : Ty} {f : Field} (hf : S.parentField? t = some f)
      (h : S.Descends f.ty.core u) : S.Descends t u

namespace Schema

variable {S : Schema} {t u v : Ty}

/-- Descent goes on from parent to parent. -/
theorem Descends.trans (h₁ : S.Descends t u) (h₂ : S.Descends u v) : S.Descends t v := by
  induction h₁ with
  | self t => exact h₂
  | parent hf _ ih => exact .parent hf (ih h₂)

/-- Only a bean has a parent, and no optional layer. -/
theorem core_of_parentField? {f : Field} (h : S.parentField? t = some f) : t.core = t := by
  unfold parentField? at h
  split at h
  · rfl
  · cases h

/-- What holds of all values descends from nothing else. -/
theorem Descends.eq_any (h : S.Descends .any t) : t = .any := by
  cases h with
  | self => rfl
  | parent hf _ => cases hf

/-- One step of the search. -/
theorem assignable_step {d o : Ty} :
    S.assignable d o = true ↔
      d = o ∨ d = .any ∨ (∃ t, d = .option t ∧ S.assignable t o = true) ∨
        (∃ t, o = .option t ∧ S.assignable d t = true) ∨
          ∃ f, S.parentField? o = some f ∧ S.assignable d f.ty = true := by
  rw [assignable.eq_def]
  simp only [Bool.or_eq_true, beq_iff_eq, or_assoc]
  refine or_congr .rfl (or_congr .rfl (or_congr ?_ (or_congr ?_ ?_)))
  · cases d <;> simp
  · cases o <;> simp
  · split <;> simp [*]

/-- A type takes what the type under its optional layers takes. -/
theorem assignable_of_core_left {d o : Ty} (h : S.assignable d.core o = true) :
    S.assignable d o = true := by
  induction d with
  | option t ih => exact assignable_step.2 (.inr (.inr (.inl ⟨t, rfl, ih h⟩)))
  | _ => exact h

/-- What is taken is taken under optional layers too. -/
theorem assignable_of_core_right {d o : Ty} (h : S.assignable d o.core = true) :
    S.assignable d o = true := by
  induction o with
  | option t ih => exact assignable_step.2 (.inr (.inr (.inr (.inl ⟨t, rfl, ih h⟩))))
  | _ => exact h

/-- A type takes what descends from it. -/
theorem Descends.assignable {d o : Ty} (h : S.Descends o d) : S.assignable d o = true := by
  induction h with
  | self t => exact assignable_step.2 (.inl rfl)
  | parent hf _ ih =>
    exact assignable_step.2 (.inr (.inr (.inr (.inr ⟨_, hf, assignable_of_core_right ih⟩))))

/-- What a type takes descends from it, optional layers aside, unless it is the type of all
values. -/
theorem assignable_cases {d o : Ty} (h : S.assignable d o = true) :
    d.core = .any ∨ S.Descends o.core d.core := by
  rcases assignable_step.1 h with rfl | rfl | ⟨t, hd, ht⟩ | ⟨t, ho, ht⟩ | ⟨f, hf, ht⟩
  · exact .inr (.self _)
  · exact .inl rfl
  · rw [hd]
    exact assignable_cases (d := t) ht
  · rw [ho]
    exact assignable_cases (o := t) ht
  · refine (assignable_cases ht).imp_right fun hd => ?_
    rw [core_of_parentField? hf]
    exact .parent hf hd
termination_by d.layers + o.extent S.extent
decreasing_by
  · rw [hd, Ty.layers]; omega
  · rw [ho, Ty.extent]; omega
  · exact Nat.add_lt_add_left (S.parentField?_extent_lt hf) _

/-- **What a type takes**: anything if it is that of all values, and otherwise what descends from
it, in both cases under any number of optional layers on either side. -/
theorem assignable_iff {d o : Ty} :
    S.assignable d o = true ↔ d.core = .any ∨ S.Descends o.core d.core := by
  refine ⟨assignable_cases, ?_⟩
  rintro (h | h)
  · refine assignable_of_core_left ?_
    rw [h]
    exact assignable_step.2 (.inr (.inl rfl))
  · exact assignable_of_core_left (assignable_of_core_right h.assignable)

/-- Every type takes itself. -/
theorem assignable_refl (t : Ty) : S.assignable t t = true := assignable_iff.2 (.inr (.self _))

/-- What is taken by a type is taken wherever that type is. -/
theorem assignable_trans {d m o : Ty} (h₁ : S.assignable d m = true)
    (h₂ : S.assignable m o = true) : S.assignable d o = true := by
  rw [assignable_iff] at h₁ h₂ ⊢
  rcases h₁ with h₁ | h₁
  · exact .inl h₁
  · rcases h₂ with h₂ | h₂
    · rw [h₂] at h₁
      exact .inl h₁.eq_any
    · exact .inr (h₂.trans h₁)

end Schema
end BeanPath
