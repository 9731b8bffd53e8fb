import BeanPath.Proofs.Distinct
import BeanPath.Proofs.SetSteps

/-!
# What a failed write-back leaves

A changed copy goes back through a setter or in place of the element that it was made from.  A
setter gives a new bean or none, so its failure changes nothing.  An element is taken out before the
new one is offered, and what decides is the type of the new one: of the type of the elements it is
always taken in (`Scope.takeIn_eq`), of another one never (`Scope.takeIn_of_mistyped`).  So only a
change of the type loses anything, and then it loses that element and nothing else.
-/

namespace BeanPath

open Update

namespace Scope

variable {C : Scope} {form : SetForm} {vs : List Value} {former u : Value}

/-- What an element finds is the first one that it finds, and that one is taken out. -/
theorem exists_found (hu : C.schema.element? form vs former = some u) :
    ∃ before after, vs = before ++ u :: after ∧
      vs.eraseP (C.schema.isElement form former) = before ++ after := by
  obtain ⟨found, before, after, rfl, first⟩ := List.find?_eq_some_iff_append.1 hu
  exact ⟨before, after, rfl, eraseP_of_first (fun w hw => by simpa using first w hw) found after⟩

end Scope

/-- **What a failed write-back leaves.**  Let a step down lead to a copy.  If the copy is to go back
through a setter, a failure changes nothing.  If it is to go back in place of an element, the copy
is an element of the set: what has the type of the elements goes back, and anything else is refused
with that element taken out and nothing put in its place, so the set is not what it was. -/
theorem failed_write_back_loses_the_element (N : Navigator) {n : Name} {c u : Value}
    {origin : Origin} (h : N.descend c n = .ok (.copy u origin)) :
    (∀ m v f c', origin = .setter m → N.reattach origin v c = .error f c' → c' = c) ∧
    ∀ former, origin = .element former → ∃ form before after,
      c.payload? = some (.set form (before ++ u :: after)) ∧
      (∀ v, (∀ t ∈ form.element?, v.ty = t) → ∃ c', N.reattach origin v c = .ok () c') ∧
      ∀ v t, form.element? = some t → v.ty ≠ t →
        let lost := c.withPayload (.set form (before ++ after))
        N.reattach origin v c = .error (Fault.typeMismatch t v.ty).failure lost ∧ lost ≠ c := by
  obtain ⟨p, hp, hc⟩ := N.copy_cases h
  refine ⟨?_, ?_⟩
  · rintro m v f c' rfl hf
    exact N.reattach_setter_of_error hf
  · rintro former rfl
    rcases hc with ⟨m, hm⟩ | ⟨form, vs, former', rfl, hformer, hu⟩
    · cases hm
    · cases hformer
      obtain ⟨before, after, rfl, erased⟩ := Scope.exists_found hu
      refine ⟨form, before, after, hp, fun v hv => N.exists_reattach_element hp former hv,
        fun v t ht hv => ⟨?_, fun same => ?_⟩⟩
      · rw [N.reattach_element hp, erased, Scope.takeIn_of_mistyped ht hv]
      · have left := Value.payload?_withPayload (u := .set form (before ++ after)) hp rfl
        rw [same, hp] at left
        have lengths := congrArg List.length (Value.set.inj (Option.some.inj left)).2
        simp at lengths

/-- A step down to the second of two numbers leads to a copy of it; another number goes back in its
place, and a text does not. -/
theorem failed_write_back_loses_the_element_of_numbers :
    let N : Navigator := { scope := ⟨Sample.schema, Sample.freshRegistry⟩ }
    let c := Value.set (.table .hash (.int .i32)) [.int .i32 7, .int .i32 8]
    let origin := Origin.element (.int .i32 8)
    N.descend c (Name.literal "1") = .ok (.copy (.int .i32 8) origin) ∧
      (∃ c', N.reattach origin (.int .i32 9) c = .ok () c') ∧
      ∃ lost, N.reattach origin (.text "x") c =
        .error (Fault.typeMismatch (.int .i32) .text).failure lost ∧ lost ≠ c := by
  intro N c origin
  have element : N.scope.elementFor (.table .hash (.int .i32)) [.int .i32 7, .int .i32 8]
      (Name.literal "1") none = .ok (.int .i32 8) :=
    Scope.elementFor_of_position (i := 1) (by decide) (by decide +kernel) none
  have found : N.scope.schema.element? (.table .hash (.int .i32)) [.int .i32 7, .int .i32 8]
      (.int .i32 8) = some (.int .i32 8) := by decide +kernel
  have descended : N.descend c (Name.literal "1") = .ok (.copy (.int .i32 8) origin) := by
    rw [N.descend_set rfl element, found]
  obtain ⟨form, before, after, hc, back, lost⟩ :=
    (failed_write_back_loses_the_element N descended).2 _ rfl
  obtain ⟨rfl, -⟩ := Value.set.inj (Option.some.inj hc)
  refine ⟨descended, back (.int .i32 9) ?_, _, lost (.text "x") _ rfl (by decide)⟩
  intro t ht
  cases ht
  rfl

/-- A text goes back in place of the first of two numbers: it is refused and the number is gone. -/
theorem refused_text_takes_a_number_with_it :
    let N : Navigator := { scope := ⟨Sample.schema, Sample.freshRegistry⟩ }
    let c := Value.set (.table .tree (.int .i32)) [.int .i32 1, .int .i32 2]
    let origin := Origin.element (.int .i32 1)
    N.descend c (Name.literal "0") = .ok (.copy (.int .i32 1) origin) ∧
      N.reattach origin (.text "x") c =
        .error (Fault.typeMismatch (.int .i32) .text).failure
          (.set (.table .tree (.int .i32)) [.int .i32 2]) := by
  intro N c origin
  have element : N.scope.elementFor (.table .tree (.int .i32)) [.int .i32 1, .int .i32 2]
      (Name.literal "0") none = .ok (.int .i32 1) :=
    Scope.elementFor_of_position (i := 0) (by decide) (by decide +kernel) none
  have found : N.scope.schema.element? (.table .tree (.int .i32)) [.int .i32 1, .int .i32 2]
      (.int .i32 1) = some (.int .i32 1) := by decide +kernel
  have erased : [Value.int .i32 1, .int .i32 2].eraseP
      (N.scope.schema.isElement (.table .tree (.int .i32)) (.int .i32 1)) = [.int .i32 2] := by
    decide +kernel
  refine ⟨?_, ?_⟩
  · rw [N.descend_set rfl element, found]
  · rw [N.reattach_element rfl, erased, Scope.takeIn_of_mistyped rfl (by decide)]
    rfl

end BeanPath
