import BeanPath.Proofs.Rollback

/-!
# What single steps into sets do

A name of a set stands for a value, which is then looked for among the elements, also where the
name is a position: reading goes to the position itself, while every other step looks for a copy of
the element that it found there.  Whether that finds the element again is not decided here.

Writing is an exchange: what the value finds is taken out and the new element taken in.  Taking in
cannot be refused to a value of the type of the elements (`Scope.takeIn_eq`), so a write fails
before it has changed anything or not at all.
-/

namespace BeanPath

open Update

/-! ### What a name stands for -/

/-- A position inside is in bounds. -/
theorem boundedIndex_of_lt {i size : Nat} (hi : i < size) :
    boundedIndex (i : Int) size = .ok ⟨i, hi⟩ := boundedIndex_eq_ok_iff.2 rfl

/-- A name is a position if it has no qualifier and its text is an integer of 64 bits. -/
theorem Name.position?_eq_some_iff {n : Name} {i : Int} :
    n.position? = some i ↔ n.qualifier = none ∧ readInteger .i64 n.text = .ok i := by
  unfold position?
  cases n.qualifier <;> simp [toOption_eq_some_iff]

namespace Scope

variable {C : Scope} {form : SetForm} {vs vs' : List Value} {n : Name} {e w : Value} {taken : Bool}

/-- A position stands for the element that is there, whatever is to be written. -/
theorem elementFor_of_position {i : Nat} (hi : i < vs.length) (hp : n.position? = some (i : Int))
    (written : Option Ty) : C.elementFor form vs n written = .ok vs[i] := by
  have hb := boundedIndex_of_lt hi
  simp only [elementFor, hp, hb, liftProblem_ok, bind_ok]
  rfl

/-- A name without a star stands for one element. -/
theorem singleElement_eq (hn : n.wild = false) :
    C.singleElement form vs n = C.elementFor form vs n none := by
  unfold singleElement
  rw [hn]
  rfl

/-- Writing takes out what the name finds, takes in the new value, and gives what it took out. -/
theorem putElement_eq {v : Option Value} (hn : n.wild = false)
    (hv : Value.fit v form.element? = .ok w)
    (he : C.elementFor form vs n (some w.ty) = .ok e)
    (ht : C.takeIn form w (vs.eraseP (C.schema.isElement form e)) = .ok taken vs') :
    C.putElement form n v vs = .ok (C.schema.element? form vs e) vs' := by
  simp only [putElement, bind_apply, get_apply, liftFault_apply, lift_apply, hv, hn, he,
    takeOut_apply, ht, Bool.false_eq_true, if_false]
  rfl

/-- Writing to the star only takes in the new value. -/
theorem putElement_star {v : Option Value} (hn : n.wild = true)
    (hv : Value.fit v form.element? = .ok w) (ht : C.takeIn form w vs = .ok taken vs') :
    C.putElement form n v vs = .ok none vs' := by
  simp only [putElement, bind_apply, get_apply, liftFault_apply, hv, hn, ht, if_true]
  rfl

/-- What does not fit the type of the elements changes nothing, whatever the name is. -/
theorem putElement_of_unfit {v : Option Value} {f : Fault}
    (hv : Value.fit v form.element? = .error f) (n : Name) (vs : List Value) :
    C.putElement form n v vs = .error f.failure vs := by
  simp only [putElement, bind_apply, get_apply, liftFault_apply, hv]

end Scope

namespace Navigator

variable {N : Navigator} {form : SetForm} {vs vs' : List Value} {n : Name} {e w : Value}
  {taken : Bool}

/-- What is read from a set is part of it and no copy that a getter made. -/
theorem get_set {read : Option Value} (h : N.scope.getElement form vs n = .ok read) :
    N.get (.set form vs) n = .ok (read.map (⟨·, false⟩)) :=
  bind_eq_ok_iff.2 ⟨_, rfl, bind_eq_ok_iff.2 ⟨_, h, rfl⟩⟩

/-- Reading at a position gives what stands there. -/
theorem get_set_of_position (hn : n.wild = false) {i : Nat} (hi : i < vs.length)
    (hp : n.position? = some (i : Int)) : N.get (.set form vs) n = .ok (some ⟨vs[i], false⟩) := by
  have hb := boundedIndex_of_lt hi
  have h : N.scope.getElement form vs n = .ok (some vs[i]) := by
    simp only [Scope.getElement, hn, hp, hb, Bool.false_eq_true, if_false, liftProblem_ok, bind_ok]
    rfl
  exact get_set h

/-- Reading by value gives the element that the value finds. -/
theorem get_set_of_element (hn : n.wild = false) (hp : n.position? = none)
    (he : N.scope.elementFor form vs n none = .ok e) :
    N.get (.set form vs) n = .ok ((N.scope.schema.element? form vs e).map (⟨·, false⟩)) := by
  have h : N.scope.getElement form vs n = .ok (N.scope.schema.element? form vs e) := by
    simp only [Scope.getElement, hn, hp, he, Bool.false_eq_true, if_false, bind_ok]
    rfl
  exact get_set h

/-- Reading fails where the name stands for no element. -/
theorem get_set_of_failed {f : Failure} (hn : n.wild = false)
    (he : N.scope.elementFor form vs n none = .error f) :
    N.get (.set form vs) n = .error f := by
  have hg : N.scope.getElement form vs n = .error f := by
    unfold Scope.getElement
    rw [hn, if_neg Bool.false_ne_true]
    cases hp : n.position? with
    | none => simp only [he, bind_error]
    | some i =>
      unfold Scope.elementFor at he
      rw [hp] at he
      dsimp only at he ⊢
      cases hb : boundedIndex i vs.length with
      | ok j => rw [hb] at he; cases he
      | error p => rw [hb] at he; cases he; rfl
  simp only [get, Value.unwrapped, Value.payload?, liftProblem_ok, bind_ok, hg, bind_error]

/-- Removing takes out the first element that is equal to the one the name stands for, and gives
it. -/
theorem remove_set (hn : n.wild = false) (he : N.scope.elementFor form vs n none = .ok e) :
    N.remove n (.set form vs) =
      .ok (N.scope.schema.element? form vs e)
        (.set form (vs.eraseP (N.scope.schema.isElement form e))) := by
  refine present_eq_ok_iff.2 ⟨_, _, rfl, within_eq_ok_iff.2 ⟨_, ?_, rfl⟩, rfl⟩
  simp only [Scope.removeElement, bind_apply, get_apply, lift_apply,
    (Scope.singleElement_eq hn).trans he, Scope.takeOut_apply]

/-- Writing to a set changes its elements. -/
theorem put_set {v previous : Option Value}
    (h : N.scope.putElement form n v vs = .ok previous vs') :
    N.put n v (.set form vs) = .ok previous (.set form vs') :=
  present_eq_ok_iff.2 ⟨_, _, rfl, within_eq_ok_iff.2 ⟨_, h, rfl⟩, rfl⟩

/-- What does not fit is not written. -/
theorem put_set_of_unfit {v : Option Value} {f : Fault}
    (hv : Value.fit v form.element? = .error f) (n : Name) (vs : List Value) :
    N.put n v (.set form vs) = .error f.failure (.set form vs) := by
  have h := N.scope.putElement_of_unfit hv n vs
  simp only [put, present_apply, Value.payload?, elements, within_apply, h]
  rfl

/-- Going into a set gives a copy of the element that the name finds, which remembers what it was a
copy of. Without such an element there is nothing to go into. -/
theorem descend_set (hn : n.wild = false) (he : N.scope.elementFor form vs n none = .ok e) :
    N.descend (.set form vs) n = match N.scope.schema.element? form vs e with
      | some v => .ok (.copy v (.element e))
      | none => .error Problem.nullTarget.failure := by
  have hs : N.scope.singleElement form vs n = .ok e := (Scope.singleElement_eq hn).trans he
  simp only [descend, Focus.present_whole, Value.payload?, liftProblem_ok, descendInto, hs, bind_ok]
  cases N.scope.schema.element? form vs e <;> rfl

/-- Going into a set fails where the name stands for no element. -/
theorem descend_set_of_failed {f : Failure} (hn : n.wild = false)
    (he : N.scope.elementFor form vs n none = .error f) :
    N.descend (.set form vs) n = .error f := by
  have hs : N.scope.singleElement form vs n = .error f := (Scope.singleElement_eq hn).trans he
  simp only [descend, Focus.present_whole, Value.payload?, liftProblem_ok, descendInto, hs, bind_ok,
    bind_error]

/-- Putting a copy back exchanges the element that it was a copy of for what has become of it. -/
theorem reattach_set
    (ht : N.scope.takeIn form w (vs.eraseP (N.scope.schema.isElement form e)) = .ok taken vs') :
    N.reattach (.element e) w (.set form vs) = .ok () (.set form vs') := by
  rw [reattach_element rfl, ht]
  rfl

/-- Visiting all elements leaves a set of the same form, also where a visit fails. -/
theorem forEach_set {α : Type} (u : Nat → Update Value α) (form : SetForm) (vs : List Value) :
    N.forEach u (.set form vs) = match N.scope.eachElement form u vs with
      | .ok as vs' => .ok as (.set form vs')
      | .error e vs' => .error e (.set form vs') := by
  simp only [forEach, present_apply, Value.payload?, elements, within_apply]
  cases N.scope.eachElement form u vs <;> rfl

end Navigator
end BeanPath
