import BeanPath.Proofs.SetSteps
import BeanPath.Samples
import Mathlib.Data.Finset.Basic

/-!
# Steps into sets by value are operations on finite sets

Where a value finds exactly itself, a set is the finite set of its elements.  That is so with static
types, and among values of any type for stored scalars other than floating-point numbers
(`Schema.isElement_iff`).  Then taking out erases and taking in inserts, wherever in the order the
new element goes (`Scope.exists_takeIn`).

So a write in place of `e` leaves `insert w (s.erase e)`, which says also what happens if the new
element was there already.  The element that a name stands for is its text read as the type that
the name states, or else as the type of the elements, or else, in an empty set for values of any
type, as that of the value to be written (`Scope.ElementType`).
-/

namespace BeanPath

open Update

/-! ### Plain sets -/

/-- Types without structure whose values are the same only if they are equal. -/
def Ty.exact : Ty → Bool
  | .scalar (.float _) => false
  | .scalar _ => true
  | _ => false

/-- A value of an exact type is the same as a value exactly if it is equal to it. -/
theorem Schema.same_iff_of_exact {S : Schema} {stored v : Value} (h : stored.ty.exact = true) :
    S.same stored v = some true ↔ stored = v := by
  cases stored with
  | atom a =>
    have hf : ∀ k n, a ≠ .float k n := by
      rintro k n rfl
      cases h
    cases v with
    | atom b => simp [Schema.same, Atom.same_of_not_float hf]
    | _ => simp [Schema.same]
  | seq form vs => cases form <;> cases h
  | map form es => cases form <;> cases h
  | set form vs => cases form <;> cases h
  | _ => cases h

namespace SetForm

/-- The types of elements that are found by what they are: the declared one, and among values of any
type the exact ones. -/
def Holds (form : SetForm) (t : Ty) : Prop :=
  match form with
  | .table _ declared => t = declared
  | .dyn => t.exact = true

instance (form : SetForm) (t : Ty) : Decidable (form.Holds t) :=
  match form with
  | .table _ declared => inferInstanceAs (Decidable (t = declared))
  | .dyn => inferInstanceAs (Decidable (t.exact = true))

/-- Elements that are found by what they are have the declared type, if there is one. -/
theorem Holds.typed {form : SetForm} {t : Ty} (h : form.Holds t) :
    ∀ declared ∈ form.element?, t = declared := by
  intro declared hd
  cases form with
  | dyn => cases hd
  | table f element =>
    cases hd
    exact h

/-- A set without repetitions whose elements are found by what they are. -/
structure IsPlain (form : SetForm) (vs : List Value) : Prop where
  declared : form.element? ≠ some .any
  held : ∀ v ∈ vs, form.Holds v.ty
  nodup : vs.Nodup

end SetForm

/-- A list of all members of a finite set, each of them once. -/
def Value.Lists (vs : List Value) (s : Finset Value) : Prop := vs.Nodup ∧ vs.toFinset = s

/-- A list of a finite set has its members. -/
theorem Value.Lists.mem_iff {vs : List Value} {s : Finset Value} (h : Value.Lists vs s)
    {v : Value} : v ∈ vs ↔ v ∈ s := by
  rw [← h.2, List.mem_toFinset]

/-- Erasing a value from a list without repetitions erases it from the set. -/
theorem Value.lists_erase {vs : List Value} (h : vs.Nodup) (v : Value) :
    Value.Lists (vs.erase v) (vs.toFinset.erase v) := by
  refine ⟨h.erase v, Finset.ext fun w => ?_⟩
  rw [List.mem_toFinset, Finset.mem_erase, List.mem_toFinset, h.mem_erase_iff]

namespace Schema

variable {S : Schema} {form : SetForm} {vs : List Value}

/-- Where elements are found by what they are, a value finds itself and nothing else. -/
theorem isElement_iff {stored v : Value} (h : form.Holds stored.ty) :
    S.isElement form v stored = true ↔ stored = v := by
  cases form with
  | table f declared =>
    have hd : stored.ty = declared := h
    simp only [isElement, Bool.and_eq_true, beq_iff_eq, and_iff_right_iff_imp]
    rintro rfl
    exact hd
  | dyn =>
    simp only [isElement, beq_iff_eq]
    exact same_iff_of_exact h

section
variable (h : ∀ v ∈ vs, form.Holds v.ty)
include h

/-- Among such elements a value finds itself if it is there, and nothing otherwise. -/
theorem element?_eq (v : Value) : S.element? form vs v = if v ∈ vs then some v else none := by
  unfold element?
  induction vs with
  | nil => rfl
  | cons u vs ih =>
    have hu : S.isElement form v u = true ↔ u = v := isElement_iff (h u List.mem_cons_self)
    have ih := ih fun w hw => h w (List.mem_cons_of_mem _ hw)
    by_cases huv : u = v
    · rw [List.find?_cons_of_pos (hu.2 huv), huv, if_pos List.mem_cons_self]
    · have hvu : v ≠ u := fun he => huv he.symm
      rw [List.find?_cons_of_neg fun hf => huv (hu.1 hf), ih]
      simp only [List.mem_cons, hvu, false_or]

/-- Taking out what a value finds erases that value. -/
theorem eraseP_isElement (v : Value) : vs.eraseP (S.isElement form v) = vs.erase v := by
  induction vs with
  | nil => rfl
  | cons u vs ih =>
    have hu : S.isElement form v u = true ↔ u = v := isElement_iff (h u List.mem_cons_self)
    have ih := ih fun w hw => h w (List.mem_cons_of_mem _ hw)
    by_cases huv : u = v
    · rw [List.eraseP_cons_of_pos (hu.2 huv), huv, List.erase_cons_head]
    · rw [List.eraseP_cons_of_neg fun hf => huv (hu.1 hf), ih,
        List.erase_cons_tail fun hf => huv (eq_of_beq hf)]

end

end Schema

/-! ### Taking in -/

namespace Scope

variable {C : Scope} {form : SetForm} {vs : List Value} {w : Value}

/-- Taking a value in inserts it, whether it goes to the end, into the order or nowhere. -/
theorem exists_takeIn (h : ∀ v ∈ vs, form.Holds v.ty) (hn : vs.Nodup)
    (hw : ∀ t ∈ form.element?, w.ty = t) :
    ∃ taken vs', C.takeIn form w vs = .ok taken vs' ∧ Value.Lists vs' (insert w vs.toFinset) := by
  rw [takeIn_eq hw, Schema.element?_eq h]
  by_cases hv : w ∈ vs
  · refine ⟨false, vs, by rw [if_pos hv], hn, ?_⟩
    exact (Finset.insert_eq_of_mem (List.mem_toFinset.2 hv)).symm
  · have hp := form.add_perm w vs
    refine ⟨true, form.add w vs, by rw [if_neg hv], ?_, ?_⟩
    · exact hp.nodup_iff.2 (List.nodup_cons.2 ⟨hv, hn⟩)
    · rw [List.toFinset_eq_of_perm _ _ hp, List.toFinset_cons]

/-- An exchange erases the old element and inserts the new one. -/
theorem exists_exchange (h : form.IsPlain vs) (e : Value) (hw : ∀ t ∈ form.element?, w.ty = t) :
    ∃ taken vs', C.takeIn form w (vs.eraseP (C.schema.isElement form e)) = .ok taken vs' ∧
      Value.Lists vs' (insert w (vs.toFinset.erase e)) := by
  have hr : ∀ v ∈ vs.erase e, form.Holds v.ty := fun v hv => h.held v (List.mem_of_mem_erase hv)
  have he := Value.lists_erase h.nodup e
  rw [Schema.eraseP_isElement h.held, ← he.2]
  exact exists_takeIn hr he.1 hw

/-! ### The type of the element that a name stands for -/

/-- The type as which the text of a name is read in a set: the one that the name states, without
that the declared one or the one that all elements have, and in an empty set for values of any type
that of the value to be written. -/
inductive ElementType (C : Scope) (form : SetForm) (vs : List Value) (n : Name)
    (written : Option Ty) : Ty → Prop
  | stated {t : Ty} : C.qualifier? n = .ok (some t) → ElementType C form vs n written t
  | declared {t : Ty} : C.qualifier? n = .ok none → form.element? = some t →
      ElementType C form vs n written t
  | shared {v : Value} : C.qualifier? n = .ok none → form = .dyn → v ∈ vs →
      (∀ w ∈ vs, w.ty = v.ty) → ElementType C form vs n written v.ty
  | written {t : Ty} : C.qualifier? n = .ok none → form = .dyn → vs = [] → written = some t →
      ElementType C form vs n written t

/-- Where a name is no position, its text is read as the type of the element. -/
theorem elementFor_of_type {n : Name} {written : Option Ty} {t : Ty} (hp : n.position? = none)
    (ht : C.ElementType form vs n written t) :
    C.elementFor form vs n written = C.ofText n.text t := by
  unfold elementFor
  rw [hp]
  cases ht with
  | stated hq =>
    simp only [hq, liftProblem_ok, bind_ok]
    rfl
  | declared hq hd =>
    simp only [hq, hd, liftProblem_ok, bind_ok]
    rfl
  | @shared v hq hf hv hall =>
    subst hf
    cases vs with
    | nil => cases hv
    | cons u vs =>
      have hu : u.ty = v.ty := hall u List.mem_cons_self
      simp only [hq, liftProblem_ok, bind_ok, List.head?_cons, Option.map_some, hu]
      rfl
  | written hq hf hv hw =>
    subst hf hv hw
    simp only [hq, liftProblem_ok, bind_ok]
    rfl

end Scope

/-! ### The steps -/

namespace Navigator

variable {N : Navigator} {form : SetForm} {vs : List Value} {n : Name} {e w : Value}
  (h : form.IsPlain vs)
include h

/-- Reading by value gives the value if it is a member. -/
theorem get_member (hn : n.wild = false) (hp : n.position? = none)
    (he : N.scope.elementFor form vs n none = .ok e) :
    N.get (.set form vs) n = .ok (if e ∈ vs then some ⟨e, false⟩ else none) := by
  rw [get_set_of_element hn hp he, Schema.element?_eq h.held]
  split <;> rfl

/-- Removing by value erases the value, and gives it if it was a member. -/
theorem remove_member (hn : n.wild = false)
    (he : N.scope.elementFor form vs n none = .ok e) :
    ∃ rest, N.remove n (.set form vs) = .ok (if e ∈ vs then some e else none) (.set form rest) ∧
      Value.Lists rest (vs.toFinset.erase e) := by
  refine ⟨vs.erase e, ?_, Value.lists_erase h.nodup e⟩
  rw [remove_set hn he, Schema.element?_eq h.held, Schema.eraseP_isElement h.held]

/-- Writing by value erases the value that the name stands for and inserts the new one, and gives
the former if it was a member. -/
theorem put_member {v : Option Value} (hn : n.wild = false)
    (hv : Value.fit v form.element? = .ok w)
    (he : N.scope.elementFor form vs n (some w.ty) = .ok e) :
    ∃ vs', N.put n v (.set form vs) = .ok (if e ∈ vs then some e else none) (.set form vs') ∧
      Value.Lists vs' (insert w (vs.toFinset.erase e)) := by
  obtain ⟨taken, vs', ht, hl⟩ := N.scope.exists_exchange h e (Value.ty_of_fit h.declared hv)
  refine ⟨vs', put_set ?_, hl⟩
  rw [Scope.putElement_eq hn hv he ht, Schema.element?_eq h.held]

/-- Writing to the star inserts the new value. -/
theorem put_star {v : Option Value} (hn : n.wild = true)
    (hv : Value.fit v form.element? = .ok w) :
    ∃ vs', N.put n v (.set form vs) = .ok none (.set form vs') ∧
      Value.Lists vs' (insert w vs.toFinset) := by
  obtain ⟨taken, vs', ht, hl⟩ :=
    N.scope.exists_takeIn h.held h.nodup (Value.ty_of_fit h.declared hv)
  exact ⟨vs', put_set (Scope.putElement_star hn hv ht), hl⟩

/-- Going in by value leads to a copy of the member. -/
theorem descend_member (hn : n.wild = false) (he : N.scope.elementFor form vs n none = .ok e) :
    N.descend (.set form vs) n =
      if e ∈ vs then .ok (.copy e (.element e)) else .error Problem.nullTarget.failure := by
  rw [descend_set hn he, Schema.element?_eq h.held]
  by_cases hm : e ∈ vs <;> simp [hm]

/-- A changed copy of an element goes in place of it, if it kept the type. -/
theorem reattach_member (he : e ∈ vs) (hw : w.ty = e.ty) :
    ∃ vs', N.reattach (.element e) w (.set form vs) = .ok () (.set form vs') ∧
      Value.Lists vs' (insert w (vs.toFinset.erase e)) := by
  have ht : form.Holds w.ty := hw ▸ h.held e he
  obtain ⟨taken, vs', hi, hl⟩ := N.scope.exists_exchange h e ht.typed
  exact ⟨vs', reattach_set hi, hl⟩

end Navigator

end BeanPath
