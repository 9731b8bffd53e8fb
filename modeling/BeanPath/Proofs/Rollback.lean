import BeanPath.Proofs.Visits
import BeanPath.Samples

/-!
# Failures leave no trace

A write that fails has changed nothing, however deep it failed and whether it failed before, during
or after the change of the part (`failed_updates_change_nothing`).  One step restores by itself: the
only one with two parts that could come apart is the exchange of an element, and there nothing can
be refused any more once something was taken out.  A visit restores if the update of the part does,
because putting back what stood at a place changes nothing and a changed copy keeps the type of what
it was copied from.
-/

namespace BeanPath

open Update

/-! ### Exchanging elements -/

namespace Scope

variable {C : Scope} {form : SetForm} {former v : Value} {vs vs' : List Value}

/-- Taking an element out never fails. -/
theorem takeOut_apply (former : Value) (vs : List Value) :
    C.takeOut form former vs =
      .ok (C.schema.element? form vs former) (vs.eraseP (C.schema.isElement form former)) := rfl

/-- A value of the type of the elements is taken in, unless an element is found by it. -/
theorem takeIn_eq (hv : ∀ t ∈ form.element?, v.ty = t) (vs : List Value) :
    C.takeIn form v vs = match C.schema.element? form vs v with
      | some _ => .ok false vs
      | none => .ok true (form.add v vs) := by
  have hf : v.fitting form.element? = .ok v := Value.fitting_eq_ok_iff.2 ⟨rfl, hv⟩
  simp only [takeIn, atomic, Schema.insertElement, hf, bind_ok]
  cases C.schema.element? form vs v <;> rfl

/-- A value of another type is refused, whatever is there. -/
theorem takeIn_of_mistyped {t : Ty} (ht : form.element? = some t) (hv : v.ty ≠ t)
    (vs : List Value) : C.takeIn form v vs = .error (Fault.typeMismatch t v.ty).failure vs := by
  have hfit : v.fitting form.element? = .error (.typeMismatch t v.ty) := by
    rw [ht]
    exact if_neg hv
  refine atomic_of_error ?_
  unfold Schema.insertElement
  rw [hfit, bind_error]
  rfl

/-- A value of the type of the elements is never refused. -/
theorem takeIn_ne_error (hv : ∀ t ∈ form.element?, v.ty = t) {e : Failure} :
    C.takeIn form v vs ≠ .error e vs' := by
  rw [takeIn_eq hv]
  cases C.schema.element? form vs v <;> nofun

/-- No value has the type of all values, so no element is found where that is declared. -/
theorem eraseP_isElement_of_any (hf : form.element? = some .any) (former : Value)
    (vs : List Value) : vs.eraseP (C.schema.isElement form former) = vs := by
  refine List.eraseP_of_forall_not fun w _ => ?_
  cases form with
  | dyn => cases hf
  | table f t =>
    cases hf
    simp [Schema.isElement, Value.ty_ne_any former]

/-- Exchanging an element for a value that fits restores. Where a set is declared for values of all
types, nothing can be taken in, but then nothing was found to take out either. -/
theorem restores_exchange (hv : ∀ t ∈ form.element?, t = .any ∨ v.ty = t) :
    (do let previous ← C.takeOut form former
        let _ ← C.takeIn form v
        return previous : Update (List Value) (Option Value)).Restores := by
  intro vs e vs' h
  rw [bind_apply, takeOut_apply] at h
  dsimp only at h
  rw [bind_apply] at h
  cases hi : C.takeIn form v (vs.eraseP (C.schema.isElement form former)) with
  | ok b ws => rw [hi] at h; cases h
  | error e' ws =>
    rw [hi] at h
    cases h
    by_cases ha : form.element? = some .any
    · rw [eraseP_isElement_of_any ha] at hi
      exact restores_atomic _ hi
    · refine absurd hi (takeIn_ne_error fun t ht => ?_)
      rcases hv t ht with rfl | hvt
      · exact absurd ht ha
      · exact hvt

/-- A write to an element restores, since the value is made to fit before anything is taken out. -/
theorem restores_putElement (n : Name) (v : Option Value) : (C.putElement form n v).Restores := by
  refine restores_get_bind fun vs => restores_lift_bind fun w hw => ?_
  have ht : ∀ t ∈ form.element?, t = .any ∨ w.ty = t := by
    rintro t ht
    rw [Option.mem_def.1 ht] at hw
    exact Value.ty_fit (liftFault_eq_ok_iff.1 hw)
  split
  · exact (restores_atomic _).bind_pure none
  · refine restores_lift_bind fun former _ => ?_
    exact restores_exchange ht

/-- Removing an element restores, as it fails only before it takes the element out. -/
theorem restores_removeElement (n : Name) : (C.removeElement form n).Restores := by
  refine restores_get_bind fun vs => restores_lift_bind fun v _ => ?_
  intro vs e vs' h
  cases h

/-- An element that was found has the type of the elements. -/
theorem ty_of_element? {S : Schema} {u : Value} (h : S.element? form vs former = some u) :
    ∀ t ∈ form.element?, u.ty = t := by
  intro t ht
  have hu := List.find?_some h
  cases form with
  | dyn => cases ht
  | table f t' =>
    cases ht
    simp only [Schema.isElement, Bool.and_eq_true, beq_iff_eq] at hu
    rw [hu.2, hu.1]

end Scope

/-! ### Single steps -/

namespace Navigator

variable {N : Navigator}

/-- A write by one step restores. -/
theorem restores_put (N : Navigator) (n : Name) (v : Option Value) : (N.put n v).Restores := by
  refine restores_present fun w e w' h => ?_
  cases w with
  | seq form vs => exact (restores_atomic _).within rfl h
  | map form es => exact (restores_atomic _).within rfl h
  | set form vs => exact (Scope.restores_putElement n v).within rfl h
  | bean path fields hidden => exact restores_atomic _ h
  | _ => exact restores_throw _ h

/-- Removing by one step restores. -/
theorem restores_remove (N : Navigator) (n : Name) : (N.remove n).Restores := by
  refine restores_present fun w e w' h => ?_
  cases w with
  | seq form vs => exact (restores_atomic _).within rfl h
  | map form es => exact (restores_atomic _).within rfl h
  | set form vs => exact (Scope.restores_removeElement n).within rfl h
  | bean path fields hidden => exact restores_atomic _ h
  | _ => exact restores_throw _ h

/-- One step, whether it writes or removes, restores. -/
theorem restores_edit (N : Navigator) (n : Name) (e : Edit) : (N.edit n e).Restores := by
  cases e with
  | put v => exact N.restores_put n v
  | remove => exact N.restores_remove n

/-! ### Putting back -/

variable {n : Name} {c c' u v : Value} {origin : Origin}

/-- Copies are made of properties that have no field and of elements of sets. -/
theorem copy_cases (h : N.descend c n = .ok (.copy u origin)) :
    ∃ p, c.payload? = some p ∧ ((∃ m, origin = .setter m) ∨ ∃ form vs former,
      p = .set form vs ∧ origin = .element former ∧
        N.scope.schema.element? form vs former = some u) := by
  obtain ⟨p, hp, hd⟩ := descend_eq_copy_iff.1 h
  refine ⟨p, hp, ?_⟩
  obtain ⟨form, vs, former, rfl, hu, rfl⟩ | ⟨path, -, hd⟩ := descendInto_copy_cases hd
  · exact .inr ⟨form, vs, former, rfl, rfl, hu⟩
  · obtain ⟨_, _, m, _, _, _, _, _, rfl⟩ := descendProperty_eq_copy_iff.1 hd
    exact .inl ⟨m, rfl⟩

/-- A setter that refuses a changed copy leaves the container as it was. -/
theorem reattach_setter_of_error {m : Member} {f : Failure}
    (h : N.reattach (.setter m) v c = .error f c') : c' = c := by
  unfold reattach at h
  rw [present_apply] at h
  split at h
  · next p hp => exact (restores_atomic _).within (Value.withPayload_payload hp) h
  · cases h
    rfl

/-- A changed copy of an element goes back by taking out the element and taking in the copy. -/
theorem reattach_element {form : SetForm} {vs : List Value} (hp : c.payload? = some (.set form vs))
    (former v : Value) : N.reattach (.element former) v c =
      match N.scope.takeIn form v (vs.eraseP (N.scope.schema.isElement form former)) with
      | .ok _ vs' => .ok () (c.withPayload (.set form vs'))
      | .error f vs' => .error f (c.withPayload (.set form vs')) := by
  simp only [reattach, present_apply, hp, elements, within_apply, Scope.returnElement, bind_apply,
    Scope.takeOut_apply]
  cases N.scope.takeIn form v (vs.eraseP (N.scope.schema.isElement form former)) <;> rfl

/-- What has the type of the elements always finds its way back. -/
theorem exists_reattach_element {form : SetForm} {vs : List Value}
    (hp : c.payload? = some (.set form vs)) (former : Value)
    (hv : ∀ t ∈ form.element?, v.ty = t) :
    ∃ c', N.reattach (.element former) v c = .ok () c' := by
  rw [reattach_element hp, Scope.takeIn_eq hv]
  cases N.scope.schema.element? form (vs.eraseP (N.scope.schema.isElement form former)) v <;>
    exact ⟨_, rfl⟩

/-- A changed copy of a part goes back where it came from, or nothing happens. -/
theorem reattach_restores {e : Failure} (hd : N.descend c n = .ok (.copy u origin))
    (hv : v.ty = u.ty) (h : N.reattach origin v c = .error e c') : c' = c := by
  obtain ⟨p, hp, ⟨m, rfl⟩ | ⟨form, vs, former, rfl, rfl, hu⟩⟩ := copy_cases hd
  · exact reattach_setter_of_error h
  · obtain ⟨back, hb⟩ := N.exists_reattach_element hp former fun t ht =>
      hv.trans (Scope.ty_of_element? hu t ht)
    rw [hb] at h
    cases h

end Navigator

/-! ### Visits -/

namespace Layer

variable {α : Type}

/-- A change of a copy restores if putting back a copy of the same type does. -/
theorem onCopy_restores {v : Value} {back : Value → Update Value Unit} {u : Update Value α}
    {s s' : Value} {e : Failure} (hu : u.KeepsType)
    (hb : ∀ ⦃w e s'⦄, w.ty = v.ty → back w s = .error e s' → s' = s)
    (h : onCopy v back u s = .error e s') : s' = s := by
  rw [onCopy_apply] at h
  cases hv : u v with
  | error e' w => rw [hv] at h; cases h; rfl
  | ok a w =>
    rw [hv] at h
    dsimp only at h
    cases hs : back w s with
    | ok b t => rw [hs] at h; cases h
    | error e' t =>
      rw [hs] at h
      cases h
      exact hb (hu.ok hv) hs

/-- **A visit restores if the update of the part does** and keeps the type of the part. -/
theorem restores_visit (N : Navigator) (l : Layer) {u : Update Value α} (hu : u.Restores)
    (ht : u.KeepsType) : (l.visit N u).Restores := by
  intro v e v' h
  cases l with
  | key owner n =>
    rw [visit_key] at h
    cases hd : N.descend v n with
    | error e' => rw [hd] at h; cases h; rfl
    | ok d =>
      rw [hd] at h
      cases d with
      | inPlace f => exact hu.within (N.put_descend_value hd) h
      | copy w origin =>
        -- The change is made on the copy, so only putting it back can leave a trace.
        exact onCopy_restores ht (fun _ _ _ hw hr => Navigator.reattach_restores hd hw hr) h
  | property owner field getter setter =>
    cases field with
    | some field =>
      rw [visit_field] at h
      cases hp : field.place? v with
      | error e' => rw [hp] at h; cases h; rfl
      | ok place =>
        rw [hp] at h
        cases place with
        | none => cases h; rfl
        | some f => exact hu.within (Member.put_place?_value hp) h
    | none =>
      cases getter with
      | none => cases h; rfl
      | some getter =>
        cases setter with
        | none => cases h; rfl
        | some setter =>
          rw [visit_methods] at h
          cases hg : getter.get v with
          | error e' => rw [hg] at h; cases h; rfl
          | ok w =>
            rw [hg] at h
            exact onCopy_restores ht (fun _ _ _ _ hr => restores_atomic _ hr) h

/-- A write to a layer restores. -/
theorem restores_write (N : Navigator) (l : Layer) (v : Option Value) :
    (l.write N v).Restores := by
  cases l with
  | key owner n => exact N.restores_put n v
  | property owner field getter setter =>
    cases setter with
    | some setter => exact restores_atomic _
    | none =>
      cases field with
      | none => exact restores_throw _
      | some field => exact restores_atomic _

end Layer

/-! ### Whole updates -/

/-- An update along names restores if no star stands in front of the last name. -/
theorem Navigator.restores_update (N : Navigator) (e : Edit) (names : List Name)
    (hn : ∀ n ∈ names.dropLast, n.wild = false) : (N.update e names).Restores := by
  induction names with
  | nil => exact restores_throw _
  | cons n names ih =>
    cases names with
    | nil =>
      rw [update_singleton]
      exact (N.restores_edit n e).map _
    | cons m rest =>
      rw [update_cons_cons e (hn n (by simp)) (.bean "")]
      refine Layer.restores_visit N _ (ih fun k hk => hn k ?_) (N.keepsType_update e _)
      rw [List.dropLast_cons_cons]
      exact List.mem_cons_of_mem _ hk

/-- A write through layers restores. -/
theorem Accessor.restores_writeThrough (N : Navigator) (v : Option Value) (l : Layer)
    (rest : List Layer) : (writeThrough N v l rest).Restores := by
  induction rest generalizing l with
  | nil => exact Layer.restores_write N l v
  | cons m rest ih =>
    exact Layer.restores_visit N l (ih m) (keepsType_writeThrough N v m rest)

/-- A write by an accessor restores, also where the value is no instance of its owner. -/
theorem Accessor.restores_set (C : Scope) (X : Accessor) (v : Option Value) :
    (X.set C v).Restores :=
  restores_get_bind fun _ => restores_lift_bind fun _ _ =>
    restores_writeThrough { scope := C } v X.root X.rest

/-- A path without a star in front of its last step. -/
def Path.Direct (path : String) : Prop :=
  ∀ names, Path.route path = .ok names → ∀ n ∈ names.dropLast, n.wild = false

/-- Whether a path is direct can be read off its steps. -/
theorem Path.direct_iff {path : String} :
    Path.Direct path ↔
      ((Path.route path).toOption.all fun names => names.dropLast.all (!·.wild)) = true := by
  unfold Path.Direct
  cases Path.route path with
  | error e => simp [Except.toOption]
  | ok names => simp [Except.toOption]

instance (path : String) : Decidable (Path.Direct path) := decidable_of_iff _ Path.direct_iff.symm

namespace Access

variable (A : Access)

/-- A report about a failure does not change what the failure has left. -/
theorem restores_reporting (summary : String) {u : Update Value α} (hu : u.Restores) :
    (A.reporting summary u).Restores := by
  intro v e v' h
  unfold reporting at h
  cases hv : u v with
  | ok a w => rw [hv] at h; cases h
  | error e' w => rw [hv] at h; cases h; exact hu hv

/-- An update along a direct path restores, also where it is the root itself that is written. -/
theorem restores_updatePlain {path : String} (hp : Path.Direct path) (e : Edit) :
    (A.updatePlain path e).Restores := by
  refine restores_lift_bind fun names hn => ?_
  cases names with
  | nil =>
    cases e with
    | put v => exact restores_atomic _
    | remove => exact restores_throw _
  | cons n rest => exact A.restores_update e _ (hp _ (liftProblem_eq_ok_iff.1 hn))

end Access

/-- **Failed updates change nothing.**  When a write or a removal along a path without a star in
front of its last step fails, and when an accessor fails to write, the root is what it was. -/
theorem failed_updates_change_nothing :
    (∀ (A : Access) (path : String), Path.Direct path →
      (∀ v root e root', A.write path v root = .error e root' → root' = root) ∧
        ∀ root e root', A.remove path root = .error e root' → root' = root) ∧
      ∀ (C : Scope) (X : Accessor) v root e root', X.set C v root = .error e root' →
        root' = root := by
  refine ⟨fun A path hp => ⟨fun v root e root' h => ?_, fun root e root' h => ?_⟩, ?_⟩
  · exact A.restores_reporting _ (A.restores_updatePlain hp (.put v)) h
  · exact A.restores_reporting _ (A.restores_updatePlain hp .remove) h
  · intro C X v root e root' h
    exact X.restores_set C v h

/-- A store with one thing in its bag, which cannot hold a text. -/
def Sample.bagOfOne : Value :=
  Sample.store.value.withField "bag" (.set (.table .tree item.ty) [item.value])

/-- The element that a failed write has taken out of the bag is in it again. -/
theorem failed_updates_change_nothing_in_bag :
    let A : Access := { scope := ⟨Sample.schema, Sample.freshRegistry⟩ }
    Path.Direct "bag.0.value" ∧
      ∃ e, A.write "bag.0.value" (some (.text "x")) Sample.bagOfOne = .error e Sample.bagOfOne := by
  intro A
  have hd : Path.Direct "bag.0.value" := by decide +kernel
  have hf : (Update.result
      (A.write "bag.0.value" (some (.text "x")) Sample.bagOfOne)).toOption.isNone := by
    decide +kernel
  refine ⟨hd, ?_⟩
  cases h : A.write "bag.0.value" (some (.text "x")) Sample.bagOfOne with
  | ok a root => rw [h] at hf; cases hf
  | error e root =>
    exact ⟨e, congrArg _ ((failed_updates_change_nothing.1 A _ hd).1 _ _ _ _ h)⟩

end BeanPath
