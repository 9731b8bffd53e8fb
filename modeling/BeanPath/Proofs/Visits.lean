import BeanPath.Access
import BeanPath.Accessor
import BeanPath.Proofs.Steps

/-!
# Changing a part

An update goes down one step, changes the part there and puts it back.  For paths and for accessors
this is one operation, `Layer.visit`: an update along several names is a visit of the first
(`Navigator.update_cons_cons`).  No update, failed or not, changes the type of a value
(`Navigator.keepsType_update`, `Accessor.keepsType_writeThrough`), so a changed part fits where it
came from.
-/

namespace BeanPath

open Update

/-! ### Updates as visits -/

namespace Layer

variable {N : Navigator} {α : Type}

/-- A change of a copy reaches the container only after it has succeeded; until then the container
is as it was. -/
theorem onCopy_apply (v : Value) (back : Value → Update Value Unit) (u : Update Value α)
    (s : Value) :
    onCopy v back u s = match u v with
      | .ok a w => match back w s with
        | .ok _ t => .ok a t
        | .error e t => .error e t
      | .error e _ => .error e s := by
  unfold onCopy
  cases u v with
  | error e w => rfl
  | ok a w =>
    dsimp only
    rw [bind_apply]
    cases back w s <;> rfl

/-- A change of a copy succeeds exactly if the copy is changed and can then be put back. -/
theorem onCopy_eq_ok_iff {v : Value} {back : Value → Update Value Unit} {u : Update Value α}
    {s t : Value} {a : α} :
    onCopy v back u s = .ok a t ↔ ∃ w, u v = .ok a w ∧ back w s = .ok () t := by
  rw [onCopy_apply]
  cases u v with
  | error e w => simp
  | ok b w =>
    constructor
    · intro h
      refine ⟨w, ?_⟩
      cases hs : back w s <;> simp_all
    · rintro ⟨w', h, hs⟩
      cases h
      dsimp only
      rw [hs]

/-- A layer that is a key is visited in place or by a copy, as the step says. -/
theorem visit_key (owner : Ty) (n : Name) (u : Update Value α) (v : Value) :
    (key owner n).visit N u v = match N.descend v n with
      | .ok (.inPlace f) => f.update u v
      | .ok (.copy w origin) => onCopy w (N.reattach origin) u v
      | .error e => .error e v := by
  unfold visit
  simp only [bind_apply, get_apply, lift_apply]
  rcases N.descend v n with e | ⟨f⟩ | ⟨w, origin⟩ <;> rfl

/-- A property with a field is visited in the place of the field. -/
theorem visit_field (owner : Ty) (field : Member) (getter setter : Option Member)
    (u : Update Value α) (v : Value) :
    (property owner (some field) getter setter).visit N u v = match field.place? v with
      | .ok (some f) => f.update u v
      | .ok none => .error Problem.nullTarget.failure v
      | .error e => .error e.failure v := by
  unfold visit
  simp only [bind_apply, get_apply, liftProblem_apply]
  rcases field.place? v with e | _ | f <;> rfl

/-- How a property without a field takes a changed copy back. -/
def returnTo (setter : Member) (v : Value) : Update Value Unit := .atomic fun target => do
  return ((), ← setter.set target (← v.adapt setter.ty))

/-- A property without a field is visited by a copy, from the getter and back through the setter. -/
theorem visit_methods (owner : Ty) (getter setter : Member) (u : Update Value α) (v : Value) :
    (property owner none (some getter) (some setter)).visit N u v = match getter.get v with
      | .ok w => onCopy w (returnTo setter) u v
      | .error e => .error e v := by
  unfold visit
  simp only [bind_apply, get_apply, lift_apply]
  cases getter.get v <;> rfl

/-- What is made of the result does not matter to the change of a copy. -/
theorem map_onCopy {β : Type} (f : α → β) (w : Value) (back : Value → Update Value Unit)
    (u : Update Value α) : f <$> onCopy w back u = onCopy w back (f <$> u) := by
  funext s
  rw [map_apply, onCopy_apply, onCopy_apply, map_apply]
  cases u w with
  | error e w' => rfl
  | ok a w' =>
    dsimp only
    cases back w' s <;> rfl

/-- What is made of the result does not matter to a visit. -/
theorem map_visit_key {β : Type} (f : α → β) (owner : Ty) (n : Name) (u : Update Value α) :
    f <$> (key owner n).visit N u = (key owner n).visit N (f <$> u) := by
  funext v
  rw [map_apply, visit_key, visit_key]
  rcases N.descend v n with e | p | ⟨w, origin⟩
  · rfl
  · dsimp only [Focus.update]
    rw [within_apply, within_apply, map_apply]
    cases u p.value <;> rfl
  · dsimp only
    rw [← map_onCopy, map_apply]

/-- A visit of a layer in a value changes a part of it, or a copy of one. -/
inductive LeadsTo (N : Navigator) : Layer → Value → Value → Prop
  | key {owner : Ty} {n : Name} {v : Value} {d : Descent} :
      N.descend v n = .ok d → LeadsTo N (.key owner n) v d.value
  | field {owner : Ty} {field : Member} {getter setter : Option Member} {v : Value} {f : Focus} :
      field.place? v = .ok (some f) →
        LeadsTo N (.property owner (some field) getter setter) v f.value
  | copy {owner : Ty} {getter setter : Member} {v w : Value} :
      getter.get v = .ok w → LeadsTo N (.property owner none (some getter) (some setter)) v w

/-- A visit depends on what the update does to the part. -/
theorem visit_congr {l : Layer} {u u' : Update Value α} {v : Value}
    (h : ∀ w, l.LeadsTo N v w → u w = u' w) : l.visit N u v = l.visit N u' v := by
  cases l with
  | key owner n =>
    rw [visit_key, visit_key]
    rcases hd : N.descend v n with e | p | ⟨w, origin⟩
    · rfl
    · exact within_congr p.put v (h _ (.key hd))
    · have hw : u w = u' w := h _ (.key hd)
      dsimp only
      rw [onCopy_apply, onCopy_apply, hw]
  | property owner field getter setter =>
    match field, getter, setter with
    | some field, getter, setter =>
      rw [visit_field, visit_field]
      rcases hp : field.place? v with e | _ | f
      · rfl
      · rfl
      · exact within_congr f.put v (h _ (.field hp))
    | none, some getter, some setter =>
      rw [visit_methods, visit_methods]
      cases hg : getter.get v with
      | error e => rfl
      | ok w =>
        dsimp only
        rw [onCopy_apply, onCopy_apply, h w (.copy hg)]
    | none, some getter, none => rfl
    | none, none, setter => rfl

end Layer

namespace Navigator

variable {N : Navigator}

/-- The update along a single name is the edit of one step; of what that gives back, one optional
layer is taken off. -/
theorem update_singleton (e : Edit) (n : Name) :
    N.update e [n] = (·.bind Value.content?) <$> N.edit n e := by
  funext v
  simp only [update, bind_apply, map_apply]
  cases N.edit n e v <;> rfl

/-- Updating along several names visits the first of them. -/
theorem update_cons_cons (e : Edit) {n : Name} (hn : n.wild = false) (owner : Ty) (m : Name)
    (rest : List Name) :
    N.update e (n :: m :: rest) = (Layer.key owner n).visit N (N.update e (m :: rest)) := by
  funext v
  rw [Layer.visit_key]
  simp only [update, hn, Bool.false_eq_true, if_false, bind_apply, get_apply, lift_apply]
  rcases N.descend v n with e' | ⟨f⟩ | ⟨w, origin⟩
  · rfl
  · rfl
  · simp only [Layer.onCopy_apply]
    cases N.update e (m :: rest) w with
    | error e' w' => rfl
    | ok previous w' =>
      simp only [bind_apply]
      cases N.reattach origin w' v <;> rfl

end Navigator

/-! ### No update changes the type -/

namespace SeqForm

variable {form : SeqForm}

/-- Only arrays have their length in their type. -/
theorem ty_congr {m n : Nat} (h : form.fixed = true → m = n) : form.ty m = form.ty n := by
  cases form with
  | array item => rw [h rfl]
  | _ => rfl

/-- A write to a sequence of fixed length does not change its length. -/
theorem length_putAt (hf : form.fixed = true) (n : Name) (v : Option Value) (vs : List Value) :
    (state (form.putAt n v vs)).length = vs.length := by
  cases h : form.putAt n v vs with
  | error e vs' =>
    rw [restores_atomic _ h]
    rfl
  | ok previous vs' =>
    cases hn : n.wild with
    | false =>
      obtain ⟨i, hi, w, -, -, -, -, rfl⟩ := (putAt_eq_ok_iff hn).1 h
      exact List.length_set
    | true =>
      unfold putAt at h
      rw [atomic_eq_ok_iff] at h
      simp only [hn, hf, if_true] at h
      cases h

/-- Nothing can be removed from a sequence of fixed length. -/
theorem length_removeAt (hf : form.fixed = true) (n : Name) (vs : List Value) :
    (state (form.removeAt n vs)).length = vs.length := by
  cases h : form.removeAt n vs with
  | error e vs' =>
    rw [restores_atomic _ h]
    rfl
  | ok previous vs' =>
    unfold removeAt at h
    rw [atomic_eq_ok_iff] at h
    simp only [hf, if_true] at h
    cases h

end SeqForm

namespace Update

variable {α : Type}

/-- An update of items keeps the type of a sequence, if it keeps the length wherever the length is
part of the type. -/
theorem ty_items {form : SeqForm} {vs : List Value} {u : Update (List Value) α}
    (h : form.fixed = true → (state (u vs)).length = vs.length) (v : Value) :
    (state (items form vs u v)).ty = (Value.seq form vs).ty := by
  unfold items
  rw [state_within]
  exact SeqForm.ty_congr h

/-- An update of entries keeps the type of a map. -/
theorem ty_entries (form : MapForm) (es : List (Value × Value))
    (u : Update (List (Value × Value)) α) (v : Value) :
    (state (entries form es u v)).ty = (Value.map form es).ty := by
  unfold entries
  rw [state_within]
  rfl

/-- An update of elements keeps the type of a set. -/
theorem ty_elements (form : SetForm) (vs : List Value) (u : Update (List Value) α) (v : Value) :
    (state (elements form vs u v)).ty = (Value.set form vs).ty := by
  unfold elements
  rw [state_within]
  rfl

/-- Updating items one by one leaves as many as there were, also when it fails in the middle. -/
theorem length_eachFrom (u : Nat → Update σ α) (done : Nat) (ss : List σ) :
    (state (eachFrom u done ss)).length = ss.length := by
  induction ss generalizing done with
  | nil => rfl
  | cons s ss ih =>
    have ih := ih (done + 1)
    unfold eachFrom
    rcases u done s with ⟨a, t⟩ | ⟨e, t⟩
    · dsimp only
      rcases hs : eachFrom u (done + 1) ss with ⟨as, ts⟩ | ⟨e, ts⟩ <;> rw [hs] at ih <;>
        exact congrArg (· + 1) ih
    · rfl

end Update

namespace Navigator

variable (N : Navigator)

/-- A write to a property keeps the type of the bean. -/
theorem keepsType_putProperty (n : Name) (v : Option Value) : (N.putProperty n v).KeepsType := by
  refine keepsType_atomic fun bean previous bean' h => ?_
  exact ty_of_putProperty (atomic_eq_ok_iff.2 h)

/-- A write by one step keeps the type of the container. -/
theorem keepsType_put (n : Name) (v : Option Value) : (N.put n v).KeepsType := by
  refine keepsType_present fun w => ?_
  cases w with
  | seq form vs => exact ty_items (fun hf => SeqForm.length_putAt hf n v vs) _
  | map form es => exact ty_entries ..
  | set form vs => exact ty_elements ..
  | bean path fields hidden => exact N.keepsType_putProperty n v _
  | _ => rfl

/-- Removing by one step keeps the type of the container. -/
theorem keepsType_remove (n : Name) : (N.remove n).KeepsType := by
  refine keepsType_present fun w => ?_
  cases w with
  | seq form vs => exact ty_items (fun hf => SeqForm.length_removeAt hf n vs) _
  | map form es => exact ty_entries ..
  | set form vs => exact ty_elements ..
  | bean path fields hidden => exact N.keepsType_putProperty n none _
  | _ => rfl

/-- One step, whether it writes or removes, keeps the type of the container. -/
theorem keepsType_edit (n : Name) (e : Edit) : (N.edit n e).KeepsType := by
  cases e with
  | put v => exact N.keepsType_put n v
  | remove => exact N.keepsType_remove n

/-- Putting a changed copy back keeps the type of the container. -/
theorem keepsType_reattach (origin : Origin) (v : Value) : (N.reattach origin v).KeepsType := by
  refine keepsType_present fun w => ?_
  cases origin with
  | setter m =>
    refine keepsType_atomic (fun owner a owner' h => ?_) w
    obtain ⟨x, -, h⟩ := bind_eq_ok_iff.1 h
    obtain ⟨o, ho, h⟩ := bind_eq_ok_iff.1 h
    cases pure_eq_ok_iff.1 h
    exact Member.ty_of_set ho
  | element former =>
    cases w with
    | set form vs => exact ty_elements ..
    | _ => rfl

/-- Changing every member keeps the type of the container. -/
theorem keepsType_forEach {α : Type} (u : Nat → Update Value α) : (N.forEach u).KeepsType := by
  refine keepsType_present fun w => ?_
  cases w with
  | seq form vs => exact ty_items (fun _ => length_eachFrom u 0 vs) _
  | set form vs => exact ty_elements ..
  | _ => rfl

end Navigator

namespace Layer

variable {α : Type}

/-- Changing a copy keeps the type of the container if putting the copy back does. -/
theorem keepsType_onCopy {back : Value → Update Value Unit} (hb : ∀ v, (back v).KeepsType)
    (v : Value) (u : Update Value α) : (onCopy v back u).KeepsType := by
  intro s
  rw [onCopy_apply]
  cases u v with
  | error e w => rfl
  | ok a w =>
    have h := hb w s
    dsimp only
    cases hs : back w s <;> rw [hs] at h <;> exact h

/-- Changing what is at a place keeps the type of the whole, if another value of the same type there
does. -/
theorem keepsType_update {f : Focus} {v : Value} (hp : ∀ w, w.ty = f.value.ty → (f.put w).ty = v.ty)
    {u : Update Value α} (hu : u.KeepsType) : (state (f.update u v)).ty = v.ty := by
  unfold Focus.update
  rw [state_within]
  exact hp _ (hu _)

/-- A setter that takes a changed copy back keeps the type of its owner. -/
theorem keepsType_returnTo (setter : Member) (v : Value) : (returnTo setter v).KeepsType := by
  refine keepsType_atomic fun owner a owner' h => ?_
  obtain ⟨x, -, h⟩ := bind_eq_ok_iff.1 h
  obtain ⟨o, ho, h⟩ := bind_eq_ok_iff.1 h
  cases pure_eq_ok_iff.1 h
  exact Member.ty_of_set ho

/-- Changing a part keeps the type of the whole if it keeps that of the part. -/
theorem keepsType_visit (N : Navigator) (l : Layer) {u : Update Value α} (hu : u.KeepsType) :
    (l.visit N u).KeepsType := by
  intro v
  cases l with
  | key owner n =>
    rw [visit_key]
    cases h : N.descend v n with
    | error e => rfl
    | ok d =>
      cases d with
      | inPlace f => exact keepsType_update (fun w hw => (N.descend_put h hw).2) hu
      | copy w origin => exact keepsType_onCopy (N.keepsType_reattach origin) w u v
  | property owner field getter setter =>
    cases field with
    | some field =>
      rw [visit_field]
      cases h : field.place? v with
      | error e => rfl
      | ok place =>
        cases place with
        | none => rfl
        | some f => exact keepsType_update (fun w hw => (Member.place?_put h hw).2) hu
    | none =>
      cases getter with
      | none => rfl
      | some getter =>
        cases setter with
        | none => rfl
        | some setter =>
          rw [visit_methods]
          cases getter.get v with
          | error e => rfl
          | ok w => exact keepsType_onCopy (keepsType_returnTo setter) w u v

/-- A write to a layer keeps the type of its owner. -/
theorem keepsType_write (N : Navigator) (l : Layer) (v : Option Value) :
    (l.write N v).KeepsType := by
  cases l with
  | key owner n => exact N.keepsType_put n v
  | property owner field getter setter =>
    cases setter with
    | some setter =>
      refine keepsType_atomic fun owner a owner' h => ?_
      obtain ⟨previous, -, h⟩ := bind_eq_ok_iff.1 h
      obtain ⟨w, -, h⟩ := bind_eq_ok_iff.1 h
      obtain ⟨o, ho, h⟩ := bind_eq_ok_iff.1 h
      cases pure_eq_ok_iff.1 h
      exact Member.ty_of_set ho
    | none =>
      cases field with
      | none => exact keepsType_throw _
      | some field =>
        refine keepsType_atomic fun owner a owner' h => ?_
        obtain ⟨previous, -, h⟩ := bind_eq_ok_iff.1 h
        obtain ⟨w, -, h⟩ := bind_eq_ok_iff.1 h
        obtain ⟨o, ho, h⟩ := bind_eq_ok_iff.1 h
        cases pure_eq_ok_iff.1 h
        exact Member.ty_of_set ho

end Layer

/-- **An update along names keeps the type**, whether it fails or not. -/
theorem Navigator.keepsType_update (N : Navigator) (e : Edit) (names : List Name) :
    (N.update e names).KeepsType := by
  induction names with
  | nil => exact keepsType_throw _
  | cons n names ih =>
    cases names with
    | nil =>
      rw [update_singleton]
      exact (N.keepsType_edit n e).map _
    | cons m rest =>
      cases hn : n.wild with
      | false =>
        rw [update_cons_cons e hn (.bean "")]
        exact Layer.keepsType_visit N _ ih
      | true =>
        have h : N.update e (n :: m :: rest) =
            (fun previous => previous.getLast?.join) <$>
              N.forEach fun _ => N.update e (m :: rest) := by
          simp only [update, hn, if_true, map_eq_pure_bind]
        rw [h]
        exact (N.keepsType_forEach _).map _

/-- A write through layers keeps the type, whether it fails or not. -/
theorem Accessor.keepsType_writeThrough (N : Navigator) (v : Option Value) (l : Layer)
    (rest : List Layer) : (writeThrough N v l rest).KeepsType := by
  induction rest generalizing l with
  | nil => exact Layer.keepsType_write N l v
  | cons m rest ih => exact Layer.keepsType_visit N l (ih m)

end BeanPath
