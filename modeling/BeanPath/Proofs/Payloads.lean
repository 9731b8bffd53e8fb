import BeanPath.Proofs.Updates
import BeanPath.Step

/-!
# What is under the optional layers

Steps look through optional layers: they act on the payload of a value (`Value.payload?`) and put it
back with `Value.withPayload`.  A payload is no optional itself, and whether a value is one shows in
its type, so another payload of the same type is found again where it was put
(`payload?_withPayload`).  Adapting a value to a declared type changes the layers and keeps the
payload (`payload?_adapt`).
-/

namespace BeanPath
namespace Value

/-- Only absent and present values are of an optional type. -/
theorem kind_ne_optional {v : Value} (notAbsent : ∀ t, v ≠ absent t)
    (notPresent : ∀ w, v ≠ present w) : v.ty.kind ≠ .optional := by
  cases v with
  | absent t => exact (notAbsent t rfl).elim
  | present w => exact (notPresent w rfl).elim
  | seq form items => cases form <;> simp [ty, SeqForm.ty, Ty.kind]
  | map form es => cases form <;> simp [ty, MapForm.ty, Ty.kind]
  | set form es => cases form <;> simp [ty, SetForm.ty, Ty.kind]
  | _ => simp [ty, Ty.kind]

/-- A value that is not optional is its own payload. -/
theorem payload?_of_kind {v : Value} (h : v.ty.kind ≠ .optional) : v.payload? = some v := by
  cases v with
  | absent t => exact absurd rfl h
  | present v => exact absurd rfl h
  | _ => rfl

/-- No payload is optional. -/
theorem kind_of_payload? {v w : Value} (h : v.payload? = some w) : w.ty.kind ≠ .optional := by
  fun_induction payload? v with
  | case1 => cases h
  | case2 v ih => exact ih h
  | case3 v notAbsent notPresent =>
    cases h
    exact kind_ne_optional notAbsent notPresent

/-- A payload is its own payload. -/
theorem payload?_payload {v w : Value} (h : v.payload? = some w) : w.payload? = some w :=
  payload?_of_kind (kind_of_payload? h)

/-- What has the type of a payload is its own payload. -/
theorem payload?_of_ty_eq {v w u : Value} (h : v.payload? = some w) (ht : u.ty = w.ty) :
    u.payload? = some u :=
  payload?_of_kind (ht ▸ kind_of_payload? h)

/-! ### Putting a payload back -/

/-- A value that is not optional has no layers to keep, so it is replaced as a whole. -/
theorem withPayload_of_kind {v : Value} (h : v.ty.kind ≠ .optional) (w : Value) :
    v.withPayload w = w := by
  rw [withPayload]
  · rintro u rfl
    exact h rfl
  · rintro t rfl
    exact h rfl

/-- Putting back the payload of a value changes nothing. -/
theorem withPayload_payload {v w : Value} (h : v.payload? = some w) : v.withPayload w = v := by
  fun_induction payload? v with
  | case1 => cases h
  | case2 v ih => rw [withPayload, ih h]
  | case3 v notAbsent notPresent =>
    cases h
    exact withPayload_of_kind (kind_ne_optional notAbsent notPresent) w

/-- A payload is found again where it was put. -/
theorem payload?_withPayload {v w u : Value} (h : v.payload? = some w)
    (hu : u.payload? = some u) : (v.withPayload u).payload? = some u := by
  fun_induction payload? v with
  | case1 => cases h
  | case2 v ih => rw [withPayload, payload?, ih h]
  | case3 v notAbsent notPresent =>
    rw [withPayload_of_kind (kind_ne_optional notAbsent notPresent), hu]

/-- Of two payloads put into a value the second counts. -/
theorem withPayload_withPayload {v w u : Value} (h : v.payload? = some w)
    (hu : u.payload? = some u) (x : Value) :
    (v.withPayload u).withPayload x = v.withPayload x := by
  fun_induction payload? v with
  | case1 => cases h
  | case2 v ih => rw [withPayload, withPayload, withPayload, ih h]
  | case3 v notAbsent notPresent =>
    have hv := kind_ne_optional notAbsent notPresent
    rw [withPayload_of_kind hv, withPayload_of_kind hv, withPayload_of_kind (kind_of_payload? hu)]

/-- Another payload of the same type does not change the type of a value. -/
theorem ty_withPayload {v w u : Value} (h : v.payload? = some w) (hu : u.ty = w.ty) :
    (v.withPayload u).ty = v.ty := by
  fun_induction payload? v with
  | case1 => cases h
  | case2 v ih => rw [withPayload, ty, ih h, ty]
  | case3 v notAbsent notPresent =>
    cases h
    rw [withPayload_of_kind (kind_ne_optional notAbsent notPresent), hu]

/-! ### Adapting -/

/-- No value has the type of all values; it is a type to declare only. -/
theorem ty_ne_any (v : Value) : v.ty ≠ .any := by
  cases v with
  | seq form items => cases form <;> simp [ty, SeqForm.ty]
  | map form es => cases form <;> simp [ty, MapForm.ty]
  | set form es => cases form <;> simp [ty, SetForm.ty]
  | _ => simp [ty]

/-- Taking one layer off leaves the payload as it is. -/
theorem payload?_content {v w : Value} (h : v.content? = some w) : w.payload? = v.payload? := by
  cases v <;> cases h <;> rfl

/-- A layer is put around a value of exactly the inner type. -/
theorem inOption_eq_ok_iff {inner : Ty} {v w : Value} :
    v.inOption inner = .ok w ↔ v.ty = inner ∧ w = present v := by
  unfold inOption
  split
  · next h => simp [h, eq_comm]
  · next h => simp [h]

/-- **Adapting keeps the payload.**  Only optional layers are added or removed. -/
theorem payload?_adapt {v w : Value} {t : Ty} (h : v.adapt t = .ok w) :
    w.payload? = v.payload? := by
  fun_induction adapt v t generalizing w with
  | case1 v => cases h; rfl
  | case2 v inner hv => cases h; rfl
  | case3 v inner hv hc =>
    cases h
    cases v <;> first | rfl | cases hc
  | case4 v inner hv u hc ih =>
    obtain ⟨x, hx, hw⟩ := bind_eq_ok_iff.1 h
    obtain ⟨-, rfl⟩ := inOption_eq_ok_iff.1 hw
    rw [payload?, ih hx, payload?_content hc]
  | case5 => cases h
  | case6 v u hu =>
    cases h
    rw [hu, payload?_payload hu]
  | case7 => cases h

/-- What is adapted to a type has that type, unless the type is that of all values. -/
theorem ty_adapt {v w : Value} {t : Ty} (h : v.adapt t = .ok w) : t = .any ∨ w.ty = t := by
  fun_induction adapt v t generalizing w with
  | case1 v => exact .inl rfl
  | case2 v inner hv => cases h; exact .inr hv
  | case3 v inner hv hc => cases h; exact .inr rfl
  | case4 v inner hv u hc ih =>
    obtain ⟨x, hx, hw⟩ := bind_eq_ok_iff.1 h
    obtain ⟨hxt, rfl⟩ := inOption_eq_ok_iff.1 hw
    exact .inr (congrArg Ty.option hxt)
  | case5 => cases h
  | case6 v u hu => cases h; exact .inr rfl
  | case7 => cases h

/-- What is adapted has the type it was adapted to, also where there was no value to start with. -/
theorem ty_adapt? {v : Option Value} {w : Value} {t : Ty} (h : adapt? v t = .ok w) :
    t = .any ∨ w.ty = t := by
  cases v with
  | some v => exact ty_adapt h
  | none =>
    unfold adapt? at h
    split at h
    · cases ‹_ = some _›
    · cases h; exact .inr rfl
    · cases h

/-- What was made to fit a place of a known type has that type, unless the place is for values of
any type. -/
theorem ty_fit {v : Option Value} {w : Value} {t : Ty} (h : fit v (some t) = .ok w) :
    t = .any ∨ w.ty = t :=
  ty_adapt? (by simpa only [fit] using h)

/-- What was made to fit a place has the type of the place. -/
theorem ty_of_fit {v : Option Value} {w : Value} {place : Option Ty} (hp : place ≠ some .any)
    (h : fit v place = .ok w) : ∀ t ∈ place, w.ty = t := by
  intro t ht
  rw [Option.mem_def.1 ht] at h hp
  rcases ty_fit h with rfl | hw
  · exact absurd rfl hp
  · exact hw

/-- A value fits a place as it is if it has the type of the place, or if the place takes any. -/
theorem fitting_eq_ok_iff {place : Option Ty} {v w : Value} :
    v.fitting place = .ok w ↔ w = v ∧ ∀ t ∈ place, v.ty = t := by
  unfold fitting
  cases place with
  | none => simp [eq_comm]
  | some t =>
    dsimp only
    split
    · next h => simp [h, eq_comm]
    · next h => simp [h]

end Value

/-! ### Updates under the optional layers -/

/-- A value can be unwrapped exactly if it has a payload. -/
theorem Value.unwrapped_eq_ok_iff {v w : Value} : v.unwrapped = .ok w ↔ v.payload? = some w := by
  unfold unwrapped
  cases v.payload? <;> simp

/-- Looking through the layers of a whole value leads to its payload, which is put back under
them. -/
theorem Focus.present_whole (v : Value) :
    (Focus.whole v).present = match v.payload? with
      | some w => .ok ⟨w, v.withPayload⟩
      | none => .error .nullTarget := by
  unfold present Value.payloadPlace? whole
  cases v.payload? <;> rfl

namespace Update

/-- An update under the optional layers runs on the payload and fails where there is none. -/
theorem present_apply (u : Value → Update Value α) (v : Value) :
    present u v = match v.payload? with
      | some w => (u w).within w v.withPayload v
      | none => .error Problem.nullTarget.failure v := by
  unfold present
  rw [bind_apply]
  show (match v.payload? with
    | some w => (u w).within w v.withPayload
    | none => throw Problem.nullTarget.failure) v = _
  cases v.payload? <;> rfl

/-- An update under the optional layers succeeds exactly if there is a payload on which it does. -/
theorem present_eq_ok_iff {u : Value → Update Value α} {v v' : Value} {a : α} :
    present u v = .ok a v' ↔
      ∃ w w', v.payload? = some w ∧ u w w = .ok a w' ∧ v' = v.withPayload w' := by
  rw [present_apply]
  cases v.payload? with
  | none => simp
  | some w => simp [within_eq_ok_iff, eq_comm]

/-- An update under the optional layers restores if it restores the payload. -/
theorem restores_present {u : Value → Update Value α}
    (hu : ∀ ⦃w e w'⦄, u w w = .error e w' → w' = w) : (present u).Restores := by
  rintro v e v' h
  rw [present_apply] at h
  cases hv : v.payload? with
  | none => rw [hv] at h; cases h; rfl
  | some w =>
    rw [hv] at h
    dsimp only at h
    rw [within_apply] at h
    cases hw : u w w with
    | ok a w' => rw [hw] at h; cases h
    | error e' w' =>
      rw [hw] at h
      cases h
      rw [hu hw, Value.withPayload_payload hv]

/-- An atomic update that looks through the optional layers is one of the payload. -/
theorem atomic_payload {f : Value → Except Failure (α × Value)} {v b : Value}
    (h : v.payload? = some b) (hf : f v = (f b).map fun r => (r.1, v.withPayload r.2)) :
    atomic f v = (atomic f).within b v.withPayload v := by
  rw [within_apply]
  unfold atomic
  rw [hf]
  rcases f b with e | ⟨a, b'⟩
  · exact congrArg (EStateM.Result.error e) (Value.withPayload_payload h).symm
  · rfl

/-! ### Updates that keep the type -/

/-- An update that leaves a value of the type of the one that it found, whether it fails or not. -/
def KeepsType (u : Update Value α) : Prop := ∀ v, (state (u v)).ty = v.ty

/-- A successful update that keeps types has kept the type. -/
theorem KeepsType.ok {u : Update Value α} (hu : u.KeepsType) {v v' : Value} {a : α}
    (h : u v = .ok a v') : v'.ty = v.ty := by
  simpa only [h, state] using hu v

/-- An update that does nothing but fail keeps the type. -/
theorem keepsType_throw (e : Failure) : (throw e : Update Value α).KeepsType := fun _ => rfl

/-- An atomic update keeps the type if its operation does. -/
theorem keepsType_atomic {f : Value → Except Failure (α × Value)}
    (hf : ∀ v a v', f v = .ok (a, v') → v'.ty = v.ty) : (atomic f).KeepsType := by
  intro v
  rw [state_atomic]
  cases h : f v with
  | error e => rfl
  | ok r => exact hf v r.1 r.2 h

/-- What is made of the result of an update does not matter to the type of the state. -/
theorem KeepsType.map {u : Update Value α} (hu : u.KeepsType) (f : α → β) :
    (f <$> u).KeepsType := by
  intro v
  have h := hu v
  rw [map_apply]
  cases hv : u v <;> rw [hv] at h <;> exact h

/-- An update under the optional layers keeps the type of the whole if it keeps that of the
payload. -/
theorem keepsType_present {u : Value → Update Value α} (hu : ∀ w, (state (u w w)).ty = w.ty) :
    (present u).KeepsType := by
  intro v
  rw [present_apply]
  cases hv : v.payload? with
  | none => rfl
  | some w => exact (congrArg _ (state_within ..)).trans (Value.ty_withPayload hv (hu w))

/-- Where what holds rules out optional layers, there are none to look through. -/
theorem keeps_present {P : Value → Prop} (hk : ∀ v, P v → v.ty.kind ≠ .optional)
    {u : Value → Update Value α} (hu : ∀ v, P v → P (state (u v v))) : (present u).Keeps P := by
  intro v hv
  rw [present_apply, Value.payload?_of_kind (hk v hv)]
  dsimp only
  rw [state_within, Value.withPayload_of_kind (hk v hv)]
  exact hu v hv

end Update
end BeanPath
