import BeanPath.Proofs.Readings

/-!
# Values that are what their types declare

A value is sound for a class of values if its parts have their declared types and belong to the
class; what the getters of a bean give counts as a part.  A value is well typed if it belongs to a
class of sound values (`Schema.WellTyped`), so whatever a path leads to in it is well typed again.
A member that is looked up on the type of a well-typed value then gives values of its own type
(`Schema.WellTyped.place?`, `Schema.WellTyped.get`), also through embedded parents.
-/

namespace BeanPath

namespace Schema

variable {S : Schema}

/-- The parts of a value belong to a class and have their declared types. -/
def Sound (S : Schema) (W : Value → Prop) : Value → Prop
  | .present v => W v
  | .seq form vs => ∀ v ∈ vs, W v ∧ ∀ t ∈ form.item?, v.ty = t
  | .map form es => ∀ e ∈ es, W e.2 ∧ ∀ t ∈ form.value?, e.2.ty = t
  | .set form vs => ∀ v ∈ vs, W v ∧ ∀ t ∈ form.element?, v.ty = t
  | .bean path fields hidden =>
    ∀ b ∈ S.bean? path,
      (∀ f ∈ b.fields, ∀ u ∈ fields.lookup f.name, W u ∧ u.ty = f.ty) ∧
        ∀ m ∈ b.methodsOf .getter, ∀ u ∈ (m.get path (.bean path fields hidden)).toOption,
          W u ∧ u.ty = m.ty
  | .atom _ | .sealed _ _ | .absent _ => True

instance {W : Value → Prop} [DecidablePred W] : (v : Value) → Decidable (S.Sound W v)
  | .present v => inferInstanceAs (Decidable (W v))
  | .seq form vs => inferInstanceAs (Decidable (∀ v ∈ vs, W v ∧ ∀ t ∈ form.item?, v.ty = t))
  | .map form es =>
    inferInstanceAs (Decidable (∀ e ∈ es, W e.2 ∧ ∀ t ∈ form.value?, e.2.ty = t))
  | .set form vs => inferInstanceAs (Decidable (∀ v ∈ vs, W v ∧ ∀ t ∈ form.element?, v.ty = t))
  | .bean path fields hidden =>
    inferInstanceAs <| Decidable <| ∀ b ∈ S.bean? path,
      (∀ f ∈ b.fields, ∀ u ∈ fields.lookup f.name, W u ∧ u.ty = f.ty) ∧
        ∀ m ∈ b.methodsOf .getter, ∀ u ∈ (m.get path (.bean path fields hidden)).toOption,
          W u ∧ u.ty = m.ty
  | .atom _ | .sealed _ _ | .absent _ => .isTrue trivial

/-- A value whose parts, the parts of these, and so on, have their declared types. -/
def WellTyped (S : Schema) (v : Value) : Prop :=
  ∃ W : Value → Prop, W v ∧ ∀ w, W w → S.Sound W w

/-- Finitely many values that are sound for each other are well typed. -/
theorem wellTyped_of_mem {vs : List Value} (h : ∀ v ∈ vs, S.Sound (· ∈ vs) v) {v : Value}
    (hv : v ∈ vs) : S.WellTyped v := ⟨(· ∈ vs), hv, h⟩

/-- What is sound for a class is sound for every larger one. -/
theorem Sound.mono {W W' : Value → Prop} (h : ∀ v, W v → W' v) {v : Value} (hv : S.Sound W v) :
    S.Sound W' v := by
  cases v with
  | present v => exact h v hv
  | seq form vs => exact fun v hm => ⟨h v (hv v hm).1, (hv v hm).2⟩
  | map form es => exact fun e hm => ⟨h e.2 (hv e hm).1, (hv e hm).2⟩
  | set form vs => exact fun v hm => ⟨h v (hv v hm).1, (hv v hm).2⟩
  | bean path fields hidden =>
    intro b hb
    obtain ⟨hf, hg⟩ := hv b hb
    exact ⟨fun f hm u hu => ⟨h u (hf f hm u hu).1, (hf f hm u hu).2⟩,
      fun m hm u hu => ⟨h u (hg m hm u hu).1, (hg m hm u hu).2⟩⟩
  | _ => trivial

/-- The bean whose members a type offers is the one under its optional layers. -/
theorem core_of_beanOf? {t : Ty} {b : Bean} (h : S.beanOf? t = some b) :
    t.core = .bean b.path ∧ S.bean? b.path = some b := by
  have found {path : String} (hb : S.bean? path = some b) :
      Ty.bean path = .bean b.path ∧ S.bean? b.path = some b := by
    have hp : b.path = path := by simpa using List.find?_some hb
    rw [hp]
    exact ⟨rfl, hb⟩
  unfold beanOf? at h
  split at h
  · exact found h
  · exact found h
  · cases h

namespace WellTyped

/-- The parts of a well-typed value are well typed. -/
theorem sound {v : Value} (h : S.WellTyped v) : S.Sound S.WellTyped v := by
  obtain ⟨W, hv, hW⟩ := h
  exact (hW v hv).mono fun w hw => ⟨W, hw, hW⟩

/-- The value under the optional layers of a well-typed one is well typed. -/
theorem payload {v w : Value} (h : S.WellTyped v) (hw : v.payload? = some w) : S.WellTyped w := by
  fun_induction Value.payload? v with
  | case1 => cases hw
  | case2 v ih => exact ih h.sound hw
  | case3 v _ _ => cases hw; exact h

/-- What a declared field of a well-typed bean holds is well typed and of the declared type. -/
theorem field {v u : Value} {path : String} {b : Bean} {f : Field} (h : S.WellTyped v)
    (hv : v.ty = .bean path) (hb : S.bean? path = some b) (hf : f ∈ b.fields)
    (hu : v.field? f.name = some u) : S.WellTyped u ∧ u.ty = f.ty := by
  obtain ⟨fields, hidden, rfl⟩ := Value.exists_of_ty_bean hv
  exact (h.sound b hb).1 f hf u hu

/-- The bean at a level of the type of a well-typed value is well typed and of that level. -/
theorem embedded {t : Ty} {l : Level} {v x : Value} (hl : l ∈ S.levels t) (hv : S.WellTyped v)
    (ht : v.ty = t.core) (hx : v.embedded l.parents = .ok x) :
    S.WellTyped x ∧ x.ty = .bean l.bean.path ∧ S.bean? l.bean.path = some l.bean := by
  rw [levels] at hl
  split at hl
  · cases hl
  · next b hb =>
    obtain ⟨hc, hb'⟩ := core_of_beanOf? hb
    have hvb := ht.trans hc
    rcases List.mem_cons.1 hl with rfl | hl
    · cases hx
      exact ⟨hv, hvb, hb'⟩
    · split at hl
      · cases hl
      · next parent hp =>
        obtain ⟨l', hl', rfl⟩ := List.mem_map.1 hl
        obtain ⟨u, w, hu, hw, hx⟩ := Value.embedded_cons_eq_ok_iff.1 hx
        have hmem : parent ∈ b.fields := by
          obtain ⟨n, -, hn⟩ := Option.bind_eq_some_iff.1 hp
          exact List.mem_of_find?_eq_some hn
        obtain ⟨hwt, hty⟩ := hv.field hvb hb' hmem hu
        have hlt := S.beanOf?_parent_extent_lt hb hp
        exact embedded (l := l') hl' (hwt.payload hw) (by rw [Value.ty_of_payload? hw, hty]) hx
termination_by t.extent S.extent
decreasing_by exact hlt

/-! ### What members give -/

variable {q : Query} {owner : Ty} {m : Member} {v : Value}

/-- What a field of a well-typed value holds is well typed and has the type of the field. -/
theorem place? (hv : S.WellTyped v) (ht : v.ty.core = owner.core) (hr : q.role = .field)
    (hm : S.member? q owner = .ok (some m)) {f : Focus} (hf : m.place? v = .ok (some f)) :
    S.WellTyped f.value ∧ f.value.ty = m.ty := by
  obtain ⟨l, hl, d, hd, rfl⟩ := exists_level_of_member? hm
  obtain ⟨d, w, x, u, rfl, hw, hx, hu, rfl⟩ := Member.place?_eq_ok_some_iff.1 hf
  have hmem : d ∈ l.bean.fields := by
    have hd := Query.mem_declarations_of_mem_matching hd
    rw [hr] at hd
    obtain ⟨d', hd', h⟩ := List.mem_map.1 hd
    cases h
    exact hd'
  obtain ⟨hwt, hty, hb⟩ := embedded hl (hv.payload hw) ((Value.ty_of_payload? hw).trans ht) hx
  exact hwt.field hty hb hmem hu

/-- What a getter of a well-typed value gives is well typed and has the type of the getter. -/
theorem get (hv : S.WellTyped v) (ht : v.ty.core = owner.core) (hr : q.role = .getter)
    (hm : S.member? q owner = .ok (some m)) {u : Value} (hu : m.get v = .ok u) :
    S.WellTyped u ∧ u.ty = m.ty := by
  obtain ⟨l, hl, d, hd, rfl⟩ := exists_level_of_member? hm
  have hd := Query.mem_declarations_of_mem_matching hd
  rw [hr] at hd
  obtain ⟨method, hmem, rfl⟩ := List.mem_map.1 hd
  obtain ⟨r, hr, h⟩ := bind_eq_ok_iff.1 hu
  obtain ⟨w, x, hw, hx, rfl⟩ := Member.receiver_eq_ok_iff.1 (liftProblem_eq_ok_iff.1 hr)
  obtain ⟨hwt, hty, hb⟩ := embedded hl (hv.payload hw) ((Value.ty_of_payload? hw).trans ht) hx
  obtain ⟨fields, hidden, rfl⟩ := Value.exists_of_ty_bean hty
  refine (hwt.sound l.bean hb).2 method hmem u ?_
  have h : method.get l.bean.path (.bean l.bean.path fields hidden) = .ok u :=
    liftFault_eq_ok_iff.1 h
  rw [h]
  rfl

/-! ### What steps lead to -/

/-- What is read from a set is one of its elements. -/
theorem mem_of_getElement {C : Scope} {form : SetForm} {vs : List Value} {n : Name} {u : Value}
    (h : C.getElement form vs n = .ok (some u)) : u ∈ vs := by
  unfold Scope.getElement at h
  split at h
  · cases h
  · split at h
    · obtain ⟨i, -, h⟩ := bind_eq_ok_iff.1 h
      cases pure_eq_ok_iff.1 h
      exact List.get_mem ..
    · obtain ⟨former, -, h⟩ := bind_eq_ok_iff.1 h
      exact List.mem_of_find?_eq_some (pure_eq_ok_iff.1 h)

/-- What a step reads in a well-typed value is well typed, and in a container with a declared
element type it has that type. -/
theorem reading {N : Navigator} {n : Name} {r : Reading} (hv : N.scope.schema.WellTyped v)
    (hr : N.get v n = .ok (some r)) :
    N.scope.schema.WellTyped r.value ∧ ∀ t ∈ v.ty.core.element?, r.value.ty = t := by
  obtain ⟨w, hw, hr⟩ := bind_eq_ok_iff.1 hr
  have hw := Value.unwrapped_eq_ok_iff.1 (liftProblem_eq_ok_iff.1 hw)
  have hwt := hv.payload hw
  rw [← Value.ty_of_payload? hw]
  cases w with
  | seq form vs =>
    obtain ⟨u, hu, hr⟩ := bind_eq_ok_iff.1 hr
    cases pure_eq_ok_iff.1 hr
    obtain ⟨i, hi, -, -, rfl⟩ := SeqForm.getAt_eq_ok_iff.1 (liftProblem_eq_ok_iff.1 hu)
    have h := hwt.sound vs[i] (List.getElem_mem hi)
    cases form <;> exact h
  | map form es =>
    obtain ⟨u, hu, hr⟩ := bind_eq_ok_iff.1 hr
    obtain ⟨k, -, -, rfl⟩ := Scope.getUnder_eq_ok_iff.1 hu
    obtain ⟨u, hu, rfl⟩ := Option.map_eq_some_iff.1 (pure_eq_ok_iff.1 hr)
    obtain ⟨e, he, rfl⟩ := Option.map_eq_some_iff.1 hu
    have h := hwt.sound e (List.mem_of_find?_eq_some he)
    cases form <;> exact h
  | set form vs =>
    obtain ⟨u, hu, hr⟩ := bind_eq_ok_iff.1 hr
    obtain ⟨u, rfl, rfl⟩ := Option.map_eq_some_iff.1 (pure_eq_ok_iff.1 hr)
    have h := hwt.sound u (mem_of_getElement hu)
    cases form <;> exact h
  | bean path fields hidden =>
    refine ⟨?_, nofun⟩
    obtain ⟨expected, -, h⟩ := Navigator.getProperty_eq_ok_iff.1 hr
    rcases h with ⟨g, u, hg, hu, h⟩ | ⟨-, m, place, hm, hp, h⟩
    · cases h
      exact (hwt.get rfl rfl hg hu).1
    · obtain ⟨f, rfl, rfl⟩ := Option.map_eq_some_iff.1 h.symm
      exact (hwt.place? rfl rfl hm hp).1
  | _ => cases hr

/-- The part that a step in order to change it leads to is well typed, too. -/
theorem part {N : Navigator} {n : Name} {d : Descent} (hv : N.scope.schema.WellTyped v)
    (hd : N.descend v n = .ok d) :
    N.scope.schema.WellTyped d.value ∧ ∀ t ∈ v.ty.core.element?, d.value.ty = t := by
  cases d with
  | inPlace f =>
    obtain ⟨w, g, hw, hd, rfl⟩ := Navigator.descend_eq_inPlace_iff.1 hd
    have hwt := hv.payload hw
    rw [← Value.ty_of_payload? hw]
    cases w with
    | seq form vs =>
      obtain ⟨g', hg, hd⟩ := bind_eq_ok_iff.1 hd
      cases hd
      obtain ⟨i, hi, -, -, rfl⟩ := SeqForm.placeAt_eq_ok_iff.1 (liftProblem_eq_ok_iff.1 hg)
      have h := hwt.sound vs[i] (List.getElem_mem hi)
      cases form <;> exact h
    | map form es =>
      obtain ⟨g', hg, hd⟩ := bind_eq_ok_iff.1 hd
      cases hd
      obtain ⟨k, u, -, -, hu, rfl⟩ := Scope.placeUnder_eq_ok_iff.1 hg
      obtain ⟨e, he, rfl⟩ := Option.map_eq_some_iff.1 hu
      have h := hwt.sound e (List.mem_of_find?_eq_some he)
      cases form <;> exact h
    | set form vs =>
      obtain ⟨former, -, hd⟩ := bind_eq_ok_iff.1 hd
      split at hd <;> cases hd
    | bean path fields hidden =>
      obtain ⟨expected, m, -, hm, hp⟩ := Navigator.descendProperty_eq_inPlace_iff.1 hd
      exact ⟨(hwt.place? rfl rfl hm hp).1, nofun⟩
    | _ => cases hd
  | copy u origin =>
    obtain ⟨w, hw, hd⟩ := Navigator.descend_eq_copy_iff.1 hd
    have hwt := hv.payload hw
    rw [← Value.ty_of_payload? hw]
    obtain ⟨form, vs, former, rfl, hu, -⟩ | ⟨path, hb, hd⟩ := Navigator.descendInto_copy_cases hd
    · have h := hwt.sound u (List.mem_of_find?_eq_some hu)
      cases form <;> exact h
    · obtain ⟨expected, g, s, -, -, hg, hu, -⟩ := Navigator.descendProperty_eq_copy_iff.1 hd
      rw [hb]
      exact ⟨(hwt.get rfl rfl hg hu).1, nofun⟩

end WellTyped
end Schema
end BeanPath
