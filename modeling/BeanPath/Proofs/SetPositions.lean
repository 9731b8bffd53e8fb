import BeanPath.Proofs.Distinct
import BeanPath.Proofs.SetSteps
import BeanPath.Samples

/-!
# Steps into sets by position

Reading at a position gives the element that stands there.  Removing and writing take a copy of this
element and look for it again, so they are about the same element if it finds itself: no element
finds an earlier one of its set, hence the first one found is the one at the position
(`Schema.IsSet.element?_at`).

With static types every element finds itself (`Schema.IsSet.isElement_self`).  Among values of any
type one that is not the same as itself, such as a number that is none or a value that cannot be
compared, is read at its position, but removing and writing there leave it where it is.
-/

namespace BeanPath

open Update

namespace Schema

variable {S : Schema} {form : SetForm} {vs : List Value}

/-- The elements of a set have the declared type, and none of them finds an earlier one. -/
structure IsSet (S : Schema) (form : SetForm) (vs : List Value) : Prop where
  declared : form.element? ≠ some .any
  typed : ∀ t ∈ form.element?, ∀ v ∈ vs, v.ty = t
  distinct : vs.Pairwise fun earlier later => S.isElement form later earlier = false

/-- Among values of any type a set is what every operation leaves, a list of distinct values. -/
theorem isSet_dyn_iff : S.IsSet .dyn vs ↔ S.Distinct vs := by
  constructor
  · intro h
    exact h.distinct.imp fun hn => beq_eq_false_iff_ne.1 hn
  · intro h
    have hany : SetForm.dyn.element? ≠ some .any := by decide
    refine ⟨hany, fun t ht => ?_, h.imp fun hn => beq_eq_false_iff_ne.2 hn⟩
    cases ht

/-- An element finds itself, unless it is one among values of any type that is not the same as
itself. -/
theorem IsSet.isElement_self (h : S.IsSet form vs) {v : Value} (hv : v ∈ vs) :
    S.isElement form v v = true ↔ (form = .dyn → S.same v v = some true) := by
  cases form with
  | table f declared =>
    have ht : v.ty = declared := h.typed declared rfl v hv
    simp [isElement, ht]
  | dyn => simp [isElement]

section
variable (h : S.IsSet form vs) {i : Nat} (hi : i < vs.length)
include h

/-- No element finds one that comes before it. -/
theorem IsSet.not_found_before : ∀ v ∈ vs.take i, S.isElement form vs[i] v = false := by
  intro v hv
  obtain ⟨j, hj, rfl⟩ := List.getElem_of_mem hv
  have hji : j < i := by
    rw [List.length_take] at hj
    omega
  rw [List.getElem_take]
  exact List.pairwise_iff_getElem.1 h.distinct j i (by omega) hi hji

section
variable (hs : S.isElement form vs[i] vs[i] = true)
include hs

/-- The element at a position finds itself, if it is the same as itself. -/
theorem IsSet.element?_at : S.element? form vs vs[i] = some vs[i] := by
  have hf := find?_of_first (h.not_found_before hi) hs (vs.drop (i + 1))
  rwa [List.getElem_cons_drop, List.take_append_drop] at hf

/-- Taking out what the element at a position finds takes out that position. -/
theorem IsSet.eraseP_at : vs.eraseP (S.isElement form vs[i]) = vs.eraseIdx i := by
  have he := eraseP_of_first (h.not_found_before hi) hs (vs.drop (i + 1))
  rw [List.eraseIdx_eq_take_drop_succ]
  rwa [List.getElem_cons_drop, List.take_append_drop] at he

/-- No other element is equal to one that finds itself. -/
theorem IsSet.not_mem_eraseIdx : vs[i] ∉ vs.eraseIdx i := by
  intro hm
  obtain ⟨j, hj, hji, he⟩ := List.mem_eraseIdx_iff_getElem.1 hm
  rcases Nat.lt_or_gt_of_ne hji with hlt | hgt
  · have hb := List.pairwise_iff_getElem.1 h.distinct j i hj hi hlt
    rw [he, hs] at hb
    cases hb
  · have hb := List.pairwise_iff_getElem.1 h.distinct i j hi hj hgt
    rw [he, hs] at hb
    cases hb

end

end

/-- What a value does not find itself is not what it finds, and stays when that is taken out. -/
theorem element?_ne_of_not_self {v : Value} (hv : v ∈ vs) (hs : S.isElement form v v ≠ true) :
    S.element? form vs v ≠ some v ∧ v ∈ vs.eraseP (S.isElement form v) :=
  ⟨fun hf => hs (List.find?_some hf), (List.mem_eraseP_of_neg hs).2 hv⟩

end Schema

/-! ### Taking in beside other elements -/

namespace Scope

variable {C : Scope} {form : SetForm} {vs : List Value} {w : Value}

/-- A new element joins the others, or is found among them. -/
theorem exists_takeIn_beside (hw : ∀ t ∈ form.element?, w.ty = t) (vs : List Value) :
    ∃ taken vs', C.takeIn form w vs = .ok taken vs' ∧
      (vs'.Perm (w :: vs) ∨ vs' = vs ∧ ∃ u ∈ vs, C.schema.isElement form w u = true) := by
  rw [takeIn_eq hw]
  cases hf : C.schema.element? form vs w with
  | none => exact ⟨true, _, rfl, .inl (form.add_perm w vs)⟩
  | some u =>
    have hu := List.find?_some (p := C.schema.isElement form w) hf
    exact ⟨false, vs, rfl, .inr ⟨rfl, u, List.mem_of_find?_eq_some hf, hu⟩⟩

end Scope

/-! ### The steps -/

/-- **Steps by position agree where the element finds itself.**  At a position inside a set reading
gives the element that stands there.  If it is the same as itself, as it always is with static
types, removing gives back this element and leaves the others in their order, and writing gives it
back and leaves the others with the new element, which is taken in unless one of them is found by
it; so the old element is not there beside the new one.  If it is not the same as itself, removing
and writing give back something else or nothing, and it stays. -/
theorem positions_agree_where_elements_find_themselves (N : Navigator) {form : SetForm}
    {vs : List Value} (h : N.scope.schema.IsSet form vs) {n : Name} (hn : n.wild = false)
    (hq : n.qualifier = none) {i : Nat} (hi : i < vs.length)
    (hr : readInteger .i64 n.text = .ok (i : Int)) :
    N.get (.set form vs) n = .ok (some ⟨vs[i], false⟩) ∧
    ((form = .dyn → N.scope.schema.same vs[i] vs[i] = some true) →
      N.remove n (.set form vs) = .ok (some vs[i]) (.set form (vs.eraseIdx i)) ∧
      ∀ v w, Value.fit v form.element? = .ok w →
        ∃ vs', N.put n v (.set form vs) = .ok (some vs[i]) (.set form vs') ∧
          (vs'.Perm (w :: vs.eraseIdx i) ∨ vs' = vs.eraseIdx i ∧
            ∃ u ∈ vs.eraseIdx i, N.scope.schema.isElement form w u = true) ∧
          (vs[i] ∈ vs' → vs[i] = w)) ∧
    (form = .dyn → N.scope.schema.same vs[i] vs[i] ≠ some true →
      (∃ previous rest, N.remove n (.set form vs) = .ok previous (.set form rest) ∧
        previous ≠ some vs[i] ∧ vs[i] ∈ rest) ∧
      ∀ v w, Value.fit v form.element? = .ok w →
        ∃ previous vs', N.put n v (.set form vs) = .ok previous (.set form vs') ∧
          previous ≠ some vs[i] ∧ vs[i] ∈ vs') := by
  have hp : n.position? = some (i : Int) := Name.position?_eq_some_iff.2 ⟨hq, hr⟩
  have he : ∀ written, N.scope.elementFor form vs n written = .ok vs[i] :=
    Scope.elementFor_of_position hi hp
  have hv : vs[i] ∈ vs := List.getElem_mem hi
  have hself := h.isElement_self hv
  refine ⟨N.get_set_of_position hn hi hp, fun hs => ⟨?_, fun v w hw => ?_⟩,
    fun hf hs => ⟨?_, fun v w hw => ?_⟩⟩
  · rw [N.remove_set hn (he none), h.element?_at hi (hself.2 hs), h.eraseP_at hi (hself.2 hs)]
  · obtain ⟨taken, vs', ht, hj⟩ := N.scope.exists_takeIn_beside
      (Value.ty_of_fit h.declared hw) (vs.eraseIdx i)
    rw [← h.eraseP_at hi (hself.2 hs)] at ht
    have hput := Scope.putElement_eq hn hw (he _) ht
    rw [h.element?_at hi (hself.2 hs)] at hput
    refine ⟨vs', N.put_set hput, hj, fun hm => ?_⟩
    have hnot := h.not_mem_eraseIdx hi (hself.2 hs)
    rcases hj with hj | ⟨rfl, -⟩
    · rcases List.mem_cons.1 (hj.mem_iff.1 hm) with hm | hm
      · exact hm
      · exact absurd hm hnot
    · exact absurd hm hnot
  · have hns : N.scope.schema.isElement form vs[i] vs[i] ≠ true := fun hc => hs (hself.1 hc hf)
    obtain ⟨hne, hm⟩ := Schema.element?_ne_of_not_self hv hns
    exact ⟨_, _, N.remove_set hn (he none), hne, hm⟩
  · have hns : N.scope.schema.isElement form vs[i] vs[i] ≠ true := fun hc => hs (hself.1 hc hf)
    obtain ⟨hne, hm⟩ := Schema.element?_ne_of_not_self hv hns
    obtain ⟨taken, vs', ht, hj⟩ := N.scope.exists_takeIn_beside
      (Value.ty_of_fit h.declared hw) (vs.eraseP (N.scope.schema.isElement form vs[i]))
    refine ⟨_, vs', N.put_set (Scope.putElement_eq hn hw (he _) ht), hne, ?_⟩
    rcases hj with hj | ⟨rfl, -⟩
    · exact hj.mem_iff.2 (List.mem_cons_of_mem _ hm)
    · exact hm

/-- The second of two numbers is what is removed at position one. -/
theorem positions_agree_where_elements_find_themselves_for_numbers :
    let N : Navigator := { scope := ⟨Sample.schema, Sample.freshRegistry⟩ }
    let vs := [Value.int .i32 7, Value.int .i32 8]
    N.scope.schema.IsSet .dyn vs ∧ readInteger .i64 "1" = .ok 1 ∧
      N.get (.set .dyn vs) (Name.literal "1") = .ok (some ⟨.int .i32 8, false⟩) ∧
        N.remove (Name.literal "1") (.set .dyn vs) =
          .ok (some (.int .i32 8)) (.set .dyn [.int .i32 7]) := by
  intro N vs
  have hd : N.scope.schema.Distinct vs := by
    simp [Schema.Distinct, vs, Schema.same, Value.int, Atom.same]
  have h : N.scope.schema.IsSet .dyn vs := Schema.isSet_dyn_iff.2 hd
  have hr : readInteger .i64 "1" = .ok 1 := by decide +kernel
  have hs : N.scope.schema.same (.int .i32 8) (.int .i32 8) = some true := by
    simp [Schema.same, Value.int, Atom.same]
  obtain ⟨hget, hremove, -⟩ := positions_agree_where_elements_find_themselves N h
    (n := Name.literal "1") rfl rfl (i := 1) (by decide) hr
  exact ⟨h, hr, hget, (hremove fun _ => hs).1⟩

/-- A number that is none. -/
def Sample.noNumber : Value := .atom (.float .f64 FloatKind.f64.quietNaN)

/-- A number that is none is read at its position, but a removal there finds nothing to take out,
and what is written there comes to stand beside it. -/
theorem number_that_is_none_is_read_and_not_removed :
    let N : Navigator := { scope := ⟨Sample.schema, Sample.freshRegistry⟩ }
    let vs := [Sample.noNumber]
    let one := Value.int .i32 1
    N.scope.schema.IsSet .dyn vs ∧
      N.get (.set .dyn vs) (Name.literal "0") = .ok (some ⟨Sample.noNumber, false⟩) ∧
        N.remove (Name.literal "0") (.set .dyn vs) = .ok none (.set .dyn vs) ∧
          N.put (Name.literal "0") (some one) (.set .dyn vs) =
            .ok none (.set .dyn [Sample.noNumber, one]) := by
  intro N vs one
  have h : N.scope.schema.IsSet .dyn vs := Schema.isSet_dyn_iff.2 (List.pairwise_singleton _ _)
  have hp : (Name.literal "0").position? = some ((0 : Nat) : Int) := by decide +kernel
  have he : ∀ written, N.scope.elementFor .dyn vs (Name.literal "0") written =
      .ok Sample.noNumber := Scope.elementFor_of_position Nat.zero_lt_one hp
  have hnan : FloatKind.f64.sameNumber FloatKind.f64.quietNaN FloatKind.f64.quietNaN = false := by
    decide +kernel
  have hself : N.scope.schema.isElement .dyn Sample.noNumber Sample.noNumber = false := by
    simp [Schema.isElement, Schema.same, Sample.noNumber, Atom.same, hnan]
  have hone : N.scope.schema.isElement .dyn one Sample.noNumber = false := by
    simp [Schema.isElement, Schema.same, Sample.noNumber, one, Value.int, Atom.same]
  have hkept : vs.eraseP (N.scope.schema.isElement .dyn Sample.noNumber) = vs := by
    simp [vs, hself]
  have hfound : N.scope.schema.element? .dyn vs Sample.noNumber = none := by
    simp [Schema.element?, vs, hself]
  have htaken : N.scope.takeIn .dyn one vs = .ok true [Sample.noNumber, one] := by
    have hfit : ∀ t ∈ SetForm.dyn.element?, one.ty = t := by
      intro t ht
      cases ht
    rw [Scope.takeIn_eq hfit]
    simp [Schema.element?, vs, hone, SetForm.add]
  refine ⟨h, N.get_set_of_position rfl Nat.zero_lt_one hp, ?_, ?_⟩
  · rw [N.remove_set rfl (he none), hfound, hkept]
  · have hput := Scope.putElement_eq (v := some one) rfl rfl (he _) (hkept.symm ▸ htaken)
    rw [hfound] at hput
    exact N.put_set hput

end BeanPath
