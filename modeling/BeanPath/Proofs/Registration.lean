import Mathlib.Data.List.Induction
import Mathlib.Logic.Relation
import BeanPath.Registry

/-!
# Registering a type registers what it refers to

Registration is a walk: a type that is known is passed over, and a new one is entered and what it
refers to is registered before the types after it (`Registry.Walk`).  The walk itself has no bound,
and type graphs may have circles, but it always ends, because no type is entered twice and what a
type refers to is in its stock (`Registry.walk_register`).  In the middle of a walk there are types
whose dependencies are still to come; at its end every type that it entered has all of them
(`Registry.Walk.closes`).  So in every registry that calls have made from the empty one, what a
registered type refers to is registered too, and one more call enters what can be reached from its
type and is new (`registration_closes`).
-/

namespace BeanPath

/-! ### What a type refers to -/

/-- A type is the other one, or refers to it directly or through others. -/
def Schema.Reaches (S : Schema) : Ty → Ty → Prop :=
  Relation.ReflTransGen fun t u => u ∈ S.dependencies t

/-- The parts of a part of a type are parts of the type. -/
theorem Ty.parts_subset {t u : Ty} (h : u ∈ t.parts) : u.parts ⊆ t.parts := by
  induction t with
  | option t ih | list _ t ih | array t _ ih | set _ t ih =>
    rcases List.mem_cons.1 h with rfl | h
    · exact fun _ => id
    · exact List.subset_cons_of_subset _ (ih h)
  | map _ k v ihk ihv =>
    rcases List.mem_cons.1 h with rfl | h
    · exact fun _ => id
    · refine List.subset_cons_of_subset _ ?_
      rcases List.mem_append.1 h with h | h
      · exact List.subset_append_of_subset_left _ (ihk h)
      · exact List.subset_append_of_subset_right _ (ihv h)
  | _ => cases List.mem_singleton.1 h; exact fun _ => id

namespace Schema

variable {S : Schema} {t u v : Ty}

/-- The parts of the types of members are all in the stock of the schema. -/
theorem parts_subset_memberParts (h : u ∈ S.memberParts) : u.parts ⊆ S.memberParts := by
  obtain ⟨b, hb, h⟩ := List.mem_flatMap.1 h
  obtain ⟨t, ht, h⟩ := List.mem_flatMap.1 h
  intro v hv
  exact List.mem_flatMap.2 ⟨b, hb, List.mem_flatMap.2 ⟨t, ht, Ty.parts_subset h hv⟩⟩

/-- A bean refers to members of beans, and any other type to its own parts. -/
theorem mem_parts_of_dependency (h : v ∈ S.dependencies u) :
    v ∈ u.parts ∨ v ∈ S.memberParts := by
  cases u with
  | bean path =>
    right
    cases hb : S.bean? path with
    | none => simp [dependencies, hb] at h
    | some b =>
      have h : v ∈ b.memberTypes := by simpa [dependencies, hb] using h
      exact List.mem_flatMap.2 ⟨b, List.mem_of_find?_eq_some hb,
        List.mem_flatMap.2 ⟨v, h, v.mem_parts_self⟩⟩
  | map form key value =>
    left
    rcases List.mem_cons.1 h with rfl | h
    · simp [Ty.parts, Ty.mem_parts_self]
    · cases List.mem_singleton.1 h
      simp [Ty.parts, Ty.mem_parts_self]
  | option t | list _ t | array t _ | set _ t =>
    left
    cases List.mem_singleton.1 h
    exact List.mem_cons_of_mem _ v.mem_parts_self
  | scalar _ | any | «sealed» _ | dynList | dynMap | dynSet => cases h

/-- All that a type refers to is in its stock. -/
theorem Reaches.mem_stock (h : S.Reaches t u) : u ∈ S.stock t := by
  induction h with
  | refl => exact List.mem_append_left _ t.mem_parts_self
  | tail _ hv ih =>
    rcases mem_parts_of_dependency hv with hv | hv
    · rcases List.mem_append.1 ih with hu | hu
      · exact List.mem_append_left _ (Ty.parts_subset hu hv)
      · exact List.mem_append_right _ (parts_subset_memberParts hu hv)
    · exact List.mem_append_right _ hv

end Schema

namespace Registry

variable {S : Schema} {r r' r'' : Registry} {t u : Ty} {ts us : List Ty}

/-! ### Entering a type -/

/-- A registry has the types in its list. -/
theorem has_iff_mem : r.has t = true ↔ t ∈ r.types := List.contains_iff_mem

/-- Entering a type changes nothing but the list of types and the tables by path and name. -/
theorem enter_eq (r : Registry) (t : Ty) :
    ∃ names ambiguous, r.enter t =
      { r with types := r.types ++ [t], paths := r.paths.put t.path t, names, ambiguous } := by
  unfold enter
  dsimp only
  split
  · exact ⟨_, _, rfl⟩
  · split <;> exact ⟨_, _, rfl⟩

/-- A type that is entered goes to the end of the list. -/
@[simp] theorem types_enter (r : Registry) (t : Ty) : (r.enter t).types = r.types ++ [t] := by
  obtain ⟨_, _, h⟩ := r.enter_eq t
  rw [h]

/-- Entering a type leaves the aliases alone. -/
@[simp] theorem aliases_enter (r : Registry) (t : Ty) : (r.enter t).aliases = r.aliases := by
  obtain ⟨_, _, h⟩ := r.enter_eq t
  rw [h]

/-- A type that is entered is found under its path, and a type that was found there before is not
any more. -/
@[simp] theorem paths_enter (r : Registry) (t : Ty) :
    (r.enter t).paths = r.paths.put t.path t := by
  obtain ⟨_, _, h⟩ := r.enter_eq t
  rw [h]

/-- A registry has a type that is entered and all it had before. -/
@[simp] theorem has_enter : (r.enter t).has u = true ↔ r.has u = true ∨ u = t := by
  simp [has_iff_mem]

/-- What a registry does not have after a type is entered, it did not have before. -/
theorem has_enter_eq_false : (r.enter t).has u = false ↔ r.has u = false ∧ u ≠ t := by
  rw [← Bool.not_eq_true, has_enter, not_or, Bool.not_eq_true]

/-! ### Walks -/

/-- Registers the pending types, one after the other.  What a new type refers to is registered
before the types after it. -/
inductive Walk (S : Schema) : Registry → List Ty → Registry → Prop
  | done (r : Registry) : Walk S r [] r
  | known {r r' : Registry} {t : Ty} {ts : List Ty} (ht : r.has t = true)
      (rest : Walk S r ts r') : Walk S r (t :: ts) r'
  | new {r r' r'' : Registry} {t : Ty} {ts : List Ty} (ht : r.has t = false)
      (inner : Walk S (r.enter t) (S.dependencies t) r') (rest : Walk S r' ts r'') :
      Walk S r (t :: ts) r''

/-- A walk can end in one registry only. -/
theorem Walk.unique (h : Walk S r ts r') (h' : Walk S r ts r'') : r' = r'' := by
  induction h generalizing r'' with
  | done r => cases h'; rfl
  | known ht _ ih =>
    cases h' with
    | known _ rest => exact ih rest
    | new ht' => rw [ht] at ht'; cases ht'
  | new ht _ _ ihi ihr =>
    cases h' with
    | known ht' => rw [ht] at ht'; cases ht'
    | new _ inner rest => cases ihi inner; exact ihr rest

/-- A walk over some types and then others comes to a registry in between. -/
theorem Walk.split (h : Walk S r (ts ++ us) r'') : ∃ r', Walk S r ts r' ∧ Walk S r' us r'' := by
  induction ts generalizing r with
  | nil => exact ⟨r, .done r, h⟩
  | cons t ts ih =>
    cases h with
    | known ht rest =>
      obtain ⟨r', hts, hus⟩ := ih rest
      exact ⟨r', .known ht hts, hus⟩
    | new ht inner rest =>
      obtain ⟨r', hts, hus⟩ := ih rest
      exact ⟨r', .new ht inner hts, hus⟩

/-- With all that is reached in stock, the walk over a stock is the walk. -/
theorem walk_visit {stock : List Ty}
    (h : ∀ t ∈ ts, ∀ u, S.Reaches t u → r.has u = false → u ∈ stock) :
    Walk S r ts (visit S stock ts r) := by
  fun_induction visit S stock ts r with
  | case1 => exact .done _
  | case2 stock r t ts ht ih => exact .known ht (ih fun v hv => h v (List.mem_cons_of_mem t hv))
  | case3 stock r t ts ht hmem ih =>
    rw [Bool.not_eq_true] at ht
    have hw := ih fun v hv u hu hnew => by
      obtain ⟨hnew, hut⟩ := has_enter_eq_false.1 hnew
      refine (List.mem_erase_of_ne hut).2 ?_
      rcases List.mem_append.1 hv with hv | hv
      · exact h t List.mem_cons_self u (.head hv hu) hnew
      · exact h v (List.mem_cons_of_mem t hv) u hu hnew
    obtain ⟨r', inner, rest⟩ := hw.split
    exact .new ht inner rest
  | case4 stock r t ts ht hmem ih =>
    rw [Bool.not_eq_true] at ht
    exact absurd (h t List.mem_cons_self t .refl ht) hmem

/-- **Registration ends**: the walk from a type comes to the registry that registering gives. -/
theorem walk_register (r : Registry) (S : Schema) (t : Ty) : Walk S r [t] (r.register S t).2 := by
  unfold register
  split
  · next ht => exact .known ht (.done r)
  · refine walk_visit fun v hv u hu _ => ?_
    cases List.mem_singleton.1 hv
    exact hu.mem_stock

/-- What entering a new type preserves a walk preserves. -/
theorem Walk.preserves {P : Registry → Prop} (h : Walk S r ts r')
    (henter : ∀ ⦃r t⦄, r.has t = false → P r → P (r.enter t)) (hr : P r) : P r' := by
  induction h with
  | done => exact hr
  | known _ _ ih => exact ih hr
  | new ht _ _ ihi ihr => exact ihr (ihi (henter ht hr))

/-- A walk loses no type. -/
theorem Walk.keeps (h : Walk S r ts r') (hu : r.has u = true) : r'.has u = true :=
  h.preserves (P := fun r => r.has u = true) (fun _ _ _ hu => has_enter.2 (.inl hu)) hu

/-- At the end of a walk all pending types are registered. -/
theorem Walk.reaches (h : Walk S r ts r') : ∀ t ∈ ts, r'.has t = true := by
  induction h with
  | done => exact fun _ => nofun
  | known ht rest ih => exact List.forall_mem_cons.2 ⟨rest.keeps ht, ih⟩
  | new _ inner rest _ ih =>
    exact List.forall_mem_cons.2 ⟨rest.keeps (inner.keeps (has_enter.2 (.inr rfl))), ih⟩

/-- A walk adds new types behind the old ones, and only what the pending types refer to. -/
theorem Walk.exists_added (h : Walk S r ts r') :
    ∃ added, r'.types = r.types ++ added ∧
      ∀ u ∈ added, r.has u = false ∧ ∃ t ∈ ts, S.Reaches t u := by
  induction h with
  | done r => exact ⟨[], (List.append_nil _).symm, fun _ => nofun⟩
  | @known r r' t ts _ _ ih =>
    obtain ⟨added, hr, ha⟩ := ih
    refine ⟨added, hr, fun u hu => ?_⟩
    obtain ⟨hnew, v, hv, hvu⟩ := ha u hu
    exact ⟨hnew, v, List.mem_cons_of_mem t hv, hvu⟩
  | @new r r' r'' t ts ht _ _ ihi ihr =>
    obtain ⟨inner, hr', hi⟩ := ihi
    obtain ⟨later, hr'', hl⟩ := ihr
    rw [types_enter] at hr'
    refine ⟨t :: inner ++ later, by rw [hr'', hr']; simp, ?_⟩
    have hback {u : Ty} (hu : r'.has u = false) : r.has u = false := by
      rw [← Bool.not_eq_true, has_iff_mem] at hu ⊢
      exact fun h => hu (hr' ▸ by simp [h])
    intro u hu
    rcases List.mem_append.1 hu with hu | hu
    · rcases List.mem_cons.1 hu with rfl | hu
      · exact ⟨ht, u, List.mem_cons_self, .refl⟩
      · obtain ⟨hnew, v, hv, hvu⟩ := hi u hu
        exact ⟨(has_enter_eq_false.1 hnew).1, t, List.mem_cons_self, .head hv hvu⟩
    · obtain ⟨hnew, v, hv, hvu⟩ := hl u hu
      exact ⟨hback hnew, v, List.mem_cons_of_mem t hv, hvu⟩

/-- At the end of a walk all that the types entered by it refer to is registered. -/
theorem Walk.closes (h : Walk S r ts r') (hu : r'.has u = true) (hnew : r.has u = false) :
    ∀ v ∈ S.dependencies u, r'.has v = true := by
  induction h with
  | done => rw [hu] at hnew; cases hnew
  | known _ _ ih => exact ih hu hnew
  | @new r r' r'' t ts ht inner rest ihi ihr =>
    cases hm : r'.has u with
    | false => exact ihr hu hm
    | true =>
      intro v hv
      refine rest.keeps ?_
      by_cases hut : u = t
      · subst hut
        exact inner.reaches v hv
      · exact ihi hm (has_enter_eq_false.2 ⟨hnew, hut⟩) v hv

/-! ### Closed registries -/

/-- What a registered type refers to is registered. -/
def Closed (S : Schema) (r : Registry) : Prop :=
  ∀ t, r.has t = true → ∀ u ∈ S.dependencies t, r.has u = true

/-- A closed registry has whatever its types refer to, directly or through others. -/
theorem Closed.has_of_reaches (h : r.Closed S) (ht : r.has t = true) (hu : S.Reaches t u) :
    r.has u = true := by
  induction hu with
  | refl => exact ht
  | tail _ hv ih => exact h _ ih _ hv

/-- A walk keeps a registry closed. -/
theorem Closed.walk (h : r.Closed S) (hw : Walk S r ts r') : r'.Closed S := by
  intro u hu v hv
  cases hr : r.has u with
  | true => exact hw.keeps (h u hr v hv)
  | false => exact hw.closes hu hr v hv

/-- Registering a type adds the type and all that it refers to, and nothing else. -/
theorem Closed.has_register (h : r.Closed S) :
    (r.register S t).2.has u = true ↔ r.has u = true ∨ S.Reaches t u := by
  have hw := walk_register r S t
  constructor
  · intro hu
    obtain ⟨added, hr, ha⟩ := hw.exists_added
    rw [has_iff_mem, hr, List.mem_append] at hu
    refine hu.imp has_iff_mem.2 fun hu => ?_
    obtain ⟨-, v, hv, hvu⟩ := ha u hu
    cases List.mem_singleton.1 hv
    exact hvu
  · rintro (hu | hu)
    · exact hw.keeps hu
    · exact (h.walk hw).has_of_reaches (hw.reaches t (List.mem_singleton_self t)) hu

/-- Registering reports a new type exactly if the type was not there. -/
theorem register_fst (r : Registry) (S : Schema) (t : Ty) : (r.register S t).1 = !r.has t := by
  unfold register
  split
  · next ht => simp [ht]
  · next ht => simp [ht]

/-- Registering a type that is there changes nothing. -/
theorem register_of_has (h : r.has t = true) : r.register S t = (false, r) := by
  unfold register
  rw [if_pos h]

/-! ### Registries made by calls -/

/-- A call that changes a registry. -/
inductive Call where
  | register (t : Ty)
  | addAlias (name : String) (t : Ty)
  | addNamespace (name : String)
  deriving DecidableEq, Repr

/-- The registry after a call. -/
def after (S : Schema) (r : Registry) : Call → Registry
  | .register t => (r.register S t).2
  | .addAlias name t => r.addAlias S name t
  | .addNamespace name => r.addNamespace name

/-- The registry that calls make from the empty one. -/
def ofCalls (S : Schema) (calls : List Call) : Registry := calls.foldl (after S) empty

/-- What holds of the empty registry and outlives registrations, aliases of registered types and
changes of the namespaces holds of every registry that calls make. -/
theorem ofCalls_induction {P : Registry → Prop} (hempty : P empty)
    (hregister : ∀ ⦃r⦄ t, P r → P (r.register S t).2)
    (halias : ∀ ⦃r t⦄ name, r.has t = true → P r → P { r with aliases := r.aliases.put name t })
    (hnamespaces : ∀ ⦃r⦄ namespaces, P r → P { r with namespaces }) (calls : List Call) :
    P (ofCalls S calls) := by
  suffices h : ∀ r, P r → P (calls.foldl (after S) r) from h _ hempty
  induction calls with
  | nil => exact fun r hr => hr
  | cons call calls ih =>
    refine fun r hr => ih _ ?_
    cases call with
    | register t => exact hregister t hr
    | addAlias name t =>
      exact halias name ((walk_register r S t).reaches t (List.mem_singleton_self t))
        (hregister t hr)
    | addNamespace name =>
      unfold after addNamespace
      dsimp only
      split
      · exact hr
      · exact hnamespaces _ hr

/-- Entering a new type lists no type twice. -/
theorem nodup_enter (ht : r.has t = false) (hr : r.types.Nodup) : (r.enter t).types.Nodup := by
  rw [types_enter]
  refine List.nodup_append.2 ⟨hr, List.pairwise_singleton _ t, fun u hu v hv huv => ?_⟩
  cases List.mem_singleton.1 hv
  rw [has_iff_mem.2 (huv ▸ hu)] at ht
  cases ht

/-- Registering lists no type twice. -/
theorem nodup_register (hr : r.types.Nodup) : (r.register S t).2.types.Nodup :=
  (walk_register r S t).preserves (fun _ _ => nodup_enter) hr

/-- In a registry that calls have made, no type is listed twice. -/
theorem nodup_ofCalls (S : Schema) (calls : List Call) : (ofCalls S calls).types.Nodup :=
  ofCalls_induction (P := fun r => r.types.Nodup) List.nodup_nil (fun _ _ => nodup_register)
    (fun _ _ _ _ => id) (fun _ _ => id) calls

/-- A registry that calls have made is closed. -/
theorem closed_ofCalls (S : Schema) (calls : List Call) : (ofCalls S calls).Closed S :=
  ofCalls_induction (fun _ => nofun) (fun r t hr => hr.walk (walk_register r S t))
    (fun _ _ _ _ => id) (fun _ _ => id) calls

/-- A fresh registry is made by calls, too. -/
theorem fresh_eq_ofCalls (S : Schema) (collected : List Ty) :
    fresh S collected = ofCalls S (builtin.map .register
      ++ builtinAliases.map (fun (name, t) => .addAlias name t)
      ++ builtinNamespaces.map .addNamespace ++ collected.map .register) := by
  simp only [fresh, ofCalls, registerAll, List.foldl_append, List.foldl_map]
  rfl

/-- The type that a call registers. -/
def Call.root? : Call → Option Ty
  | .register t | .addAlias _ t => some t
  | .addNamespace _ => none

/-- The types that calls register. -/
def roots (calls : List Call) : List Ty := calls.filterMap Call.root?

/-- A call adds what it registers with all that this refers to; a namespace adds no type. -/
theorem Closed.has_after (h : r.Closed S) (call : Call) :
    (after S r call).has u = true ↔ r.has u = true ∨ ∃ t ∈ call.root?, S.Reaches t u := by
  cases call with
  | register t => simp [Call.root?, after, h.has_register]
  | addAlias name t =>
    have ha : (after S r (.addAlias name t)).has u = (r.register S t).2.has u := rfl
    simp [Call.root?, ha, h.has_register]
  | addNamespace name =>
    have ha : (after S r (.addNamespace name)).has u = r.has u := by
      unfold after addNamespace has
      dsimp only
      split <;> rfl
    simp [Call.root?, ha]

/-- What is registered depends on the types that calls register, and not on their order. -/
theorem has_ofCalls {calls : List Call} :
    (ofCalls S calls).has u = true ↔ ∃ t ∈ roots calls, S.Reaches t u := by
  induction calls using List.reverseRecOn with
  | nil => exact ⟨nofun, nofun⟩
  | append_singleton calls call ih =>
    have hlast : ofCalls S (calls ++ [call]) = after S (ofCalls S calls) call := by
      simp [ofCalls]
    have hroots : roots (calls ++ [call]) = roots calls ++ call.root?.toList := by
      unfold roots
      rw [List.filterMap_append]
      cases h : call.root? <;> simp [h]
    rw [hlast, (closed_ofCalls S calls).has_after, ih, hroots]
    simp [or_and_right, exists_or]

/-- **Registration closes.**  In a registry that calls have made, what a registered type refers to
is registered.  Registering one more type ends, whatever circles there are.  It enters, once each,
the type and what it refers to, directly or not, as far as they are new; and it reports no new type
exactly if the type was registered before, which leaves the registry as it was. -/
theorem registration_closes (S : Schema) (calls : List Call) (t : Ty) :
    let r := ofCalls S calls
    let r' := (r.register S t).2
    r.Closed S ∧ (∀ w, Walk S r [t] w ↔ w = r') ∧
      (∃ added, r'.types = r.types ++ added ∧ added.Nodup ∧
        ∀ u, u ∈ added ↔ S.Reaches t u ∧ r.has u = false) ∧
      ((r.register S t).1 = false ↔ r.has t = true) ∧
      (r.register S t = (false, r) ↔ r.has t = true) := by
  intro r r'
  have hc : r.Closed S := closed_ofCalls S calls
  have hw : Walk S r [t] r' := walk_register r S t
  have hfst : (r.register S t).1 = false ↔ r.has t = true := by simp [register_fst]
  refine ⟨hc, fun w => ⟨fun h => h.unique hw, fun h => h ▸ hw⟩, ?_, hfst,
    fun h => hfst.1 (congrArg Prod.fst h), register_of_has⟩
  obtain ⟨added, hr', ha⟩ := hw.exists_added
  have hn : r'.types.Nodup := nodup_register (nodup_ofCalls S calls)
  refine ⟨added, hr', (List.nodup_append.1 (hr' ▸ hn)).2.1, fun u => ⟨fun hu => ?_, ?_⟩⟩
  · obtain ⟨hnew, v, hv, hvu⟩ := ha u hu
    cases List.mem_singleton.1 hv
    exact ⟨hvu, hnew⟩
  · rintro ⟨hu, hnew⟩
    have hm : u ∈ r'.types := has_iff_mem.1 (hc.has_register.2 (.inr hu))
    rw [hr', List.mem_append] at hm
    refine hm.resolve_left fun h => ?_
    rw [has_iff_mem.2 h] at hnew
    cases hnew

end Registry
end BeanPath
