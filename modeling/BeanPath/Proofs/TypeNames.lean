import BeanPath.Proofs.Registration
import BeanPath.Samples.Records

/-!
# How registered types are found

A registry answers from tables that it keeps beside the types: one by path, one by short name as
long as only one type has it, and the short names that several types have.  The third type of a
name must not bring the name back: what the tables say depends on nothing but the set of registered
types (`Registry.Indexed`), and entering a new type keeps it so (`Registry.Indexed.enter`).  So the
order in which types were registered cannot be told from any answer (`registered_types_are_found`).
-/

namespace BeanPath

namespace Registry

variable {S : Schema} {r r' : Registry} {t u : Ty} {name : String}

/-! ### What the tables say -/

/-- A type is registered and no other registered type has its short name. -/
def OnlyNamed (r : Registry) (name : String) (t : Ty) : Prop :=
  r.has t = true ∧ t.name = name ∧ ∀ u, r.has u = true → u.name = name → u = t

/-- Two registered types have a short name. -/
def Shared (r : Registry) (name : String) : Prop :=
  ∃ t u, r.has t = true ∧ r.has u = true ∧ t ≠ u ∧ t.name = name ∧ u.name = name

/-- Registered types have paths of their own. -/
def PathsDiffer (r : Registry) : Prop :=
  ∀ t u, r.has t = true → r.has u = true → t.path = u.path → t = u

/-- A name that only one type has is not shared. -/
theorem OnlyNamed.not_shared (h : r.OnlyNamed name t) : ¬ r.Shared name := by
  rintro ⟨u, v, hu, hv, huv, hun, hvn⟩
  exact huv ((h.2.2 u hu hun).trans (h.2.2 v hv hvn).symm)

/-- A short name of a registered type is its own or shared. -/
theorem onlyNamed_or_shared (ht : r.has t = true) : r.OnlyNamed t.name t ∨ r.Shared t.name := by
  by_cases h : r.Shared t.name
  · exact .inr h
  · refine .inl ⟨ht, rfl, fun u hu hun => Decidable.byContradiction fun hne => ?_⟩
    exact h ⟨u, t, hu, ht, hne, hun, rfl⟩

/-- A name that is shared stays so when a type is entered. -/
theorem Shared.enter (h : r.Shared name) (t : Ty) : (r.enter t).Shared name := by
  obtain ⟨u, v, hu, hv, h⟩ := h
  exact ⟨u, v, has_enter.2 (.inl hu), has_enter.2 (.inl hv), h⟩

/-- Entering a type has no influence on who alone has another name. -/
theorem onlyNamed_enter_of_ne (hn : t.name ≠ name) :
    (r.enter t).OnlyNamed name u ↔ r.OnlyNamed name u := by
  constructor
  · rintro ⟨hu, hun, h⟩
    refine ⟨(has_enter.1 hu).resolve_right fun hut => hn (hut ▸ hun), hun, fun v hv => ?_⟩
    exact h v (has_enter.2 (.inl hv))
  · rintro ⟨hu, hun, h⟩
    refine ⟨has_enter.2 (.inl hu), hun, fun v hv hvn => ?_⟩
    exact h v ((has_enter.1 hv).resolve_right fun hvt => hn (hvt ▸ hvn)) hvn

/-- Entering a type has no influence on whether another name is shared. -/
theorem shared_enter_of_ne (hn : t.name ≠ name) :
    (r.enter t).Shared name ↔ r.Shared name := by
  refine ⟨?_, fun h => h.enter t⟩
  rintro ⟨u, v, hu, hv, huv, hun, hvn⟩
  exact ⟨u, v, (has_enter.1 hu).resolve_right fun h => hn (h ▸ hun),
    (has_enter.1 hv).resolve_right fun h => hn (h ▸ hvn), huv, hun, hvn⟩

/-! ### Entering a type into the tables -/

/-- The first type of a short name gets it, the second takes it away, and further ones leave the
names as they are. -/
theorem names_enter_cases (r : Registry) (t : Ty) :
    (r.isAmbiguous t.name = true ∧
      (r.enter t).names = r.names ∧ (r.enter t).ambiguous = r.ambiguous) ∨
    ((∃ u, r.byName? t.name = some u) ∧
      (r.enter t).names = r.names.erase t.name ∧
        (r.enter t).ambiguous = t.name :: r.ambiguous) ∨
    (r.isAmbiguous t.name = false ∧ r.byName? t.name = none ∧
      (r.enter t).names = r.names.put t.name t ∧ (r.enter t).ambiguous = r.ambiguous) := by
  unfold enter isAmbiguous byName?
  dsimp only
  split
  · next ha => exact .inl ⟨ha, rfl, rfl⟩
  · next ha =>
    rw [Bool.not_eq_true] at ha
    split
    · next hn => exact .inr (.inl ⟨Option.isSome_iff_exists.1 hn, rfl, rfl⟩)
    · next hn => exact .inr (.inr ⟨ha, Option.not_isSome_iff_eq_none.1 hn, rfl, rfl⟩)

/-- A type that is entered is found by its path; every other path finds what it found. -/
theorem byPath?_enter (r : Registry) (t : Ty) (path : String) :
    (r.enter t).byPath? path = if path = t.path then some t else r.byPath? path := by
  unfold byPath?
  rw [paths_enter, Index.lookup_put]

/-- Entering a type has no influence on what another name finds. -/
theorem byName?_enter_of_ne (hn : name ≠ t.name) : (r.enter t).byName? name = r.byName? name := by
  unfold byName?
  obtain ⟨-, h, -⟩ | ⟨-, h, -⟩ | ⟨-, -, h, -⟩ := r.names_enter_cases t <;> rw [h]
  · rw [Index.lookup_erase, if_neg hn]
  · rw [Index.lookup_put, if_neg hn]

/-- Entering a type has no influence on whether another name is ambiguous. -/
theorem isAmbiguous_enter_of_ne (hn : name ≠ t.name) :
    (r.enter t).isAmbiguous name = r.isAmbiguous name := by
  unfold isAmbiguous
  obtain ⟨-, -, h⟩ | ⟨-, -, h⟩ | ⟨-, -, -, h⟩ := r.names_enter_cases t <;> rw [h]
  rw [List.contains_cons, beq_false_of_ne hn, Bool.false_or]

/-- The types in the tables. -/
def tabled (r : Registry) : List Ty := (r.paths ++ r.names ++ r.aliases).map (·.2)

/-- A type is in the tables if some path, name or alias stands for it. -/
theorem mem_tabled : u ∈ r.tabled ↔
    (∃ k, (k, u) ∈ r.paths) ∨ (∃ k, (k, u) ∈ r.names) ∨ ∃ k, (k, u) ∈ r.aliases := by
  simp [tabled]

end Registry

namespace Index

variable {α : Type} {index : Index α} {key k : String} {a b : α}

/-- What is in a table after an entry was put is the new entry or was there. -/
theorem mem_put (h : (k, b) ∈ index.put key a) : b = a ∨ (k, b) ∈ index := by
  rcases List.mem_cons.1 h with h | h
  · exact .inl (congrArg Prod.snd h)
  · exact .inr (List.mem_filter.1 h).1

/-- What is looked up in a table is in it. -/
theorem mem_of_lookup (h : index.lookup k = some a) : (k, a) ∈ index := by
  obtain ⟨before, behind, rfl, -⟩ := List.lookup_eq_some_iff.1 h
  exact List.mem_append_right _ List.mem_cons_self

/-- What is left after an entry was erased was there. -/
theorem mem_erase (h : (k, b) ∈ index.erase key) : (k, b) ∈ index := (List.mem_filter.1 h).1

end Index

namespace Registry

variable {S : Schema} {r r' : Registry} {t u : Ty} {name : String}

/-- Entering a type brings no other type into the tables. -/
theorem mem_tabled_enter (h : u ∈ (r.enter t).tabled) : u = t ∨ u ∈ r.tabled := by
  rw [mem_tabled] at h ⊢
  rw [paths_enter, aliases_enter] at h
  rcases h with ⟨k, h⟩ | ⟨k, h⟩ | h
  · exact (Index.mem_put h).imp_right fun h => .inl ⟨k, h⟩
  · obtain ⟨-, hn, -⟩ | ⟨-, hn, -⟩ | ⟨-, -, hn, -⟩ := r.names_enter_cases t <;> rw [hn] at h
    · exact .inr (.inr (.inl ⟨k, h⟩))
    · exact .inr (.inr (.inl ⟨k, Index.mem_erase h⟩))
    · exact (Index.mem_put h).imp_right fun h => .inr (.inl ⟨k, h⟩)
  · exact .inr (.inr (.inr h))

/-! ### Tables that fit the types -/

/-- The tables hold registered types only, and say which path and which name they have. -/
structure Indexed (r : Registry) : Prop where
  known : ∀ t ∈ r.tabled, r.has t = true
  path_eq : ∀ path t, r.byPath? path = some t → t.path = path
  exists_byPath : ∀ t, r.has t = true → ∃ u, r.byPath? t.path = some u
  byName : ∀ name t, r.byName? name = some t ↔ r.OnlyNamed name t
  ambiguous : ∀ name, r.isAmbiguous name = true ↔ r.Shared name

/-- The tables of the empty registry fit its types, as there are none of either. -/
theorem indexed_empty : empty.Indexed where
  known := nofun
  path_eq := nofun
  exists_byPath := nofun
  byName _ _ := ⟨nofun, nofun⟩
  ambiguous _ := ⟨nofun, nofun⟩

/-- What the tables say about the name of the type that is entered. -/
theorem Indexed.own_name_enter (h : r.Indexed) (ht : r.has t = false) :
    (∀ u, (r.enter t).byName? t.name = some u ↔ (r.enter t).OnlyNamed t.name u) ∧
      ((r.enter t).isAmbiguous t.name = true ↔ (r.enter t).Shared t.name) := by
  unfold byName? isAmbiguous
  obtain ⟨ha, hn, hs⟩ | ⟨⟨v, hv⟩, hn, hs⟩ | ⟨ha, hv, hn, hs⟩ := r.names_enter_cases t <;>
    rw [hn, hs]
  · -- Several types had the name already.
    have hshared := (h.ambiguous _).1 ha
    refine ⟨fun u => ⟨fun hu => ?_, fun hu => ?_⟩, fun _ => hshared.enter t, fun _ => ha⟩
    · exact absurd hshared ((h.byName _ u).1 hu).not_shared
    · exact absurd (hshared.enter t) hu.not_shared
  · -- One other type had the name, so now there are two.
    have hv := (h.byName _ v).1 hv
    have hvt : v ≠ t := by
      rintro rfl
      rw [hv.1] at ht
      cases ht
    have hshared : (r.enter t).Shared t.name :=
      ⟨v, t, has_enter.2 (.inl hv.1), has_enter.2 (.inr rfl), hvt, hv.2.1, rfl⟩
    refine ⟨fun u => ⟨fun hu => ?_, fun hu => absurd hshared hu.not_shared⟩,
      fun _ => hshared, fun _ => ?_⟩
    · rw [Index.lookup_erase, if_pos rfl] at hu
      cases hu
    · simp
  · -- No type had the name, because it was neither the name of a type nor shared.
    have hnone (u : Ty) (hu : r.has u = true) : u.name ≠ t.name := by
      intro hun
      rcases onlyNamed_or_shared hu with ho | ho <;> rw [hun] at ho
      · rw [(h.byName _ u).2 ho] at hv
        cases hv
      · rw [(h.ambiguous _).2 ho] at ha
        cases ha
    have honly : (r.enter t).OnlyNamed t.name t :=
      ⟨has_enter.2 (.inr rfl), rfl, fun u hu hun =>
        (has_enter.1 hu).resolve_left fun hu => hnone u hu hun⟩
    refine ⟨fun u => ?_, fun hs => ?_, fun hs => absurd hs honly.not_shared⟩
    · rw [Index.lookup_put, if_pos rfl, Option.some.injEq]
      exact ⟨fun htu => htu ▸ honly, fun hu => hu.2.2 t honly.1 rfl⟩
    · rw [show r.ambiguous.contains t.name = false from ha] at hs
      cases hs

/-- **Entering a new type keeps the tables fitting.** -/
theorem Indexed.enter (h : r.Indexed) (ht : r.has t = false) : (r.enter t).Indexed where
  known u hu := has_enter.2 ((mem_tabled_enter hu).symm.imp_left (h.known u))
  path_eq path u hu := by
    rw [byPath?_enter] at hu
    split at hu
    · next hp =>
      cases hu
      exact hp.symm
    · exact h.path_eq path u hu
  exists_byPath u hu := by
    rw [byPath?_enter]
    split
    · exact ⟨t, rfl⟩
    · next hp => exact h.exists_byPath u ((has_enter.1 hu).resolve_right fun hut => hp (hut ▸ rfl))
  byName name u := by
    by_cases hn : name = t.name
    · rw [hn]
      exact (h.own_name_enter ht).1 u
    · rw [byName?_enter_of_ne hn, onlyNamed_enter_of_ne (Ne.symm hn)]
      exact h.byName name u
  ambiguous name := by
    by_cases hn : name = t.name
    · rw [hn]
      exact (h.own_name_enter ht).2
    · rw [isAmbiguous_enter_of_ne hn, shared_enter_of_ne (Ne.symm hn)]
      exact h.ambiguous name

/-- The tables of a registry that calls have made fit its types. -/
theorem indexed_ofCalls (S : Schema) (calls : List Call) : (ofCalls S calls).Indexed := by
  refine ofCalls_induction indexed_empty ?_ ?_ (fun _ _ h => ⟨h.1, h.2, h.3, h.4, h.5⟩) calls
  · exact fun r t h => (walk_register r S t).preserves (fun _ _ ht h => h.enter ht) h
  · intro r t name ht h
    refine ⟨fun u hu => ?_, h.2, h.3, h.4, h.5⟩
    rcases mem_tabled.1 hu with hu | hu | ⟨k, hu⟩
    · exact h.known u (mem_tabled.2 (.inl hu))
    · exact h.known u (mem_tabled.2 (.inr (.inl hu)))
    · rcases Index.mem_put hu with rfl | hu
      · exact ht
      · exact h.known u (mem_tabled.2 (.inr (.inr ⟨k, hu⟩)))

/-- With paths of their own, the registered types are found by them. -/
theorem Indexed.byPath (h : r.Indexed) (hp : r.PathsDiffer) (path : String) (t : Ty) :
    r.byPath? path = some t ↔ r.has t = true ∧ t.path = path := by
  have hhas {path : String} {u : Ty} (hu : r.byPath? path = some u) : r.has u = true :=
    h.known u (mem_tabled.2 (.inl ⟨path, Index.mem_of_lookup hu⟩))
  constructor
  · exact fun ht => ⟨hhas ht, h.path_eq path t ht⟩
  · rintro ⟨ht, rfl⟩
    obtain ⟨u, hu⟩ := h.exists_byPath t ht
    rw [hu, hp u t (hhas hu) ht (h.path_eq _ u hu)]

/-! ### Answers that do not depend on the order -/

section SameTypes

variable (hr : r.Indexed) (hr' : r'.Indexed) (h : ∀ t, r'.has t = r.has t)
include hr hr' h

/-- Registries of the same types find the same by a path. -/
theorem Indexed.byPath?_congr (hp : r.PathsDiffer) (path : String) :
    r'.byPath? path = r.byPath? path := by
  have hp' : r'.PathsDiffer := fun t u ht hu => hp t u (h t ▸ ht) (h u ▸ hu)
  refine Option.ext fun t => ?_
  rw [hr'.byPath hp', hr.byPath hp, h]

/-- Registries of the same types find the same by a short name. -/
theorem Indexed.byName?_congr (name : String) : r'.byName? name = r.byName? name := by
  refine Option.ext fun t => ?_
  rw [hr'.byName, hr.byName]
  simp only [OnlyNamed, h]

/-- Registries of the same types have the same ambiguous names. -/
theorem Indexed.isAmbiguous_congr (name : String) :
    r'.isAmbiguous name = r.isAmbiguous name := by
  rw [Bool.eq_iff_iff, hr'.ambiguous, hr.ambiguous]
  simp only [Shared, h]

end SameTypes

/-- **Registered types are found**, by calls in any order.  The tables of a registry that calls have
made hold registered types only.  If these have paths of their own, a path finds the registered type
that has it.  A short name finds the only registered type that has it, and is ambiguous exactly if
several have it.  Calls that register the same types give the same answers, whatever their order. -/
theorem registered_types_are_found {S : Schema} {calls : List Call}
    (hp : (ofCalls S calls).PathsDiffer) :
    let r := ofCalls S calls
    (∀ t ∈ r.tabled, r.has t = true) ∧
      (∀ path t, r.byPath? path = some t ↔ r.has t = true ∧ t.path = path) ∧
      (∀ name t, r.byName? name = some t ↔ r.OnlyNamed name t) ∧
      (∀ name, r.isAmbiguous name = true ↔ r.Shared name) ∧
      ∀ calls', (∀ t, t ∈ roots calls' ↔ t ∈ roots calls) →
        let r' := ofCalls S calls'
        (∀ t, r'.has t = r.has t) ∧ (∀ path, r'.byPath? path = r.byPath? path) ∧
          (∀ name, r'.byName? name = r.byName? name) ∧
          ∀ name, r'.isAmbiguous name = r.isAmbiguous name := by
  intro r
  have hr : r.Indexed := indexed_ofCalls S calls
  refine ⟨hr.known, hr.byPath hp, hr.byName, hr.ambiguous, fun calls' hroots => ?_⟩
  have hr' : (ofCalls S calls').Indexed := indexed_ofCalls S calls'
  have hhas (t : Ty) : (ofCalls S calls').has t = r.has t := by
    rw [Bool.eq_iff_iff, has_ofCalls, has_ofCalls]
    simp only [hroots]
  exact ⟨hhas, hr.byPath?_congr hr' hhas hp, hr.byName?_congr hr' hhas,
    hr.isAmbiguous_congr hr' hhas⟩

/-- Types have paths of their own if those in the stocks of the calls do. -/
theorem pathsDiffer_of_stock {calls : List Call}
    (h : ∀ t ∈ (roots calls).flatMap S.stock, ∀ u ∈ (roots calls).flatMap S.stock,
      t.path = u.path → t = u) : (ofCalls S calls).PathsDiffer := by
  have hmem {t : Ty} (ht : (ofCalls S calls).has t = true) :
      t ∈ (roots calls).flatMap S.stock := by
    obtain ⟨v, hv, hvt⟩ := has_ofCalls.1 ht
    exact List.mem_flatMap.2 ⟨v, hv, hvt.mem_stock⟩
  exact fun t u ht hu => h t (hmem ht) u (hmem hu)

end Registry

namespace Sample

/-- The schema of three types with the same short name. -/
def ids : Schema where
  beans := [idA, idB, idC].map (·.bean)
  extent _ := 0
  parent_lt := by decide +kernel

end Sample

/-- The third type of a name does not bring the name back, in whichever order they come. -/
theorem registered_types_are_found_by_path_only :
    let S := Sample.ids
    let calls : List Registry.Call :=
      [.register Sample.idA.ty, .addAlias "Key" (.list .vec Sample.idB.ty),
        .register Sample.idC.ty]
    let r := Registry.ofCalls S calls
    let r' := Registry.ofCalls S calls.reverse
    r.PathsDiffer ∧ (∀ t, t ∈ Registry.roots calls.reverse ↔ t ∈ Registry.roots calls) ∧
      r.isAmbiguous "Id" = true ∧ r.byName? "Id" = none ∧
        r.byPath? Sample.idC.ty.path = some Sample.idC.ty ∧
        r'.byName? "Id" = none ∧ r'.isAmbiguous "Id" = true := by
  intro S calls r r'
  have hp : r.PathsDiffer := Registry.pathsDiffer_of_stock (by decide +kernel)
  have hroots (t : Ty) : t ∈ Registry.roots calls.reverse ↔ t ∈ Registry.roots calls := by
    simp [Registry.roots]
  obtain ⟨-, hpath, hname, hambiguous, hsame⟩ := Registry.registered_types_are_found hp
  obtain ⟨-, -, hname', hambiguous'⟩ := hsame calls.reverse hroots
  have hhas (t : Ty) (ht : t ∈ Registry.roots calls) : r.has t = true :=
    Registry.has_ofCalls.2 ⟨t, ht, .refl⟩
  have hA := hhas Sample.idA.ty (by decide +kernel)
  have hC := hhas Sample.idC.ty (by decide +kernel)
  have hn : Sample.idA.ty.name = "Id" ∧ Sample.idC.ty.name = "Id" ∧
      Sample.idA.ty ≠ Sample.idC.ty := by decide +kernel
  have hs : r.isAmbiguous "Id" = true :=
    (hambiguous "Id").2 ⟨_, _, hA, hC, hn.2.2, hn.1, hn.2.1⟩
  have hnone : r.byName? "Id" = none := Option.eq_none_iff_forall_ne_some.2 fun t ht =>
    ((hname "Id" t).1 ht).not_shared ((hambiguous "Id").1 hs)
  exact ⟨hp, hroots, hs, hnone, (hpath _ _).2 ⟨hC, rfl⟩, (hname' _).trans hnone,
    (hambiguous' _).trans hs⟩

end BeanPath
