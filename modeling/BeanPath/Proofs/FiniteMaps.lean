import BeanPath.Proofs.Distinct
import BeanPath.Proofs.Frame
import BeanPath.Proofs.Rollback
import BeanPath.Proofs.TextValues

/-!
# Steps into maps are operations on finite maps

A map whose keys have one type maps keys to values (`Schema.MapsTo`).  With static types two keys
are the same if they are equal; among values of any type the keys compared here are scalars, on
which the equality of values is symmetric and transitive (`Schema.SameKey.symm`,
`Schema.SameKey.trans`), so a key is that of one entry at most (`Schema.KeyedBy.keyCases`),
whichever of the same keys is stored.

Writing under a key either replaces the value of the one entry that has it or adds an entry
(`Schema.KeyedBy.inserts`); removing takes this entry out (`Schema.KeyedBy.removes`).  Both leave a
map with keys of the type, so what a name stands for is the same afterwards, also where the new
entry is the first one and decides about the type (`Scope.keyFor_of_type`).
-/

namespace BeanPath

open Update

/-! ### Same keys -/

/-- Whether two atoms are the same does not depend on which of them is asked. -/
theorem Atom.same_comm (a b : Atom) : a.same b = b.same a := by
  cases a with
  | float j m =>
    cases b with
    | float k n =>
      by_cases hjk : j = k
      · subst hjk
        simp only [same, beq_self_eq_true, Bool.true_and]
        exact FloatKind.sameNumber_comm j m n
      · have hkj : k ≠ j := fun h => hjk h.symm
        rw [same, same, beq_eq_false_iff_ne.2 hjk, beq_eq_false_iff_ne.2 hkj]
        rfl
    | _ => exact BEq.comm
  | _ => cases b <;> exact BEq.comm

/-- A value of a scalar type is an atom. -/
theorem Value.exists_atom_of_ty {v : Value} {s : Scalar} (h : v.ty = .scalar s) :
    ∃ a, v = .atom a := by
  cases v with
  | atom a => exact ⟨a, rfl⟩
  | seq form vs => cases form <;> cases h
  | map form es => cases form <;> cases h
  | set form vs => cases form <;> cases h
  | _ => cases h

/-- The keys that maps of a form compare: any with static types, scalars among values of any
type. -/
def MapForm.Compares (form : MapForm) (k : Value) : Prop := form = .dyn → ∃ a, k = .atom a

namespace Schema

variable {S : Schema} {form : MapForm} {es es' : List (Value × Value)} {k l m u w : Value}

/-- Whether two values are the same key: equal, or among values of any type the same value. -/
def SameKey (S : Schema) (form : MapForm) (k l : Value) : Prop :=
  match form with
  | .table _ _ _ => k = l
  | .dyn => S.same k l = some true

/-- On the keys that are compared, being the same is symmetric. -/
theorem SameKey.symm (hk : form.Compares k) (hl : form.Compares l) (h : S.SameKey form k l) :
    S.SameKey form l k := by
  cases form with
  | table f key value => exact Eq.symm h
  | dyn =>
    obtain ⟨a, rfl⟩ := hk rfl
    obtain ⟨b, rfl⟩ := hl rfl
    have hab : S.same (.atom a) (.atom b) = some true := h
    have hba : S.same (.atom b) (.atom a) = some true := by
      simpa [same, Atom.same_comm] using hab
    exact hba

/-- Two keys that one key is the same as are the same. -/
theorem SameKey.of_same (hk : form.Compares k) (hl : S.SameKey form k l) (hm : S.SameKey form k m) :
    S.SameKey form l m := by
  cases form with
  | table f key value => exact (Eq.symm hl).trans hm
  | dyn =>
    obtain ⟨a, rfl⟩ := hk rfl
    exact same_of_same (s := .atom a) rfl hl hm

/-- On the keys that are compared, being the same is transitive. -/
theorem SameKey.trans (hk : form.Compares k) (hl : form.Compares l) (h : S.SameKey form k l)
    (hm : S.SameKey form l m) : S.SameKey form k m :=
  of_same hl (h.symm hk hl) hm

/-! ### Entries -/

/-- A key maps to a value: an entry has the key and the value. -/
def MapsTo (S : Schema) (form : MapForm) (es : List (Value × Value)) (k v : Value) : Prop :=
  ∃ e ∈ es, S.SameKey form e.1 k ∧ e.2 = v

/-- A key maps to what the first entry says or to what the others say. -/
theorem mapsTo_cons {e : Value × Value} :
    S.MapsTo form (e :: es) k u ↔ (S.SameKey form e.1 k ∧ e.2 = u) ∨ S.MapsTo form es k u := by
  simp only [MapsTo, List.mem_cons, exists_eq_or_imp]

/-- What a key maps to does not depend on the order of the entries. -/
theorem mapsTo_perm (h : es.Perm es') : S.MapsTo form es k u ↔ S.MapsTo form es' k u := by
  simp only [MapsTo, h.mem_iff]

/-- An entry counts wherever it stands among the others. -/
theorem mapsTo_middle {before after : List (Value × Value)} {e : Value × Value} :
    S.MapsTo form (before ++ e :: after) k u ↔
      (S.SameKey form e.1 k ∧ e.2 = u) ∨ S.MapsTo form (before ++ after) k u := by
  rw [mapsTo_perm List.perm_middle, mapsTo_cons]

/-- Where a key is in a map, with what the operations do there: no entry has it, or just one. -/
inductive KeyCases (S : Schema) (form : MapForm) (k : Value) : List (Value × Value) → Prop
  | absent {es : List (Value × Value)} (others : ∀ e ∈ es, ¬ S.SameKey form e.1 k)
      (found : S.entry? form es k = none)
      (erased : (es.eraseP fun e => S.isKey form k e.1) = es) : KeyCases S form k es
  | here {before after : List (Value × Value)} {e : Value × Value} (same : S.SameKey form e.1 k)
      (others : ∀ f ∈ before ++ after, ¬ S.SameKey form f.1 k)
      (found : S.entry? form (before ++ e :: after) k = some e.2)
      (replaced : ∀ w, S.withEntry form (before ++ e :: after) k w = before ++ (e.1, w) :: after)
      (erased : ((before ++ e :: after).eraseP fun e => S.isKey form k e.1) = before ++ after) :
      KeyCases S form k (before ++ e :: after)

/-- Entries with different keys of one type, which is the declared one or, among values of any type,
that of a scalar. -/
structure KeyedBy (S : Schema) (form : MapForm) (t : Ty) (es : List (Value × Value)) : Prop where
  declared : ∀ key ∈ form.key?, key = t
  scalar : form = .dyn → ∃ s, t = .scalar s
  value : form.value? ≠ some .any
  typed : ∀ e ∈ es, e.1.ty = t
  distinct : es.Pairwise fun e f => ¬ S.SameKey form e.1 f.1

namespace KeyedBy

variable {t : Ty} (h : S.KeyedBy form t es)
include h

/-- Keys of the right type can be compared in the map. -/
theorem compares (hk : k.ty = t) : form.Compares k := by
  intro hf
  obtain ⟨s, rfl⟩ := h.scalar hf
  exact Value.exists_atom_of_ty hk

/-- The lookup takes for the key exactly the entries with the same key. -/
theorem isKey_iff {e : Value × Value} (he : e ∈ es) :
    S.isKey form k e.1 = true ↔ S.SameKey form e.1 k := by
  have ht := h.typed e he
  cases form with
  | dyn => simp [isKey, SameKey]
  | table f key value =>
    have hd : key = t := h.declared key rfl
    simp only [isKey, SameKey, Bool.and_eq_true, beq_iff_eq, and_iff_right_iff_imp]
    rintro rfl
    exact ht.trans hd.symm

/-- Some of the entries are keyed by the type if all are. -/
theorem sublist (hs : es'.Sublist es) : S.KeyedBy form t es' where
  declared := h.declared
  scalar := h.scalar
  value := h.value
  typed e he := h.typed e (hs.subset he)
  distinct := h.distinct.sublist hs

/-- The order of the entries does not matter, because being the same key is symmetric on them. -/
theorem perm (hp : es.Perm es') : S.KeyedBy form t es' where
  declared := h.declared
  scalar := h.scalar
  value := h.value
  typed e he := h.typed e (hp.mem_iff.2 he)
  distinct := by
    have hsymm : ∀ {e f : Value × Value},
        (e.1.ty = t → f.1.ty = t → ¬ S.SameKey form e.1 f.1) →
          f.1.ty = t → e.1.ty = t → ¬ S.SameKey form f.1 e.1 := fun hef hf he hs =>
      hef he hf (hs.symm (h.compares hf) (h.compares he))
    have hapart : es.Pairwise fun e f => e.1.ty = t → f.1.ty = t → ¬ S.SameKey form e.1 f.1 :=
      h.distinct.imp fun hn _ _ => hn
    refine (hapart.perm hp hsymm).imp_of_mem fun {e f} he hf hef => ?_
    exact hef (h.typed e (hp.mem_iff.2 he)) (h.typed f (hp.mem_iff.2 hf))

/-- Other values do not matter. -/
theorem of_keys (hk : es'.map (·.1) = es.map (·.1)) : S.KeyedBy form t es' where
  declared := h.declared
  scalar := h.scalar
  value := h.value
  typed e he := by
    have hm : e.1 ∈ es.map (·.1) := hk ▸ List.mem_map_of_mem he
    obtain ⟨f, hf, hfe⟩ := List.mem_map.1 hm
    rw [← hfe]
    exact h.typed f hf
  distinct := by
    have hd : (es.map (·.1)).Pairwise fun k l => ¬ S.SameKey form k l :=
      List.pairwise_map.2 h.distinct
    exact List.pairwise_map.1 (hk ▸ hd)

/-- A new key of the type may be added to the others. -/
theorem cons {e : Value × Value} (he : e.1.ty = t) (hn : ∀ f ∈ es, ¬ S.SameKey form f.1 e.1) :
    S.KeyedBy form t (e :: es) where
  declared := h.declared
  scalar := h.scalar
  value := h.value
  typed := List.forall_mem_cons.2 ⟨he, h.typed⟩
  distinct := List.pairwise_cons.2 ⟨fun f hf hs => hn f hf
    (hs.symm (h.compares he) (h.compares (h.typed f hf))), h.distinct⟩

/-- Every key that can be compared is that of no entry or of just one. -/
theorem keyCases (hk : form.Compares k) : S.KeyCases form k es := by
  rcases exists_first (fun e => S.isKey form k e.1) es with hn | ⟨before, e, after, rfl, hb, he⟩
  · refine .absent (fun e he hs => ?_) (congrArg (Option.map _) (find?_of_none hn))
      (eraseP_of_none hn)
    have hf := hn e he
    rw [(h.isKey_iff he).2 hs] at hf
    cases hf
  · have hs : S.SameKey form e.1 k := (h.isKey_iff (by simp)).1 he
    refine .here hs (fun f hf hfk => ?_) (congrArg (Option.map _) (find?_of_first hb he after))
      (fun w => updateFirst_of_first hb he (fun e => (e.1, w)) after) (eraseP_of_first hb he after)
    have hfm : f ∈ before ++ e :: after := by
      rcases List.mem_append.1 hf with hf | hf <;> simp [hf]
    have hce : form.Compares e.1 := h.compares (h.typed e (by simp))
    have hcf : form.Compares f.1 := h.compares (h.typed f hfm)
    have hfe : S.SameKey form f.1 e.1 := hfk.trans hcf hk (hs.symm hce hk)
    obtain ⟨-, hafter, hbefore⟩ := List.pairwise_append.1 h.distinct
    rcases List.mem_append.1 hf with hf | hf
    · exact hbefore f hf e List.mem_cons_self hfe
    · exact (List.pairwise_cons.1 hafter).1 f hf (hfe.symm hcf hce)

/-- What a key finds is what it maps to. -/
theorem entry?_eq_some_iff (hk : form.Compares k) :
    S.entry? form es k = some u ↔ S.MapsTo form es k u := by
  cases h.keyCases hk with
  | absent others found _ =>
    rw [found]
    constructor
    · nofun
    · rintro ⟨e, he, hs, -⟩
      exact absurd hs (others e he)
  | @here before after e same others found _ _ =>
    rw [found, mapsTo_middle, Option.some.injEq]
    constructor
    · exact fun heu => .inl ⟨same, heu⟩
    · rintro (⟨-, heu⟩ | ⟨f, hf, hfk, -⟩)
      · exact heu
      · exact absurd hfk (others f hf)

end KeyedBy

/-! ### Inserting and removing -/

/-- Entries `es'` are the finite map of `es` with a value under a key, and `previous` is what was
there. -/
structure Inserts (S : Schema) (form : MapForm) (t : Ty) (es : List (Value × Value)) (k w : Value)
    (previous : Option Value) (es' : List (Value × Value)) : Prop where
  given : ∀ u, previous = some u ↔ S.MapsTo form es k u
  written : ∀ u, S.MapsTo form es' k u ↔ u = w
  others : ∀ l u, l.ty = t → ¬ S.SameKey form k l →
    (S.MapsTo form es' l u ↔ S.MapsTo form es l u)
  length : es'.length = es.length + if previous.isNone then 1 else 0
  keyed : S.KeyedBy form t es'

/-- Entries `rest` are the finite map of `es` without a key, and `previous` is what was there. -/
structure Removes (S : Schema) (form : MapForm) (t : Ty) (es : List (Value × Value)) (k : Value)
    (previous : Option Value) (rest : List (Value × Value)) : Prop where
  given : ∀ u, previous = some u ↔ S.MapsTo form es k u
  removed : ∀ u, ¬ S.MapsTo form rest k u
  others : ∀ l u, l.ty = t → ¬ S.SameKey form k l →
    (S.MapsTo form rest l u ↔ S.MapsTo form es l u)
  length : rest.length + (if previous.isSome then 1 else 0) = es.length
  sublist : rest.Sublist es
  keyed : S.KeyedBy form t rest

namespace KeyedBy

variable {t : Ty} (h : S.KeyedBy form t es)
include h

/-- Inserting under a key is the insertion of a finite map. -/
theorem inserts (hk : k.ty = t) (hself : S.SameKey form k k) {previous : Option Value}
    (hi : S.insertEntry form es k w = .ok (previous, es')) :
    S.Inserts form t es k w previous es' := by
  obtain ⟨-, -, rfl, rfl⟩ := insertEntry_eq_ok_iff.1 hi
  have hc : form.Compares k := h.compares hk
  have hgiven : ∀ u, S.entry? form es k = some u ↔ S.MapsTo form es k u :=
    fun u => h.entry?_eq_some_iff hc
  cases h.keyCases hc with
  | absent others found _ =>
    -- one more entry, wherever it goes
    have hp := form.add_perm (k, w) es
    simp only [found, Option.isSome_none, Bool.false_eq_true, if_false] at hgiven ⊢
    refine ⟨hgiven, fun u => ?_, fun l u _ hkl => ?_, hp.length_eq, ?_⟩
    · rw [mapsTo_perm hp, mapsTo_cons]
      constructor
      · rintro (⟨-, hwu⟩ | ⟨e, he, hs, -⟩)
        · exact hwu.symm
        · exact absurd hs (others e he)
      · exact fun huw => .inl ⟨hself, huw.symm⟩
    · rw [mapsTo_perm hp, mapsTo_cons]
      simp [hkl]
    · exact (h.cons (e := (k, w)) hk others).perm hp.symm
  | @here before after e same others found replaced _ =>
    -- the entry keeps its place and its key
    simp only [found, Option.isSome_some, if_true] at hgiven ⊢
    have hkeyed := h.of_keys (S.map_fst_withEntry form (before ++ e :: after) k w)
    rw [replaced w] at hkeyed ⊢
    refine ⟨hgiven, fun u => ?_, fun l u _ hkl => ?_, by simp, hkeyed⟩
    · rw [mapsTo_middle]
      constructor
      · rintro (⟨-, hwu⟩ | ⟨f, hf, hfk, -⟩)
        · exact hwu.symm
        · exact absurd hfk (others f hf)
      · exact fun huw => .inl ⟨same, huw.symm⟩
    · have hce : form.Compares e.1 := h.compares (h.typed e (by simp))
      have hel : ¬ S.SameKey form e.1 l := fun hel => hkl (same.of_same hce hel)
      rw [mapsTo_middle, mapsTo_middle]
      simp [hel]

/-- Removing a key is the removal of a finite map. -/
theorem removes (hk : form.Compares k) :
    S.Removes form t es k (S.removeEntry form es k).1 (S.removeEntry form es k).2 := by
  have hsub : (es.eraseP fun e => S.isKey form k e.1).Sublist es := List.eraseP_sublist
  have hkeyed := h.sublist hsub
  have hgiven : ∀ u, S.entry? form es k = some u ↔ S.MapsTo form es k u :=
    fun u => h.entry?_eq_some_iff hk
  unfold removeEntry
  cases h.keyCases hk with
  | absent others found erased =>
    rw [found] at hgiven ⊢
    rw [erased] at hsub hkeyed ⊢
    refine ⟨hgiven, fun u => ?_, fun l u _ _ => Iff.rfl, by simp, hsub, hkeyed⟩
    rintro ⟨e, he, hs, -⟩
    exact others e he hs
  | @here before after e same others found _ erased =>
    rw [found] at hgiven ⊢
    rw [erased] at hsub hkeyed ⊢
    refine ⟨hgiven, fun u => ?_, fun l u _ hkl => ?_, by simp; omega, hsub, hkeyed⟩
    · rintro ⟨f, hf, hfk, -⟩
      exact others f hf hfk
    · have hce : form.Compares e.1 := h.compares (h.typed e (by simp))
      have hel : ¬ S.SameKey form e.1 l := fun hel => hkl (same.of_same hce hel)
      rw [mapsTo_middle]
      simp [hel]

end KeyedBy
end Schema

/-! ### The key that a name stands for -/

namespace Scope

variable {C : Scope} {form : MapForm} {es : List (Value × Value)} {n : Name} {t : Ty} {k : Value}

/-- A name that goes with the type of the keys: it states the type or none, and where there is none
to go by, in an empty map for values of any type, the keys are texts. -/
def KeyType (C : Scope) (form : MapForm) (es : List (Value × Value)) (n : Name) (t : Ty) : Prop :=
  C.qualifier? n = .ok (some t) ∨
    C.qualifier? n = .ok none ∧ (form = .dyn → es = [] → t = .text)

/-- A name that goes with the type of the keys stands for its text read as that type. -/
theorem keyFor_of_type (h : C.schema.KeyedBy form t es) (hn : C.KeyType form es n t) :
    C.keyFor form es n = C.ofText n.text t := by
  unfold keyFor
  rcases hn with hq | ⟨hq, hempty⟩
  · simp only [hq, liftProblem_ok, bind_ok]
    rfl
  · rw [hq, liftProblem_ok, bind_ok]
    cases form with
    | table f key value =>
      have hd : key = t := h.declared key rfl
      rw [← hd]
      rfl
    | dyn =>
      cases es with
      | nil =>
        rw [hempty rfl rfl]
        rfl
      | cons e es =>
        have he : e.1.ty = t := h.typed e List.mem_cons_self
        rw [← he]
        rfl

/-- The key that a name stands for can be compared with the others. -/
theorem compares_of_ofText (h : C.schema.KeyedBy form t es) {text : String}
    (hk : C.ofText text t = .ok k) : form.Compares k := by
  intro hf
  obtain ⟨s, rfl⟩ := h.scalar hf
  have hs : C.scalarOfText text s = .ok k := mapError_eq_ok_iff.1 hk
  exact Value.exists_atom_of_ty (ty_of_scalarOfText hs)

end Scope

/-! ### The steps -/

namespace Navigator

variable {N : Navigator} {form : MapForm} {es es' : List (Value × Value)} {n : Name} {t : Ty}
  {k u w : Value}

/-- Reading gives what the key of a name maps to. -/
theorem get_map_of_mapsTo (h : N.scope.schema.KeyedBy form t es) (hn : n.wild = false)
    (ht : N.scope.KeyType form es n t) (hk : N.scope.ofText n.text t = .ok k)
    (hu : N.scope.schema.MapsTo form es k u) :
    N.get (.map form es) n = .ok (some ⟨u, false⟩) := by
  have hc : form.Compares k := Scope.compares_of_ofText h hk
  rw [get_map hn ((Scope.keyFor_of_type h ht).trans hk), (h.entry?_eq_some_iff hc).2 hu]
  rfl

/-- A write to a map succeeds exactly if the name has a key, the value fits and the entry can be
inserted. -/
theorem put_map_eq_ok_iff {v previous : Option Value} {c : Value} :
    N.put n v (.map form es) = .ok previous c ↔
      ∃ k w es', n.wild = false ∧ N.scope.keyFor form es n = .ok k ∧
        Value.fit v form.value? = .ok w ∧
        N.scope.schema.insertEntry form es k w = .ok (previous, es') ∧ c = .map form es' := by
  constructor
  · intro hput
    obtain ⟨m, m', hm, hput, rfl⟩ := present_eq_ok_iff.1 hput
    cases hm
    obtain ⟨es', hes, rfl⟩ := within_eq_ok_iff.1 hput
    obtain ⟨k, w, hn, hk, hw, hi⟩ := Scope.putUnder_eq_ok_iff.1 hes
    exact ⟨k, w, es', hn, hk, hw, hi, rfl⟩
  · rintro ⟨k, w, es', hn, hk, hw, hi, rfl⟩
    have hes := Scope.putUnder_eq_ok_iff.2 ⟨k, w, hn, hk, hw, hi⟩
    exact present_eq_ok_iff.2 ⟨_, _, rfl, within_eq_ok_iff.2 ⟨_, hes, rfl⟩, rfl⟩

/-- Removing by a name removes its key. -/
theorem remove_map (hn : n.wild = false) (hk : N.scope.keyFor form es n = .ok k) :
    N.remove n (.map form es) = .ok (N.scope.schema.removeEntry form es k).1
      (.map form (N.scope.schema.removeEntry form es k).2) := by
  refine present_eq_ok_iff.2 ⟨_, _, rfl, within_eq_ok_iff.2 ⟨_, ?_, rfl⟩, rfl⟩
  have hs := Scope.singleKey_eq_ok_iff.2 ⟨hn, hk⟩
  refine atomic_eq_ok_iff.2 ?_
  rw [hs, bind_ok]
  rfl

end Navigator

end BeanPath
