import BeanPath.Proofs.Readings
import BeanPath.Samples

/-!
# Writing leaves alone what lies elsewhere

Two routes part where one container is entered at different places: at unequal positions, under
unequal keys, or through fields of which neither lies inside the other (`Navigator.Apart`).
Whatever a write does behind the place that its route enters, what the other route leads to stays
(`Navigator.follow_of_update_apart`): the container keeps its length, its keys and its type, so even
a read that fails still fails in the same way.  Only the report of such a failure shows the root,
and with it the change (`write_leaves_the_rest`).
-/

namespace BeanPath

open Update

/-! ### Unequal keys -/

/-- Two values that one atom is equal to are equal. -/
theorem Atom.same_of_same {a b c : Atom} (hb : a.same b = true) (hc : a.same c = true) :
    b.same c = true := by
  by_cases hf : ∃ k m, a = .float k m
  · obtain ⟨k, m, rfl⟩ := hf
    cases b with
    | float k' n =>
      cases c with
      | float k'' o =>
        simp only [Atom.same, FloatKind.sameNumber, Bool.and_eq_true, Bool.or_eq_true,
          Bool.not_eq_true', beq_iff_eq] at hb hc ⊢
        obtain ⟨rfl, ⟨-, hn⟩, hb⟩ := hb
        obtain ⟨rfl, ⟨-, ho⟩, hc⟩ := hc
        refine ⟨rfl, ⟨hn, ho⟩, ?_⟩
        rcases hb with rfl | ⟨hm, hb⟩
        · exact hc
        · rcases hc with rfl | ⟨-, hc⟩
          · exact .inr ⟨hb, hm⟩
          · exact .inr ⟨hb, hc⟩
      | _ => simp [Atom.same] at hc
    | _ => simp [Atom.same] at hb
  · have ha : ∀ k m, a ≠ .float k m := fun k m h => hf ⟨k, m, h⟩
    rw [Atom.same_of_not_float ha, beq_iff_eq] at hb hc
    rw [← hb, ← hc, Atom.same_of_not_float ha]
    exact beq_self_eq_true a

namespace Schema

variable {S : Schema} {form : MapForm} {es : List (Value × Value)} {k l : Value}

/-- Two values that one value without structure is the same as are the same. -/
theorem same_of_same {s : Value} (hs : s.kind = .scalar) (hk : S.same s k = some true)
    (hl : S.same s l = some true) : S.same k l = some true := by
  cases s with
  | atom a =>
    cases k <;> simp [same] at hk
    cases l <;> simp [same] at hl
    simpa [same] using Atom.same_of_same hk hl
  | sealed path number => simp [same] at hk
  | seq form items => cases form <;> cases hs
  | map form items => cases form <;> cases hs
  | set form items => cases form <;> cases hs
  | _ => cases hs

/-- Keys that find different entries, whatever is stored under either: different keys of the
declared type, or keys that are not equal among stored ones without structure. -/
def DistinctKeys (S : Schema) (form : MapForm) (es : List (Value × Value)) (k l : Value) : Prop :=
  match form with
  | .table _ _ _ => k ≠ l
  | .dyn => es ≠ [] ∧ (∀ e ∈ es, e.1.kind = .scalar) ∧ S.same k l ≠ some true

/-- Of two keys that find different entries the one is not the other. -/
theorem DistinctKeys.isKey_key (h : S.DistinctKeys form es k l) : S.isKey form l k = false := by
  cases form with
  | table f key value =>
    have h : k ≠ l := h
    simp [isKey, h]
  | dyn =>
    obtain ⟨-, -, h⟩ := h
    simp [isKey, h]

/-- The entry that one of the keys finds is none for the other. -/
theorem DistinctKeys.isKey_stored (h : S.DistinctKeys form es k l) {e : Value × Value}
    (he : e ∈ es) (hk : S.isKey form k e.1 = true) : S.isKey form l e.1 = false := by
  cases form with
  | table f key value =>
    simp only [isKey, Bool.and_eq_true, beq_iff_eq] at hk
    rw [hk.2]
    exact h.isKey_key
  | dyn =>
    obtain ⟨-, hs, h⟩ := h
    simp only [isKey, beq_iff_eq] at hk
    simp only [isKey, beq_eq_false_iff_ne]
    exact fun hl => h (same_of_same (hs e he) hk hl)

/-- Changing the value under one key leaves alone what another one finds. -/
theorem entry?_withEntry_of_distinct (h : S.DistinctKeys form es k l) (w : Value) :
    S.entry? form (S.withEntry form es k w) l = S.entry? form es l := by
  unfold entry? withEntry
  rw [find?_updateFirst_of_not]
  intro e he
  have hk := List.find?_some (p := fun e : Value × Value => S.isKey form k e.1) he
  have hl := h.isKey_stored (List.mem_of_find?_eq_some he) hk
  exact ⟨hl, hl⟩

/-- Adding an entry leaves alone what another key finds, also where the new entry comes in front of
it in the order of the keys. -/
theorem entry?_add_of_distinct (h : S.isKey form l k = false) (w : Value) :
    S.entry? form (form.add (k, w) es) l = S.entry? form es l := by
  have atEnd : S.entry? form (es ++ [(k, w)]) l = S.entry? form es l := by
    simp [ entry?, List.find?_append, h]
  have inOrder :
      S.entry? form (insertSorted (fun a b => a.1.order b.1) (k, w) es) l = S.entry? form es l := by
    clear atEnd
    induction es with
    | nil => simp [ entry?, insertSorted, h]
    | cons e es ih =>
      unfold insertSorted
      split
      · simp [ entry?, h]
      · unfold entry? at ih ⊢
        rw [List.find?_cons, List.find?_cons]
        cases S.isKey form l e.1 with
        | true => rfl
        | false => exact ih
  cases form with
  | dyn => exact atEnd
  | table f key value =>
    cases f with
    | tree => exact inOrder
    | hash => exact atEnd
    | fixedHash => exact atEnd

end Schema

/-- What a name stands for as a key is the same with one entry more. Only a dynamic map goes by its
first key, and that does not change unless there was none. -/
theorem Scope.keyFor_add_of_ne {C : Scope} {form : MapForm} {es : List (Value × Value)} {n : Name}
    (h : form = .dyn → es ≠ []) (e : Value × Value) :
    C.keyFor form (form.add e es) n = C.keyFor form es n := by
  cases form with
  | table f key value => rfl
  | dyn =>
    cases es with
    | nil => exact absurd rfl (h rfl)
    | cons a es => rfl

/-! ### Fields apart -/

namespace Member

/-- Writing one field leaves alone another that does not overlap with it. -/
theorem map_place?_put {a c : Member} {owner w : Value} {f : Focus}
    (ha : a.place? owner = .ok (some f)) (hw : w.ty = f.value.ty) (hac : a.Apart c) :
    (c.place? (f.put w)).map (Option.map Focus.value) =
      (c.place? owner).map (Option.map Focus.value) := by
  cases hc : c.declaration with
  | field e =>
    obtain ⟨d, v, b, u, hd, hv, hb, hu, rfl⟩ := place?_eq_ok_some_iff.1 ha
    have hv' : (v.withEmbedded a.parents (b.withField d.name w)).ty = v.ty :=
      Value.ty_withEmbedded hb (Value.ty_withField ..)
    have hp := Value.payload?_of_ty_eq hv hv'
    have hn : a.name = d.name := congrArg Declaration.name hd
    have hm : c.name = e.name := congrArg Declaration.name hc
    obtain ⟨h₁, h₂⟩ := hac
    rw [trail, trail, hn, hm] at h₁ h₂
    rw [map_place? hc, map_place? hc, Value.unwrapped_eq_ok_iff.2 hv,
      Value.unwrapped_eq_ok_iff.2 (Value.payload?_withPayload hv hp), bind_ok, bind_ok]
    exact Value.field?_withEmbedded_of_apart hb h₁ h₂
  | getter method => unfold place?; rw [hc]
  | setter method => unfold place?; rw [hc]

end Member

namespace Navigator

variable {N : Navigator} {n m : Name}

/-- Whether a name is a plain field is decided by the type alone. -/
theorem PlainField.of_ty {b b' : Value} {c : Member} (h : N.PlainField b n c)
    (ht : b'.ty = b.ty) : N.PlainField b' n c := by
  unfold PlainField
  rw [ht]
  exact h

/-- A plain field is read from its place, and no copy is made. -/
theorem getProperty_of_plain {b : Value} {c : Member} (h : N.PlainField b n c) :
    N.getProperty b n =
      Problem.lift (((c.place? b).map (Option.map Focus.value)).map (Option.map (⟨·, false⟩))) := by
  obtain ⟨expected, hq, hm, hg, -⟩ := h
  unfold getProperty
  rw [hq, liftProblem_ok, bind_ok, hg, liftProblem_ok, bind_ok]
  dsimp only
  rw [hm, liftProblem_ok, bind_ok]
  dsimp only
  rcases c.place? b with e | _ | f <;> rfl

/-- A field that was written leaves alone what is read from another one. -/
theorem get_put_of_apart {b w : Value} {path : String} {a c : Member} {f : Focus}
    (hb : b.ty = .bean path) (hc : N.PlainField b m c) (ha : a.place? b = .ok (some f))
    (hw : w.ty = f.value.ty) (hac : a.Apart c) : N.get (f.put w) m = N.get b m := by
  have ht := (Member.place?_put ha hw).2
  rw [get_bean hb, get_bean (ht.trans hb), getProperty_of_plain hc,
    getProperty_of_plain (hc.of_ty ht), Member.map_place?_put ha hw hac]

/-! ### Items and entries apart -/

/-- Writing one item leaves alone what is read at another position, also at one outside. -/
theorem get_seq_set {form : SeqForm} {vs : List Value} {i : Nat} {j : Int}
    (hm : m.wild = false) (hj : readInteger .i64 m.text = .ok j) (hij : (i : Int) ≠ j)
    (w : Value) : N.get (.seq form (vs.set i w)) m = N.get (.seq form vs) m := by
  have h : form.getAt (vs.set i w) m = form.getAt vs m := by
    rw [SeqForm.getAt_of_readInteger hm hj, SeqForm.getAt_of_readInteger hm hj, List.length_set]
    by_cases h0 : 0 ≤ j
    · have hne : i ≠ j.toNat := by omega
      rw [if_pos h0, if_pos h0, List.getElem?_set_ne hne]
    · rw [if_neg h0, if_neg h0]
  rw [get_of_seq, get_of_seq, h]

/-- Changing the value under one key leaves alone what is read under another. -/
theorem get_map_withEntry {form : MapForm} {es : List (Value × Value)} {k l : Value}
    (hm : m.wild = false) (hl : N.scope.keyFor form es m = .ok l)
    (hkl : N.scope.schema.DistinctKeys form es k l) (w : Value) :
    N.get (.map form (N.scope.schema.withEntry form es k w)) m = N.get (.map form es) m := by
  rw [get_map hm hl, get_map hm ((Scope.keyFor_congr (Schema.map_fst_withEntry ..)).trans hl),
    Schema.entry?_withEntry_of_distinct hkl]

/-- Adding an entry leaves alone what is read under another key. -/
theorem get_map_add {form : MapForm} {es : List (Value × Value)} {k l : Value}
    (hm : m.wild = false) (hl : N.scope.keyFor form es m = .ok l)
    (hkl : N.scope.schema.DistinctKeys form es k l) (w : Value) :
    N.get (.map form (form.add (k, w) es)) m = N.get (.map form es) m := by
  have hne : form = .dyn → es ≠ [] := by
    rintro rfl
    exact hkl.1
  rw [get_map hm hl, get_map hm ((Scope.keyFor_add_of_ne hne _).trans hl),
    Schema.entry?_add_of_distinct hkl.isKey_key]

/-! ### Where two routes part -/

/-- Two names that enter a container, under optional layers, at different places. -/
def Parted (N : Navigator) (v : Value) (n m : Name) : Prop :=
  match v.payload? with
  | some (.seq _ _) =>
    ∃ i j, readInteger .i64 n.text = .ok i ∧ readInteger .i64 m.text = .ok j ∧ i ≠ j
  | some (.map form es) =>
    ∃ k l, N.scope.keyFor form es n = .ok k ∧ N.scope.keyFor form es m = .ok l ∧
      N.scope.schema.DistinctKeys form es k l
  | some (.bean path fields hidden) =>
    ∃ a c, N.PlainField (.bean path fields hidden) n a ∧
      N.PlainField (.bean path fields hidden) m c ∧ a.Apart c
  | _ => False

/-- Two routes that share some places and then enter one container at different places.  The shared
steps may be spelled differently; the second route does not read them through getters. -/
inductive Apart (N : Navigator) : Value → List Name → List Name → Prop where
  | parted {v : Value} {n m : Name} {ns ms : List Name} (h : N.Parted v n m) :
      N.Apart v (n :: ns) (m :: ms)
  | shared {v : Value} {n m : Name} {ns ms : List Name} {f : Focus}
      (hn : N.descend v n = .ok (.inPlace f)) (hm : N.descend v m = .ok (.inPlace f))
      (hg : N.NoGetter v.ty m) (h : N.Apart f.value ns ms) : N.Apart v (n :: ns) (m :: ms)

/-- Routes that part have a step each. -/
theorem Apart.ne_nil {v : Value} {ns ms : List Name} (h : N.Apart v ns ms) :
    ns ≠ [] ∧ ms ≠ [] := by
  cases h <;> exact ⟨List.cons_ne_nil _ _, List.cons_ne_nil _ _⟩

/-- Writing at one place leaves alone what is read at the other. -/
theorem Parted.get_of_put {v v' : Value} {x previous : Option Value} (h : N.Parted v n m)
    (hn : n.wild = false) (hm : m.wild = false) (hp : N.put n x v = .ok previous v') :
    N.get v' m = N.get v m := by
  obtain ⟨p, p', hv, hp, rfl⟩ := present_eq_ok_iff.1 hp
  unfold Parted at h
  rw [hv] at h
  rw [get_congr (hv.trans (Value.payload?_payload hv).symm)]
  cases p with
  | seq form vs =>
    have hp : items form vs (form.putAt n x) (.seq form vs) = .ok previous p' := hp
    obtain ⟨vs', hvs, rfl⟩ := within_eq_ok_iff.1 hp
    rw [get_congr (w := .seq form vs') (Value.payload?_withPayload hv rfl)]
    obtain ⟨i, j, hi, hj, hij⟩ := h
    obtain ⟨i', _, w, hi', -, -, -, rfl⟩ := (SeqForm.putAt_eq_ok_iff hn).1 hvs
    cases hi.symm.trans hi'
    exact get_seq_set hm hj hij w
  | map form es =>
    have hp : entries form es (N.scope.putUnder form n x) (.map form es) = .ok previous p' := hp
    obtain ⟨es', hes, rfl⟩ := within_eq_ok_iff.1 hp
    rw [get_congr (w := .map form es') (Value.payload?_withPayload hv rfl)]
    obtain ⟨k, l, hk, hl, hkl⟩ := h
    obtain ⟨k', w, -, hk', -, hi⟩ := Scope.putUnder_eq_ok_iff.1 hes
    cases hk.symm.trans hk'
    obtain ⟨-, -, -, rfl⟩ := Schema.insertEntry_eq_ok_iff.1 hi
    split
    · exact get_map_withEntry hm hl hkl w
    · exact get_map_add hm hl hkl w
  | bean path fields hidden =>
    obtain ⟨a, c, ⟨expected, hq, hfa, -, hsa⟩, hc, hac⟩ := h
    have hp : N.putProperty n x (.bean path fields hidden) = .ok previous p' := hp
    have hp' := Value.payload?_of_ty_eq hv (ty_of_putProperty hp)
    rw [get_congr ((Value.payload?_withPayload hv hp').trans hp'.symm)]
    obtain ⟨expected', hq', ⟨s, w, hs, -⟩ | ⟨-, a', old, w, ha', -, -, ho, -⟩⟩ :=
      putProperty_eq_ok_iff.1 hp
    · cases hq.symm.trans hq'
      cases hsa.symm.trans hs
    · cases hq.symm.trans hq'
      cases hfa.symm.trans ha'
      obtain ⟨d, hd⟩ := Declaration.exists_field_of_role (Schema.role_of_member? hfa)
      obtain ⟨f, hf, hw, rfl⟩ := (Member.set_field_eq_ok_iff hd).1 ho
      exact get_put_of_apart rfl hc hf hw hac
  | _ => exact h.elim

/-- Changing what stands at one place leaves alone what is read at the other. -/
theorem Parted.get_of_descend {v w : Value} {f : Focus} (h : N.Parted v n m)
    (hm : m.wild = false) (hd : N.descend v n = .ok (.inPlace f)) (hw : w.ty = f.value.ty) :
    N.get (f.put w) m = N.get v m := by
  obtain ⟨p, g, hv, hg, rfl⟩ := descend_eq_inPlace_iff.1 hd
  have ht := (descendInto_put hg hw).2
  have hp' := Value.payload?_of_ty_eq hv ht
  unfold Parted at h
  rw [hv] at h
  rw [get_congr (hv.trans (Value.payload?_payload hv).symm),
    get_congr ((Value.payload?_withPayload hv hp').trans hp'.symm)]
  cases p with
  | seq form vs =>
    obtain ⟨g', hg', hg⟩ := bind_eq_ok_iff.1 hg
    cases hg
    obtain ⟨i', _, -, hi', rfl⟩ := SeqForm.placeAt_eq_ok_iff.1 (liftProblem_eq_ok_iff.1 hg')
    obtain ⟨i, j, hi, hj, hij⟩ := h
    cases hi.symm.trans hi'
    exact get_seq_set hm hj hij w
  | map form es =>
    obtain ⟨g', hg', hg⟩ := bind_eq_ok_iff.1 hg
    cases hg
    obtain ⟨k', u, -, hk', -, rfl⟩ := Scope.placeUnder_eq_ok_iff.1 hg'
    obtain ⟨k, l, hk, hl, hkl⟩ := h
    cases hk.symm.trans hk'
    exact get_map_withEntry hm hl hkl w
  | bean path fields hidden =>
    obtain ⟨a, c, ⟨expected, hq, hfa, -⟩, hc, hac⟩ := h
    obtain ⟨expected', a', hq', ha', hp⟩ := descendProperty_eq_inPlace_iff.1 hg
    cases hq.symm.trans hq'
    cases hfa.symm.trans ha'
    exact get_put_of_apart rfl hc hp hw hac
  | _ => exact h.elim

/-- Names that part enter the container itself and no copy of a part, as a set or a getter would
give. -/
theorem Parted.not_copy {v u : Value} {origin : Origin} (h : N.Parted v n m) :
    N.descend v n ≠ .ok (.copy u origin) := by
  intro hd
  obtain ⟨p, hv, hd⟩ := descend_eq_copy_iff.1 hd
  unfold Parted at h
  rw [hv] at h
  obtain ⟨_, _, _, rfl, -⟩ | ⟨path, ht, hd⟩ := descendInto_copy_cases hd
  · exact h
  · obtain ⟨fields, hidden, rfl⟩ := Value.exists_of_ty_bean ht
    obtain ⟨a, c, ⟨expected, hq, hfa, -⟩, -⟩ := h
    obtain ⟨expected', _, _, hq', hf, -⟩ := descendProperty_eq_copy_iff.1 hd
    cases hq.symm.trans hq'
    cases hfa.symm.trans hf

/-- What a route leads to is the same if its first step reads the same. -/
theorem follow_of_get {v v' : Value} (h : N.get v' m = N.get v m) (ms : List Name) :
    N.follow v' (m :: ms) = N.follow v (m :: ms) := by
  cases ms <;> simp only [follow, h]

/-- **An update leaves alone what another route leads to** once the routes have parted. -/
theorem follow_of_update_apart {v v' : Value} {ns ms : List Name} {x previous : Option Value}
    (ha : N.Apart v ns ms) (hn : ∀ n ∈ ns, n.wild = false) (hm : ∀ m ∈ ms, m.wild = false)
    (h : N.update (.put x) ns v = .ok previous v') : N.follow v' ms = N.follow v ms := by
  induction ha generalizing v' previous with
  | @parted v n m ns ms hp =>
    have hn₁ := hn n List.mem_cons_self
    have hm₁ := hm m List.mem_cons_self
    refine follow_of_get ?_ ms
    cases ns with
    | nil =>
      rw [update_singleton, map_apply] at h
      cases hx : N.put n x v with
      | error e w => rw [edit, hx] at h; cases h
      | ok p w =>
        rw [edit, hx] at h
        cases h
        exact hp.get_of_put hn₁ hm₁ hx
    | cons k rest =>
      rw [update_cons_cons _ hn₁ (.bean ""), Layer.visit_key] at h
      cases hd : N.descend v n with
      | error e => rw [hd] at h; cases h
      | ok d =>
        rw [hd] at h
        cases d with
        | inPlace f =>
          obtain ⟨w, hw, rfl⟩ := within_eq_ok_iff.1 h
          exact hp.get_of_descend hm₁ hd ((N.keepsType_update _ _).ok hw)
        | copy u origin => exact absurd hd hp.not_copy
  | @shared v n m ns ms f hdn hdm hg ha ih =>
    obtain ⟨k, ns, rfl⟩ := List.exists_cons_of_ne_nil ha.ne_nil.1
    obtain ⟨l, ms, rfl⟩ := List.exists_cons_of_ne_nil ha.ne_nil.2
    rw [update_cons_cons _ (hn n List.mem_cons_self) (.bean ""), Layer.visit_key, hdn] at h
    obtain ⟨w, hw, rfl⟩ := within_eq_ok_iff.1 h
    obtain ⟨hdm', ht⟩ := descend_put hdm ((N.keepsType_update _ _).ok hw)
    rw [follow_cons_of_get (N.get_of_descend hg hdm),
      follow_cons_of_get (N.get_of_descend (ht ▸ hg) hdm')]
    exact ih (fun k hk => hn k (List.mem_cons_of_mem _ hk))
      (fun k hk => hm k (List.mem_cons_of_mem _ hk)) hw

end Navigator

/-- A list of lists of integers. -/
def Sample.rows (rows : List (List Int)) : Value :=
  .seq (.list .vec (.list .vec (.int .i32)))
    (rows.map fun row => .seq (.list .vec (.int .i32)) (row.map (Value.int .i32)))

end BeanPath
