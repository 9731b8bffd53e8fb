import BeanPath.Proofs.Places
import BeanPath.Step

/-!
# What single steps do

For every kind of container, when a step into it succeeds and what it then does.  A step that leads
to a place leads to the same place after something else was put there
(`Navigator.descend_put`), because the type of a bean, the length of a sequence and the keys of a
map stay as they are; and putting back what stood there changes nothing
(`Navigator.put_descend_value`).
-/

namespace BeanPath

/-! ### Positions -/

/-- A number is an index exactly if it is that of a position. -/
theorem boundedIndex_eq_ok_iff {i : Int} {size : Nat} {j : Fin size} :
    boundedIndex i size = .ok j ↔ i = (j : Nat) := by
  unfold boundedIndex
  split
  · next h =>
    rw [Except.ok.injEq, Fin.ext_iff]
    dsimp only
    omega
  · next h =>
    have := j.isLt
    simp only [reduceCtorEq, false_iff]
    omega

/-- A name is an index exactly if it is read as the number of a position. -/
theorem Name.index_eq_ok_iff {n : Name} {size : Nat} {j : Fin size} :
    n.index size = .ok j ↔ readInteger .i64 n.text = .ok ((j : Nat) : Int) := by
  unfold index
  rw [bind_eq_ok_iff]
  constructor
  · rintro ⟨i, hi, h⟩
    rw [hi, boundedIndex_eq_ok_iff.1 h]
  · intro h
    exact ⟨_, h, boundedIndex_eq_ok_iff.2 rfl⟩

namespace SeqForm

/-- A step into a sequence needs the number of an item; the star stands for no single one. -/
theorem indexOf_eq_ok_iff {form : SeqForm} {vs : List Value} {n : Name} {j : Fin vs.length} :
    form.indexOf vs n = .ok j ↔
      n.wild = false ∧ readInteger .i64 n.text = .ok ((j : Nat) : Int) := by
  unfold indexOf
  cases n.wild with
  | true => simp
  | false => simpa using Name.index_eq_ok_iff

/-- A step into a sequence leads to the item of its number, and putting another there changes that
item alone. -/
theorem placeAt_eq_ok_iff {form : SeqForm} {vs : List Value} {n : Name} {f : Focus} :
    form.placeAt vs n = .ok f ↔
      ∃ (i : Nat) (h : i < vs.length), n.wild = false ∧ readInteger .i64 n.text = .ok (i : Int) ∧
        f = ⟨vs[i], fun w => .seq form (vs.set i w)⟩ := by
  unfold placeAt
  rw [bind_eq_ok_iff]
  constructor
  · rintro ⟨j, hj, h⟩
    obtain rfl := pure_eq_ok_iff.1 h
    obtain ⟨hw, hr⟩ := indexOf_eq_ok_iff.1 hj
    exact ⟨j, j.isLt, hw, hr, rfl⟩
  · rintro ⟨i, hi, hw, hr, rfl⟩
    exact ⟨⟨i, hi⟩, indexOf_eq_ok_iff.2 ⟨hw, hr⟩, rfl⟩

/-- Reading in a sequence gives the item of the number. -/
theorem getAt_eq_ok_iff {form : SeqForm} {vs : List Value} {n : Name} {v : Value} :
    form.getAt vs n = .ok v ↔
      ∃ (i : Nat) (h : i < vs.length), n.wild = false ∧ readInteger .i64 n.text = .ok (i : Int) ∧
        v = vs[i] := by
  unfold getAt
  rw [bind_eq_ok_iff]
  constructor
  · rintro ⟨j, hj, h⟩
    obtain rfl := pure_eq_ok_iff.1 h
    obtain ⟨hw, hr⟩ := indexOf_eq_ok_iff.1 hj
    exact ⟨j, j.isLt, hw, hr, rfl⟩
  · rintro ⟨i, hi, hw, hr, rfl⟩
    exact ⟨⟨i, hi⟩, indexOf_eq_ok_iff.2 ⟨hw, hr⟩, rfl⟩

/-- A number that is no index is out of bounds, below zero as well as beyond the last item. -/
theorem getAt_of_readInteger {form : SeqForm} {vs : List Value} {n : Name} {i : Int}
    (hn : n.wild = false) (hr : readInteger .i64 n.text = .ok i) :
    form.getAt vs n = match if 0 ≤ i then vs[i.toNat]? else none with
      | some v => .ok v
      | none => .error (.outOfBounds i vs.length) := by
  unfold getAt indexOf Name.index boundedIndex
  rw [hn, hr]
  simp only [Bool.false_eq_true, if_false, bind_ok]
  split
  · next h =>
    have hi : i.toNat < vs.length := by omega
    rw [bind_ok, if_pos h.1, List.getElem?_eq_getElem hi]
    rfl
  · next h =>
    split
    · next v hv =>
      split at hv
      · have hi := (List.getElem?_eq_some_iff.1 hv).1
        omega
      · cases hv
    · rfl

/-- An item is replaced if the new one has the type that the sequence wants, and the old one is
given back. -/
theorem replace_eq_ok_iff {form : SeqForm} {vs vs' : List Value} {i : Nat} {v old : Value} :
    form.replace vs i v = .ok (old, vs') ↔
      v.fitting form.item? = .ok v ∧ vs[i]? = some old ∧ vs' = vs.set i v := by
  unfold replace
  rw [bind_eq_ok_iff]
  constructor
  · rintro ⟨w, hw, h⟩
    obtain ⟨rfl, -⟩ := Value.fitting_eq_ok_iff.1 hw
    cases hi : vs[i]? with
    | none => rw [hi] at h; cases h
    | some u => rw [hi] at h; cases h; exact ⟨hw, rfl, rfl⟩
  · rintro ⟨hw, hi, rfl⟩
    refine ⟨v, hw, ?_⟩
    rw [hi]
    rfl

/-- Writing to a sequence fits the value to the type of the items and then replaces the item of the
number. -/
theorem putAt_eq_ok_iff {form : SeqForm} {vs vs' : List Value} {n : Name}
    {v previous : Option Value} (hn : n.wild = false) :
    form.putAt n v vs = .ok previous vs' ↔
      ∃ (i : Nat) (h : i < vs.length) (w : Value), readInteger .i64 n.text = .ok (i : Int) ∧
        Value.fit v form.item? = .ok w ∧ w.fitting form.item? = .ok w ∧
          previous = some vs[i] ∧ vs' = vs.set i w := by
  unfold putAt
  rw [Update.atomic_eq_ok_iff]
  simp only [hn, Bool.false_eq_true, if_false]
  rw [bind_eq_ok_iff]
  constructor
  · rintro ⟨j, hj, h⟩
    obtain ⟨w, hw, h⟩ := bind_eq_ok_iff.1 h
    obtain ⟨⟨old, vs₁⟩, hr, h⟩ := bind_eq_ok_iff.1 h
    cases pure_eq_ok_iff.1 h
    obtain ⟨hf, hi, rfl⟩ := replace_eq_ok_iff.1 (liftFault_eq_ok_iff.1 hr)
    rw [List.getElem?_eq_getElem j.isLt] at hi
    cases hi
    exact ⟨j, j.isLt, w, Name.index_eq_ok_iff.1 (liftProblem_eq_ok_iff.1 hj),
      liftFault_eq_ok_iff.1 hw, hf, rfl, rfl⟩
  · rintro ⟨i, hi, w, hr, hw, hf, rfl, rfl⟩
    refine ⟨⟨i, hi⟩, liftProblem_eq_ok_iff.2 (Name.index_eq_ok_iff.2 hr), ?_⟩
    refine bind_eq_ok_iff.2 ⟨w, liftFault_eq_ok_iff.2 hw, ?_⟩
    have hv : form.replace vs i w = .ok (vs[i], vs.set i w) :=
      replace_eq_ok_iff.2 ⟨hf, List.getElem?_eq_getElem hi, rfl⟩
    exact bind_eq_ok_iff.2 ⟨_, liftFault_eq_ok_iff.2 hv, rfl⟩

end SeqForm

/-! ### Keys -/

/-- Replaces the value of the first entry that a key finds. -/
def Schema.withEntry (S : Schema) (form : MapForm) (es : List (Value × Value)) (k w : Value) :
    List (Value × Value) :=
  updateFirst (fun e => S.isKey form k e.1) (fun e => (e.1, w)) es

namespace Schema

variable {S : Schema} {form : MapForm} {es : List (Value × Value)} {k u : Value}

/-- Writing the value of an entry leaves the keys and their order as they are. -/
theorem map_fst_withEntry (form : MapForm) (es : List (Value × Value)) (k w : Value) :
    (S.withEntry form es k w).map (·.1) = es.map (·.1) :=
  map_updateFirst (f := fun e => (e.1, w)) (fun _ => rfl) es

/-- A key that has an entry has the value that was written to it. -/
theorem entry?_withEntry (h : S.entry? form es k = some u) (w : Value) :
    S.entry? form (S.withEntry form es k w) k = some w := by
  obtain ⟨e, he, -⟩ := Option.map_eq_some_iff.1 h
  unfold entry? withEntry
  rw [find?_updateFirst (p := fun e => S.isKey form k e.1) (f := fun e => (e.1, w)) fun _ => rfl,
    he]
  rfl

/-- Of two values written under the same key the second counts. -/
theorem withEntry_withEntry (form : MapForm) (es : List (Value × Value)) (k w x : Value) :
    S.withEntry form (S.withEntry form es k w) k x = S.withEntry form es k x :=
  updateFirst_updateFirst (p := fun e : Value × Value => S.isKey form k e.1)
    (f := fun e => (e.1, w)) (g := fun e => (e.1, x)) (fun _ => rfl) (fun _ => rfl) es

/-- Writing back the value of an entry changes nothing. -/
theorem withEntry_self (h : S.entry? form es k = some u) : S.withEntry form es k u = es := by
  refine updateFirst_of_find? es fun e he => ?_
  rw [ entry?, Option.mem_def.1 he] at h
  cases h
  rfl

/-- Inserting needs a key and a value of the types that the map wants. It writes to the entry of the
key if there is one and adds one otherwise, and it gives back what the key had. -/
theorem insertEntry_eq_ok_iff {v : Value} {previous : Option Value} {es' : List (Value × Value)} :
    S.insertEntry form es k v = .ok (previous, es') ↔
      k.fitting form.key? = .ok k ∧ v.fitting form.value? = .ok v ∧
        previous = S.entry? form es k ∧
          es' = if (S.entry? form es k).isSome then S.withEntry form es k v
            else form.add (k, v) es := by
  unfold insertEntry
  simp only [bind_eq_ok_iff]
  constructor
  · rintro ⟨k', hk, v', hv, h⟩
    obtain ⟨rfl, -⟩ := Value.fitting_eq_ok_iff.1 hk
    obtain ⟨rfl, -⟩ := Value.fitting_eq_ok_iff.1 hv
    refine ⟨hk, hv, ?_⟩
    cases hl : S.entry? form es k' with
    | none => rw [hl] at h; cases h; exact ⟨rfl, rfl⟩
    | some u => rw [hl] at h; cases h; exact ⟨rfl, rfl⟩
  · rintro ⟨hk, hv, rfl, rfl⟩
    refine ⟨k, hk, v, hv, ?_⟩
    cases S.entry? form es k <;> rfl

/-- A key that finds itself finds what was added under it. -/
theorem entry?_add (h : S.entry? form es k = none) (hk : S.isKey form k k = true) (v : Value) :
    S.entry? form (form.add (k, v) es) k = some v := by
  have hn : ∀ e ∈ es, S.isKey form k e.1 = false := by
    simpa [ entry?, List.find?_eq_none] using h
  have atEnd : S.entry? form (es ++ [(k, v)]) k = some v := by
    rw [ entry?, List.find?_append, List.find?_eq_none.2 (by simpa using hn), Option.none_or]
    simp [hk]
  have inOrder : S.entry? form (insertSorted (fun a b => a.1.order b.1) (k, v) es) k = some v := by
    clear h atEnd
    induction es with
    | nil => simp [ entry?, insertSorted, hk]
    | cons e es ih =>
      have ih := ih fun a ha => hn a (List.mem_cons_of_mem _ ha)
      unfold insertSorted
      split
      · simp [ entry?, hk]
      · simpa [ entry?, hn e List.mem_cons_self] using ih
  cases form with
  | dyn => exact atEnd
  | table f key value =>
    cases f with
    | tree => exact inOrder
    | hash => exact atEnd
    | fixedHash => exact atEnd

/-- In a map with a key type, a key of that type finds itself; in a map for values of any type, it
does if it is the same as itself. -/
theorem isKey_self (hk : k.fitting form.key? = .ok k)
    (hd : form = .dyn → S.same k k = some true) : S.isKey form k k = true := by
  cases form with
  | dyn => simp [isKey, hd rfl]
  | table f key value =>
    have ht := (Value.fitting_eq_ok_iff.1 hk).2 key rfl
    simp [isKey, ht]

end Schema

namespace Scope

variable {C : Scope} {form : MapForm} {es : List (Value × Value)} {n : Name}

/-- What a name stands for in a map depends on the keys alone. -/
theorem keyFor_congr {fs : List (Value × Value)} (h : fs.map (·.1) = es.map (·.1)) :
    C.keyFor form fs n = C.keyFor form es n := by
  have head (es : List (Value × Value)) :
      es.head?.map (fun e => e.1.ty) = (es.map (·.1)).head?.map Value.ty := by
    cases es <;> rfl
  unfold keyFor
  simp only [head, h]

/-- An entry under a key does not change what the name of the key stands for, also where the first
key decides about the type. -/
theorem keyFor_add {k : Value} (hk : C.keyFor form es n = .ok k) (v : Value) :
    C.keyFor form (form.add (k, v) es) n = .ok k := by
  cases form with
  | table f key value => exact hk
  | dyn =>
    cases es with
    | cons e es => exact hk
    | nil =>
      unfold keyFor at hk ⊢
      obtain ⟨stated, hs, h⟩ := bind_eq_ok_iff.1 hk
      refine bind_eq_ok_iff.2 ⟨stated, hs, ?_⟩
      cases stated with
      | some t => exact h
      | none =>
        obtain rfl := pure_eq_ok_iff.1 h
        rfl

/-- A name addresses a single entry unless it is a star, and then by the key it stands for. -/
theorem singleKey_eq_ok_iff {k : Value} :
    C.singleKey form es n = .ok k ↔ n.wild = false ∧ C.keyFor form es n = .ok k := by
  unfold singleKey
  cases n.wild <;> simp

/-- A step into a map leads to the value of the entry of its key, which must be there. -/
theorem placeUnder_eq_ok_iff {f : Focus} :
    C.placeUnder form es n = .ok f ↔
      ∃ k u, n.wild = false ∧ C.keyFor form es n = .ok k ∧ C.schema.entry? form es k = some u ∧
        f = ⟨u, fun w => .map form (C.schema.withEntry form es k w)⟩ := by
  unfold placeUnder
  rw [bind_eq_ok_iff]
  constructor
  · rintro ⟨k, hk, h⟩
    obtain ⟨hn, hk⟩ := singleKey_eq_ok_iff.1 hk
    unfold Schema.entryPlace? at h
    cases hu : C.schema.entry? form es k with
    | none => rw [hu] at h; cases h
    | some u =>
      rw [hu] at h
      obtain rfl := pure_eq_ok_iff.1 h
      exact ⟨k, u, hn, hk, hu, rfl⟩
  · rintro ⟨k, u, hn, hk, hu, rfl⟩
    refine ⟨k, singleKey_eq_ok_iff.2 ⟨hn, hk⟩, ?_⟩
    rw [Schema.entryPlace?, hu]
    rfl

/-- Reading in a map gives the value under a key, or nothing if the key has none. -/
theorem getUnder_eq_ok_iff {u : Option Value} :
    C.getUnder form es n = .ok u ↔
      ∃ k, n.wild = false ∧ C.keyFor form es n = .ok k ∧ C.schema.entry? form es k = u := by
  unfold getUnder
  simp only [bind_eq_ok_iff, singleKey_eq_ok_iff, pure_eq_ok_iff, and_assoc]

/-- Writing to a map inserts the fitted value under the key that the name stands for. -/
theorem putUnder_eq_ok_iff {v previous : Option Value} {es' : List (Value × Value)} :
    C.putUnder form n v es = .ok previous es' ↔
      ∃ k w, n.wild = false ∧ C.keyFor form es n = .ok k ∧ Value.fit v form.value? = .ok w ∧
        C.schema.insertEntry form es k w = .ok (previous, es') := by
  unfold putUnder
  rw [Update.atomic_eq_ok_iff]
  simp only [bind_eq_ok_iff, singleKey_eq_ok_iff, liftFault_eq_ok_iff]
  constructor
  · rintro ⟨k, ⟨hn, hk⟩, w, hw, h⟩
    exact ⟨k, w, hn, hk, hw, h⟩
  · rintro ⟨k, w, hn, hk, hw, h⟩
    exact ⟨k, ⟨hn, hk⟩, w, hw, h⟩

end Scope

/-! ### Properties -/

/-- A value of a bean type is a bean with that path. -/
theorem Value.exists_of_ty_bean {v : Value} {path : String} (h : v.ty = .bean path) :
    ∃ fields hidden, v = bean path fields hidden := by
  cases v with
  | bean p fields hidden => cases h; exact ⟨fields, hidden, rfl⟩
  | seq form items => cases form <;> cases h
  | map form es => cases form <;> cases h
  | set form es => cases form <;> cases h
  | _ => cases h

/-- The part that a step leads to, in place or as a copy. -/
def Descent.value : Descent → Value
  | .inPlace f => f.value
  | .copy v _ => v

namespace Navigator

variable {N : Navigator} {n : Name}

/-- A step into a bean leads to a place if a field is found there and its place is there. -/
theorem descendProperty_eq_inPlace_iff {b : Value} {f : Focus} :
    N.descendProperty b n = .ok (.inPlace f) ↔
      ∃ expected m, N.scope.qualifier? n = .ok expected ∧
        N.member? .field b.ty expected n = .ok (some m) ∧ m.place? b = .ok (some f) := by
  unfold descendProperty
  simp only [bind_eq_ok_iff, liftProblem_eq_ok_iff]
  constructor
  · rintro ⟨expected, hq, field, hm, h⟩
    cases field with
    | some m =>
      obtain ⟨place, hp, h⟩ := bind_eq_ok_iff.1 h
      cases place with
      | none => cases h
      | some g => cases h; exact ⟨expected, m, hq, hm, liftProblem_eq_ok_iff.1 hp⟩
    | none =>
      obtain ⟨getter, -, h⟩ := bind_eq_ok_iff.1 h
      cases getter with
      | none => cases h
      | some g =>
        obtain ⟨v, -, h⟩ := bind_eq_ok_iff.1 h
        obtain ⟨setter, -, h⟩ := bind_eq_ok_iff.1 h
        cases setter <;> cases h
  · rintro ⟨expected, m, hq, hm, hp⟩
    exact ⟨expected, hq, some m, hm, bind_eq_ok_iff.2 ⟨some f, liftProblem_eq_ok_iff.2 hp, rfl⟩⟩

/-- A step into a bean leads to a copy if no field is found, but a getter and a setter for what the
getter gives. -/
theorem descendProperty_eq_copy_iff {b v : Value} {origin : Origin} :
    N.descendProperty b n = .ok (.copy v origin) ↔
      ∃ expected g s, N.scope.qualifier? n = .ok expected ∧
        N.member? .field b.ty expected n = .ok none ∧
        N.member? .getter b.ty expected n = .ok (some g) ∧ g.get b = .ok v ∧
        N.member? .setter b.ty (some g.ty) n = .ok (some s) ∧ origin = .setter s := by
  unfold descendProperty
  simp only [bind_eq_ok_iff, liftProblem_eq_ok_iff]
  constructor
  · rintro ⟨expected, hq, field, hf, h⟩
    cases field with
    | some m =>
      obtain ⟨place, -, h⟩ := bind_eq_ok_iff.1 h
      cases place <;> cases h
    | none =>
      obtain ⟨getter, hg, h⟩ := bind_eq_ok_iff.1 h
      cases getter with
      | none => cases h
      | some g =>
        obtain ⟨w, hw, h⟩ := bind_eq_ok_iff.1 h
        obtain ⟨setter, hs, h⟩ := bind_eq_ok_iff.1 h
        cases setter with
        | none => cases h
        | some s =>
          cases h
          exact ⟨expected, g, s, hq, hf, liftProblem_eq_ok_iff.1 hg, hw,
            liftProblem_eq_ok_iff.1 hs, rfl⟩
  · rintro ⟨expected, g, s, hq, hf, hg, hv, hs, rfl⟩
    refine ⟨expected, hq, none, hf, bind_eq_ok_iff.2 ⟨some g, liftProblem_eq_ok_iff.2 hg, ?_⟩⟩
    refine bind_eq_ok_iff.2 ⟨v, hv, bind_eq_ok_iff.2 ⟨some s, liftProblem_eq_ok_iff.2 hs, rfl⟩⟩

/-- Reading a property goes by a getter, and by a field only if there is no getter. -/
theorem getProperty_eq_ok_iff {b : Value} {r : Option Reading} :
    N.getProperty b n = .ok r ↔
      ∃ expected, N.scope.qualifier? n = .ok expected ∧
        ((∃ g u, N.member? .getter b.ty expected n = .ok (some g) ∧ g.get b = .ok u ∧
            r = some ⟨u, true⟩) ∨
          (N.member? .getter b.ty expected n = .ok none ∧
            ∃ m place, N.member? .field b.ty expected n = .ok (some m) ∧
              m.place? b = .ok place ∧ r = place.map fun f => ⟨f.value, false⟩)) := by
  unfold getProperty
  simp only [bind_eq_ok_iff, liftProblem_eq_ok_iff]
  constructor
  · rintro ⟨expected, hq, getter, hg, h⟩
    cases getter with
    | some g =>
      obtain ⟨u, hu, h⟩ := bind_eq_ok_iff.1 h
      exact ⟨expected, hq, .inl ⟨g, u, hg, hu, (pure_eq_ok_iff.1 h).symm⟩⟩
    | none =>
      obtain ⟨field, hf, h⟩ := bind_eq_ok_iff.1 h
      cases field with
      | none => cases h
      | some m =>
        obtain ⟨place, hp, h⟩ := bind_eq_ok_iff.1 h
        exact ⟨expected, hq, .inr ⟨hg, m, place, liftProblem_eq_ok_iff.1 hf,
          liftProblem_eq_ok_iff.1 hp, (pure_eq_ok_iff.1 h).symm⟩⟩
  · rintro ⟨expected, hq, ⟨g, u, hg, hu, rfl⟩ | ⟨hg, m, place, hm, hp, rfl⟩⟩
    · exact ⟨expected, hq, some g, hg, bind_eq_ok_iff.2 ⟨u, hu, rfl⟩⟩
    · exact ⟨expected, hq, none, hg, bind_eq_ok_iff.2 ⟨some m, liftProblem_eq_ok_iff.2 hm,
        bind_eq_ok_iff.2 ⟨place, liftProblem_eq_ok_iff.2 hp, rfl⟩⟩⟩

/-- A step without a qualifier reads the property through a getter, if there is one. -/
theorem getProperty_getter {b : Value} (hn : n.qualifier = none) {g : Member}
    (hg : N.member? .getter b.ty none n = .ok (some g)) :
    N.getProperty b n = (g.get b).map fun u => some ⟨u, true⟩ := by
  unfold getProperty Scope.qualifier?
  rw [hn]
  dsimp only
  rw [liftProblem_ok, bind_ok, hg, liftProblem_ok, bind_ok]
  dsimp only
  cases g.get b <;> rfl

/-- A step without a qualifier reads the property from its field, if there is no getter. -/
theorem getProperty_field {b : Value} (hn : n.qualifier = none) {field : Member}
    (hg : N.member? .getter b.ty none n = .ok none)
    (hf : N.member? .field b.ty none n = .ok (some field)) :
    N.getProperty b n =
      Problem.lift ((field.place? b).map (Option.map fun f => ⟨f.value, false⟩)) := by
  unfold getProperty Scope.qualifier?
  rw [hn]
  dsimp only
  rw [liftProblem_ok, bind_ok, hg, liftProblem_ok, bind_ok, hf, liftProblem_ok, bind_ok]
  dsimp only
  cases field.place? b <;> rfl

/-- Where there is a getter, what was there before a write is what the getter gives. -/
theorem previous?_of_getter {b : Value} {expected previous} {g : Member}
    (hg : N.member? .getter b.ty expected n = .ok (some g)) :
    N.previous? b expected n = .ok previous ↔ ∃ u, g.get b = .ok u ∧ previous = some u := by
  unfold previous?
  rw [hg]
  constructor
  · intro h
    obtain ⟨_, hg', h⟩ := bind_eq_ok_iff.1 h
    cases hg'
    obtain ⟨u, hu, h⟩ := bind_eq_ok_iff.1 h
    exact ⟨u, hu, (pure_eq_ok_iff.1 h).symm⟩
  · rintro ⟨u, hu, rfl⟩
    exact bind_eq_ok_iff.2 ⟨some g, rfl, bind_eq_ok_iff.2 ⟨u, hu, rfl⟩⟩

/-- Writing a property goes by a setter, and by a field only if there is no setter. What was there
before is what can be read, which for a setter may be nothing. -/
theorem putProperty_eq_ok_iff {v previous : Option Value} {b b' : Value} :
    N.putProperty n v b = .ok previous b' ↔
      ∃ expected, N.scope.qualifier? n = .ok expected ∧
        ((∃ s w, N.member? .setter b.ty expected n = .ok (some s) ∧
            N.previous? b expected n = .ok previous ∧ Value.adapt? v s.ty = .ok w ∧
              s.set b w = .ok b') ∨
          (N.member? .setter b.ty expected n = .ok none ∧
            ∃ m old w, N.member? .field b.ty expected n = .ok (some m) ∧ m.get b = .ok old ∧
              Value.adapt? v m.ty = .ok w ∧ m.set b w = .ok b' ∧ previous = some old)) := by
  unfold putProperty
  rw [Update.atomic_eq_ok_iff]
  simp only [bind_eq_ok_iff, liftProblem_eq_ok_iff]
  constructor
  · rintro ⟨expected, hq, setter, hs, h⟩
    cases setter with
    | some s =>
      obtain ⟨p, hp, h⟩ := bind_eq_ok_iff.1 h
      obtain ⟨w, hw, h⟩ := bind_eq_ok_iff.1 h
      obtain ⟨o, ho, h⟩ := bind_eq_ok_iff.1 h
      cases pure_eq_ok_iff.1 h
      exact ⟨expected, hq, .inl ⟨s, w, hs, hp, liftFault_eq_ok_iff.1 hw, ho⟩⟩
    | none =>
      obtain ⟨field, hf, h⟩ := bind_eq_ok_iff.1 h
      cases field with
      | none => cases h
      | some m =>
        obtain ⟨old, hold, h⟩ := bind_eq_ok_iff.1 h
        obtain ⟨w, hw, h⟩ := bind_eq_ok_iff.1 h
        obtain ⟨o, ho, h⟩ := bind_eq_ok_iff.1 h
        cases pure_eq_ok_iff.1 h
        exact ⟨expected, hq, .inr ⟨hs, m, old, w, liftProblem_eq_ok_iff.1 hf, hold,
          liftFault_eq_ok_iff.1 hw, ho, rfl⟩⟩
  · rintro ⟨expected, hq, ⟨s, w, hs, hp, hw, ho⟩ | ⟨hs, m, old, w, hm, hold, hw, ho, rfl⟩⟩
    · refine ⟨expected, hq, some s, hs, bind_eq_ok_iff.2 ⟨previous, hp, ?_⟩⟩
      exact bind_eq_ok_iff.2 ⟨w, liftFault_eq_ok_iff.2 hw, bind_eq_ok_iff.2 ⟨b', ho, rfl⟩⟩
    · refine ⟨expected, hq, none, hs, bind_eq_ok_iff.2 ⟨some m, liftProblem_eq_ok_iff.2 hm, ?_⟩⟩
      refine bind_eq_ok_iff.2 ⟨old, hold, bind_eq_ok_iff.2 ⟨w, liftFault_eq_ok_iff.2 hw, ?_⟩⟩
      exact bind_eq_ok_iff.2 ⟨b', ho, rfl⟩

/-- Writing a property keeps the type of the bean. -/
theorem ty_of_putProperty {v previous : Option Value} {b b' : Value}
    (h : N.putProperty n v b = .ok previous b') : b'.ty = b.ty := by
  obtain ⟨expected, -, ⟨s, w, -, -, -, ho⟩ | ⟨-, m, old, w, -, -, -, ho, -⟩⟩ :=
    putProperty_eq_ok_iff.1 h
  · exact Member.ty_of_set ho
  · exact Member.ty_of_set ho

/-! ### Stepping in and putting back -/

/-- A step into a place leads to the same place after something else of its type was put there. -/
theorem descendInto_put {v w : Value} {f : Focus} (h : N.descendInto n v = .ok (.inPlace f))
    (hw : w.ty = f.value.ty) :
    N.descendInto n (f.put w) = .ok (.inPlace ⟨w, f.put⟩) ∧ (f.put w).ty = v.ty := by
  cases v with
  | seq form vs =>
    obtain ⟨g, hg, h⟩ := bind_eq_ok_iff.1 h
    cases h
    obtain ⟨i, hi, hn, hr, rfl⟩ := SeqForm.placeAt_eq_ok_iff.1 (liftProblem_eq_ok_iff.1 hg)
    have hi' : i < (vs.set i w).length := by simpa using hi
    have hp : form.placeAt (vs.set i w) n = .ok ⟨w, fun x => .seq form (vs.set i x)⟩ :=
      SeqForm.placeAt_eq_ok_iff.2 ⟨i, hi', hn, hr, by simp [List.set_set]⟩
    refine ⟨?_, ?_⟩
    · exact bind_eq_ok_iff.2 ⟨_, liftProblem_eq_ok_iff.2 hp, rfl⟩
    · simp only [Value.ty, List.length_set]
  | map form es =>
    obtain ⟨g, hg, h⟩ := bind_eq_ok_iff.1 h
    cases h
    obtain ⟨k, u, hn, hk, hu, rfl⟩ := Scope.placeUnder_eq_ok_iff.1 hg
    have hk' := (Scope.keyFor_congr (n := n)
      (N.scope.schema.map_fst_withEntry form es k w)).trans hk
    have hp : N.scope.placeUnder form (N.scope.schema.withEntry form es k w) n =
        .ok ⟨w, fun x => .map form (N.scope.schema.withEntry form es k x)⟩ :=
      Scope.placeUnder_eq_ok_iff.2 ⟨k, w, hn, hk', Schema.entry?_withEntry hu w,
        by simp only [Schema.withEntry_withEntry]⟩
    exact ⟨bind_eq_ok_iff.2 ⟨_, hp, rfl⟩, rfl⟩
  | set form vs =>
    obtain ⟨former, -, h⟩ := bind_eq_ok_iff.1 h
    split at h <;> cases h
  | bean path fields hidden =>
    obtain ⟨expected, m, hq, hm, hp⟩ := descendProperty_eq_inPlace_iff.1 h
    obtain ⟨hp', ht⟩ := Member.place?_put hp hw
    refine ⟨?_, ht⟩
    obtain ⟨fields', hidden', hb⟩ := Value.exists_of_ty_bean ht
    rw [hb] at hp' ht ⊢
    exact descendProperty_eq_inPlace_iff.2 ⟨expected, m, hq, hm, hp'⟩
  | _ => cases h

/-- Putting back what stands at a place inside a container leaves the container as it was. -/
theorem put_descendInto_value {v : Value} {f : Focus} (h : N.descendInto n v = .ok (.inPlace f)) :
    f.put f.value = v := by
  cases v with
  | seq form vs =>
    obtain ⟨g, hg, h⟩ := bind_eq_ok_iff.1 h
    cases h
    obtain ⟨i, hi, -, -, rfl⟩ := SeqForm.placeAt_eq_ok_iff.1 (liftProblem_eq_ok_iff.1 hg)
    simp only [List.set_getElem_self]
  | map form es =>
    obtain ⟨g, hg, h⟩ := bind_eq_ok_iff.1 h
    cases h
    obtain ⟨k, u, -, -, hu, rfl⟩ := Scope.placeUnder_eq_ok_iff.1 hg
    simp only [Schema.withEntry_self hu]
  | set form vs =>
    obtain ⟨former, -, h⟩ := bind_eq_ok_iff.1 h
    split at h <;> cases h
  | bean path fields hidden =>
    obtain ⟨expected, m, -, -, hp⟩ := descendProperty_eq_inPlace_iff.1 h
    exact Member.put_place?_value hp
  | _ => cases h

/-- Only elements of sets and properties without a field are copied. -/
theorem descendInto_copy_cases {v u : Value} {origin : Origin}
    (h : N.descendInto n v = .ok (.copy u origin)) :
    (∃ form vs former, v = .set form vs ∧ N.scope.schema.element? form vs former = some u ∧
        origin = .element former) ∨
      ∃ path, v.ty = .bean path ∧ N.descendProperty v n = .ok (.copy u origin) := by
  cases v with
  | seq form vs => obtain ⟨g, -, h⟩ := bind_eq_ok_iff.1 h; cases h
  | map form es => obtain ⟨g, -, h⟩ := bind_eq_ok_iff.1 h; cases h
  | set form vs =>
    obtain ⟨former, -, h⟩ := bind_eq_ok_iff.1 h
    split at h
    · next x hx => cases h; exact .inl ⟨form, vs, former, rfl, hx, rfl⟩
    · cases h
  | bean path fields hidden => exact .inr ⟨path, rfl, h⟩
  | _ => cases h

/-- Reading a step into a value that is absent is reported as such. -/
theorem get_absent {v : Value} (h : v.payload? = none) :
    N.get v n = .error Problem.nullTarget.failure := by
  unfold get Value.unwrapped
  rw [h]
  rfl

/-- Reading a step looks through the optional layers. -/
theorem get_congr {v w : Value} (h : v.payload? = w.payload?) : N.get v n = N.get w n := by
  unfold get Value.unwrapped
  rw [h]

/-- A step leads to a place in the content of a value, under the layers of the value. -/
theorem descend_eq_inPlace_iff {v : Value} {f : Focus} :
    N.descend v n = .ok (.inPlace f) ↔
      ∃ w g, v.payload? = some w ∧ N.descendInto n w = .ok (.inPlace g) ∧
        f = ⟨g.value, fun x => v.withPayload (g.put x)⟩ := by
  unfold descend
  rw [Focus.present_whole]
  cases v.payload? with
  | none => simp [liftProblem_error, bind_error]
  | some w =>
    simp only [Option.some.injEq, exists_and_left, exists_eq_left']
    rw [bind_eq_ok_iff]
    constructor
    · rintro ⟨outer, ho, h⟩
      cases liftProblem_eq_ok_iff.1 ho
      obtain ⟨d, hd, h⟩ := bind_eq_ok_iff.1 h
      cases d with
      | inPlace g => cases h; exact ⟨g, hd, rfl⟩
      | copy u o => cases h
    · rintro ⟨g, hg, rfl⟩
      exact ⟨_, liftProblem_eq_ok_iff.2 rfl, bind_eq_ok_iff.2 ⟨_, hg, rfl⟩⟩

/-- A step into a value that is absent is reported as such. -/
theorem descend_absent {v : Value} (h : v.payload? = none) :
    N.descend v n = .error Problem.nullTarget.failure := by
  unfold descend
  rw [Focus.present_whole, h]
  rfl

/-- A step without a qualifier that finds a field goes to its place. -/
theorem descend_field {v b : Value} {path : String} {field : Member} (hb : v.payload? = some b)
    (hbt : b.ty = .bean path) (hn : n.qualifier = none)
    (hf : N.member? .field b.ty none n = .ok (some field))
    (hl : field.missing v = false) :
    N.descend v n = match field.place? v with
      | .ok (some f) => .ok (.inPlace f)
      | .ok none => .error Problem.nullTarget.failure
      | .error e => .error e.failure := by
  obtain ⟨fields, hidden, rfl⟩ := Value.exists_of_ty_bean hbt
  rw [Member.missing, Member.place?_payload hb] at hl
  rw [Member.place?_payload hb]
  unfold descend
  rw [Focus.present_whole, hb]
  dsimp only
  rw [liftProblem_ok, bind_ok]
  show (N.descendProperty _ n >>= _) = _
  unfold descendProperty Scope.qualifier?
  rw [hn]
  dsimp only
  rw [liftProblem_ok, bind_ok, hf, liftProblem_ok, bind_ok]
  dsimp only
  rcases hp : field.place? (.bean path fields hidden) with e | _ | f
  · rfl
  · rw [hp] at hl; cases hl
  · rfl

/-- A step with the number of an item leads to that item. -/
theorem descend_seq {form : SeqForm} {vs : List Value} {i : Nat} (hi : i < vs.length)
    (hn : n.wild = false) (hr : readInteger .i64 n.text = .ok (i : Int)) :
    N.descend (.seq form vs) n = .ok (.inPlace ⟨vs[i], fun w => .seq form (vs.set i w)⟩) := by
  have hp : form.placeAt vs n = .ok ⟨vs[i], fun w => .seq form (vs.set i w)⟩ :=
    SeqForm.placeAt_eq_ok_iff.2 ⟨i, hi, hn, hr, rfl⟩
  have hd : N.descendInto n (.seq form vs) =
      .ok (.inPlace ⟨vs[i], fun w => .seq form (vs.set i w)⟩) :=
    bind_eq_ok_iff.2 ⟨_, liftProblem_eq_ok_iff.2 hp, rfl⟩
  exact descend_eq_inPlace_iff.2 ⟨_, _, rfl, hd, rfl⟩

/-- A step leads to a copy exactly if it does so in the content of a value. -/
theorem descend_eq_copy_iff {v u : Value} {origin : Origin} :
    N.descend v n = .ok (.copy u origin) ↔
      ∃ w, v.payload? = some w ∧ N.descendInto n w = .ok (.copy u origin) := by
  unfold descend
  rw [Focus.present_whole]
  cases v.payload? with
  | none => simp [liftProblem_error, bind_error]
  | some w =>
    simp only [Option.some.injEq, exists_eq_left']
    rw [bind_eq_ok_iff]
    constructor
    · rintro ⟨outer, ho, h⟩
      cases liftProblem_eq_ok_iff.1 ho
      obtain ⟨d, hd, h⟩ := bind_eq_ok_iff.1 h
      cases d with
      | inPlace g => cases h
      | copy u' o => cases h; exact hd
    · intro h
      exact ⟨_, liftProblem_eq_ok_iff.2 rfl, bind_eq_ok_iff.2 ⟨_, h, rfl⟩⟩

/-- **A place stays where it is.**  After another value of its type was put there, the same step
leads to that value, and what is put there then takes its place. -/
theorem descend_put {v w : Value} {f : Focus} (h : N.descend v n = .ok (.inPlace f))
    (hw : w.ty = f.value.ty) :
    N.descend (f.put w) n = .ok (.inPlace ⟨w, f.put⟩) ∧ (f.put w).ty = v.ty := by
  obtain ⟨u, g, hu, hg, rfl⟩ := descend_eq_inPlace_iff.1 h
  obtain ⟨hg', ht⟩ := descendInto_put hg hw
  have hp := Value.payload?_of_ty_eq hu ht
  refine ⟨descend_eq_inPlace_iff.2 ⟨g.put w, ⟨w, g.put⟩, ?_, hg', ?_⟩, Value.ty_withPayload hu ht⟩
  · exact Value.payload?_withPayload hu hp
  · simp only [Value.withPayload_withPayload hu hp]

/-- Putting back what stands at a place changes nothing. -/
theorem put_descend_value {v : Value} {f : Focus} (h : N.descend v n = .ok (.inPlace f)) :
    f.put f.value = v := by
  obtain ⟨u, g, hu, hg, rfl⟩ := descend_eq_inPlace_iff.1 h
  simp only [put_descendInto_value hg, Value.withPayload_payload hu]

end Navigator
end BeanPath
