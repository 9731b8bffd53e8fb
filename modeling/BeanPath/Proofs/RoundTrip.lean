import BeanPath.Proofs.Readings
import BeanPath.Samples

/-!
# What is written is read

Reading and writing go different ways.  Reading prefers getters, writing prefers setters, and
stepping in prefers fields; a copy goes back through its setter with its optional layers adapted,
and a new key may be the first of its map.  Where a property is a field alone, or a getter and a
setter that belong together, the ways meet: a write gives back what a read gave before it, and a
read after it gives what was written, as it fits the place (`write_then_read`).
-/

namespace BeanPath

open Update

namespace Navigator

variable {N : Navigator} {n : Name}

/-! ### Steps that read back -/

/-- A property that is a getter and a setter of one type, without a field of its name, where the
getter gives what was set. -/
def PairedProperty (N : Navigator) (b : Value) (n : Name) : Prop :=
  ∃ expected getter setter, N.scope.qualifier? n = .ok expected ∧
    N.member? .field b.ty expected n = .ok none ∧
    N.member? .getter b.ty expected n = .ok (some getter) ∧
    N.member? .setter b.ty expected n = .ok (some setter) ∧
    getter.ty = setter.ty ∧ ∀ w b', setter.set b w = .ok b' → getter.get b' = .ok w

/-- A step into a sequence, a map or a bean, under optional layers, that gives back what is put
there.  Keys of any type must be equal to themselves. -/
def ReadsBack (N : Navigator) (v : Value) (n : Name) : Prop :=
  match v.payload? with
  | some (.seq _ _) => True
  | some (.map form es) =>
    form = .dyn → ∀ k, N.scope.keyFor form es n = .ok k → N.scope.schema.same k k = some true
  | some (.bean path fields hidden) =>
    N.PlainProperty (.bean path fields hidden) n ∨ N.PairedProperty (.bean path fields hidden) n
  | _ => False

/-- A step to a plain property reads back. -/
theorem readsBack_of_plain {b : Value} {path : String} (hb : b.ty = .bean path)
    (hp : N.PlainProperty b n) : N.ReadsBack b n := by
  obtain ⟨fields, hidden, rfl⟩ := Value.exists_of_ty_bean hb
  exact .inl hp

/-- Every step along names, as far as they lead, gives back what is put there. -/
def ReadsBackAlong (N : Navigator) : Value → List Name → Prop
  | _, [] => True
  | v, n :: rest => N.ReadsBack v n ∧ ∀ r, N.get v n = .ok (some r) → N.ReadsBackAlong r.value rest

/-- The type that a property is written with. -/
def propertyType? (N : Navigator) (b : Value) (n : Name) : Except Problem (Option Ty) := do
  let expected ← N.scope.qualifier? n
  match ← N.member? .setter b.ty expected n with
  | some setter => return some setter.ty
  | none => return (← N.member? .field b.ty expected n).map Member.ty

/-- The declared type of the place that a step leads to, if there is one. -/
def slot? (N : Navigator) (v : Value) (n : Name) : Option Ty :=
  match v.payload? with
  | some (.seq form _) => form.item?
  | some (.map form _) => form.value?
  | some (.bean path fields hidden) =>
    (N.propertyType? (.bean path fields hidden) n).toOption.join
  | _ => none

/-- The declared type of the place that names lead to.  The root keeps its own type. -/
def slotAt? (N : Navigator) : Value → List Name → Option Ty
  | v, [] => some v.ty
  | v, [n] => N.slot? v n
  | v, n :: m :: rest =>
    match N.get v n with
    | .ok (some r) => N.slotAt? r.value (m :: rest)
    | _ => none

/-- A property with a setter is written with the type of the setter. -/
theorem propertyType?_of_setter {b : Value} {expected : Option Ty} {s : Member}
    (hq : N.scope.qualifier? n = .ok expected)
    (hs : N.member? .setter b.ty expected n = .ok (some s)) :
    N.propertyType? b n = .ok (some s.ty) :=
  bind_eq_ok_iff.2 ⟨expected, hq, bind_eq_ok_iff.2 ⟨some s, hs, rfl⟩⟩

/-- A property without a setter is written with the type of its field. -/
theorem propertyType?_of_field {b : Value} {expected : Option Ty} {m : Member}
    (hq : N.scope.qualifier? n = .ok expected)
    (hs : N.member? .setter b.ty expected n = .ok none)
    (hm : N.member? .field b.ty expected n = .ok (some m)) :
    N.propertyType? b n = .ok (some m.ty) :=
  bind_eq_ok_iff.2 ⟨expected, hq, bind_eq_ok_iff.2 ⟨none, hs, bind_eq_ok_iff.2 ⟨some m, hm, rfl⟩⟩⟩

/-! ### One step -/

/-- Writing to a position gives what was read there, and leaves to be read there what was
written. -/
theorem get_of_putAt {form : SeqForm} {vs vs' : List Value} {x previous : Option Value}
    (hn : n.wild = false) (h : form.putAt n x vs = .ok previous vs') :
    (∃ r, N.get (.seq form vs) n = .ok r ∧ r.map Reading.value = previous) ∧
      ∃ w o, Value.fit x form.item? = .ok w ∧ N.get (.seq form vs') n = .ok (some ⟨w, o⟩) := by
  obtain ⟨i, hi, w, hr, hw, -, rfl, rfl⟩ := (SeqForm.putAt_eq_ok_iff hn).1 h
  refine ⟨⟨_, get_seq hi hn hr, rfl⟩, w, false, hw, ?_⟩
  rw [get_seq (i := i) (by simpa using hi) hn hr, List.getElem_set_self]

/-- Writing under a key gives what was read under it, and leaves to be read under it what was
written. In a map for keys of any type the key has to be the same as itself, or nothing finds it
again. -/
theorem get_of_putUnder {form : MapForm} {es es' : List (Value × Value)}
    {x previous : Option Value}
    (hk : form = .dyn → ∀ k, N.scope.keyFor form es n = .ok k →
      N.scope.schema.same k k = some true)
    (h : N.scope.putUnder form n x es = .ok previous es') :
    (∃ r, N.get (.map form es) n = .ok r ∧ r.map Reading.value = previous) ∧
      ∃ w o, Value.fit x form.value? = .ok w ∧ N.get (.map form es') n = .ok (some ⟨w, o⟩) := by
  obtain ⟨k, w, hn, hkey, hw, hi⟩ := Scope.putUnder_eq_ok_iff.1 h
  obtain ⟨hkf, -, rfl, rfl⟩ := Schema.insertEntry_eq_ok_iff.1 hi
  refine ⟨⟨_, get_map hn hkey, ?_⟩, w, false, hw, ?_⟩
  · rw [Option.map_map]
    exact Option.map_id'
  · cases hl : N.scope.schema.entry? form es k with
    | some u =>
      rw [Option.isSome_some, if_pos rfl,
        get_map hn ((Scope.keyFor_congr (Schema.map_fst_withEntry ..)).trans hkey),
        Schema.entry?_withEntry hl]
      rfl
    | none =>
      have hself := Schema.isKey_self (S := N.scope.schema) hkf fun hd => hk hd k hkey
      rw [Option.isSome_none, if_neg Bool.false_ne_true, get_map hn (Scope.keyFor_add hkey w),
        Schema.entry?_add hl hself]
      rfl

/-- Writing a property gives what was read from it, and leaves to be read from it what was written,
if the property is a field alone or a getter and a setter that belong together. -/
theorem get_of_putProperty {b b' : Value} {path : String} {x previous : Option Value}
    (hb : b.ty = .bean path) (hp : N.PlainProperty b n ∨ N.PairedProperty b n)
    (h : N.putProperty n x b = .ok previous b') :
    (∃ r, N.get b n = .ok r ∧ r.map Reading.value = previous) ∧
      ∃ w o, Value.fit x (N.propertyType? b n).toOption.join = .ok w ∧
        N.get b' n = .ok (some ⟨w, o⟩) := by
  have ht := ty_of_putProperty h
  rw [get_bean hb, get_bean (ht.trans hb)]
  obtain ⟨expected, hq, h⟩ := putProperty_eq_ok_iff.1 h
  rcases hp with ⟨m, expected', hq', hm, hg, hs⟩ | ⟨expected', g, s, hq', hf, hg, hs, -, hlaw⟩
  · cases hq.symm.trans hq'
    rcases h with ⟨s', w, hs', -⟩ | ⟨-, m', old, w, hm', hold, hw, ho, rfl⟩
    · cases hs.symm.trans hs'
    · cases hm.symm.trans hm'
      obtain ⟨d, hd⟩ := Declaration.exists_field_of_role (Schema.role_of_member? hm)
      obtain ⟨f, hf, rfl⟩ := (Member.get_field_eq_ok_iff hd).1 hold
      obtain ⟨f', hf', hwt, rfl⟩ := (Member.set_field_eq_ok_iff hd).1 ho
      cases hf.symm.trans hf'
      rw [propertyType?_of_field hq hs hm]
      refine ⟨⟨_, getProperty_eq_ok_iff.2 ⟨expected, hq, .inr ⟨hg, m, _, hm, hf, rfl⟩⟩, rfl⟩, w,
        false, hw, ?_⟩
      rw [← ht] at hg hm
      exact getProperty_eq_ok_iff.2
        ⟨expected, hq, .inr ⟨hg, m, _, hm, (Member.place?_put hf hwt).1, rfl⟩⟩
  · cases hq.symm.trans hq'
    rcases h with ⟨s', w, hs', hprev, hw, ho⟩ | ⟨hs', -⟩
    · cases hs.symm.trans hs'
      obtain ⟨u, hu, rfl⟩ := (previous?_of_getter hg).1 hprev
      rw [propertyType?_of_setter hq hs]
      refine ⟨⟨_, getProperty_eq_ok_iff.2 ⟨expected, hq, .inl ⟨g, u, hg, hu, rfl⟩⟩, rfl⟩, w,
        true, hw, ?_⟩
      rw [← ht] at hg
      exact getProperty_eq_ok_iff.2 ⟨expected, hq, .inl ⟨g, w, hg, hlaw w b' ho, rfl⟩⟩
    · cases hs.symm.trans hs'

/-- **One step reads back what is put there**, and what a put gives back is what was read. -/
theorem get_of_put {v v' : Value} {x previous : Option Value} (hn : n.wild = false)
    (hb : N.ReadsBack v n) (h : N.put n x v = .ok previous v') :
    (∃ r, N.get v n = .ok r ∧ r.map Reading.value = previous) ∧
      ∃ w o, Value.fit x (N.slot? v n) = .ok w ∧ N.get v' n = .ok (some ⟨w, o⟩) := by
  obtain ⟨p, p', hp, h, rfl⟩ := present_eq_ok_iff.1 h
  unfold ReadsBack at hb
  unfold slot?
  rw [get_congr (hp.trans (Value.payload?_payload hp).symm)]
  rw [hp] at hb ⊢
  cases p with
  | seq form vs =>
    have h : items form vs (form.putAt n x) (.seq form vs) = .ok previous p' := h
    obtain ⟨vs', hvs, rfl⟩ := within_eq_ok_iff.1 h
    rw [get_congr (w := .seq form vs') (Value.payload?_withPayload hp rfl)]
    exact get_of_putAt hn hvs
  | map form es =>
    have h : entries form es (N.scope.putUnder form n x) (.map form es) = .ok previous p' := h
    obtain ⟨es', hes, rfl⟩ := within_eq_ok_iff.1 h
    rw [get_congr (w := .map form es') (Value.payload?_withPayload hp rfl)]
    exact get_of_putUnder hb hes
  | bean path fields hidden =>
    have hp' := Value.payload?_of_ty_eq hp (ty_of_putProperty h)
    rw [get_congr ((Value.payload?_withPayload hp hp').trans hp'.symm)]
    exact get_of_putProperty rfl hb h
  | _ => exact hb.elim

/-! ### Whole routes -/

/-- A step that reads back and leads into its container reads without a getter. -/
theorem ReadsBack.noGetter {v : Value} {f : Focus} (hb : N.ReadsBack v n)
    (hd : N.descend v n = .ok (.inPlace f)) : N.NoGetter v.ty n := by
  intro hk
  obtain ⟨w, g, hw, hd, rfl⟩ := descend_eq_inPlace_iff.1 hd
  have ht := Value.ty_of_payload? hw
  unfold ReadsBack at hb
  rw [hw] at hb
  rw [← ht] at hk ⊢
  cases w with
  | bean path fields hidden =>
    rcases hb with ⟨-, expected, hq, -, hg, -⟩ | ⟨expected, g', s, hq, hf, -⟩
    · exact ⟨expected, hq, hg⟩
    · obtain ⟨expected', m, hq', hm, -⟩ := descendProperty_eq_inPlace_iff.1 hd
      cases hq.symm.trans hq'
      cases hf.symm.trans hm
  | seq form vs => cases form <;> cases hk
  | map form es => cases form <;> cases hk
  | set form vs => exact hb.elim
  | _ => cases hk

/-- A copy that reads back goes through the getter and the setter that belong together. -/
theorem ReadsBack.of_copy {v w : Value} {origin : Origin} (hb : N.ReadsBack v n)
    (hd : N.descend v n = .ok (.copy w origin)) :
    N.get v n = .ok (some ⟨w, true⟩) ∧
      ∀ x v', N.reattach origin x v = .ok () v' →
        ∃ y, y.payload? = x.payload? ∧ N.get v' n = .ok (some ⟨y, true⟩) := by
  obtain ⟨b, hp, hd⟩ := descend_eq_copy_iff.1 hd
  unfold ReadsBack at hb
  rw [hp] at hb
  rw [get_congr (hp.trans (Value.payload?_payload hp).symm)]
  obtain ⟨_, _, _, rfl, -⟩ | ⟨path, hty, hd⟩ := descendInto_copy_cases hd
  · exact hb.elim
  obtain ⟨fields, hidden, rfl⟩ := Value.exists_of_ty_bean hty
  obtain ⟨expected, g, s, hq, hf, hg, hw, hs, rfl⟩ := descendProperty_eq_copy_iff.1 hd
  rcases hb with ⟨m, expected', hq', hm, -⟩ | ⟨expected', g', s', hq', -, hg', hs', ht, hlaw⟩
  · cases hq.symm.trans hq'
    cases hf.symm.trans hm
  · cases hq.symm.trans hq'
    cases hg.symm.trans hg'
    rw [ht] at hs
    -- The setter for the copy is looked up by the type of the getter, which is its own.
    cases hs.symm.trans (Schema.member?_setter_own rfl rfl hs')
    refine ⟨getProperty_eq_ok_iff.2 ⟨expected, hq, .inl ⟨g, w, hg, hw, rfl⟩⟩, ?_⟩
    intro x v' h
    obtain ⟨b, b', hp', h, rfl⟩ := present_eq_ok_iff.1 h
    cases hp.symm.trans hp'
    obtain ⟨y, hy, h⟩ := bind_eq_ok_iff.1 (atomic_eq_ok_iff.1 h)
    obtain ⟨o, ho, h⟩ := bind_eq_ok_iff.1 h
    cases pure_eq_ok_iff.1 h
    have htb := Member.ty_of_set ho
    have hpb := Value.payload?_of_ty_eq hp htb
    refine ⟨y, Value.payload?_adapt (liftFault_eq_ok_iff.1 hy), ?_⟩
    rw [get_congr ((Value.payload?_withPayload hp hpb).trans hpb.symm), get_bean htb]
    rw [← htb] at hg
    exact getProperty_eq_ok_iff.2 ⟨expected, hq, .inl ⟨g, y, hg, hlaw y b' ho, rfl⟩⟩

/-- **Updates along names read back.**  What is given back is what the names led to before, and
what they lead to afterwards is what was written. -/
theorem follow_of_update {names : List Name} {v v' : Value} {x previous : Option Value}
    (hn : ∀ n ∈ names, n.wild = false) (hb : N.ReadsBackAlong v names)
    (h : N.update (.put x) names v = .ok previous v') :
    N.follow v names = .ok previous ∧
      ∃ w, Value.fit x (N.slotAt? v names) = .ok w ∧ N.follow v' names = .ok w.content? := by
  induction names generalizing v v' previous with
  | nil => cases h
  | cons n names ih =>
    obtain ⟨hb, hrest⟩ := hb
    have hn₁ := hn n List.mem_cons_self
    cases names with
    | nil =>
      rw [update_singleton, map_apply] at h
      cases hp : N.put n x v with
      | error e w => rw [edit, hp] at h; cases h
      | ok p w =>
        rw [edit, hp] at h
        cases h
        obtain ⟨⟨r, hr, rfl⟩, w', o, hw', hget⟩ := get_of_put hn₁ hb hp
        refine ⟨bind_eq_ok_iff.2 ⟨r, hr, ?_⟩, w', hw', bind_eq_ok_iff.2 ⟨_, hget, rfl⟩⟩
        rw [Option.bind_map]
        rfl
    | cons m rest =>
      have hn₂ : ∀ k ∈ m :: rest, k.wild = false := fun k hk => hn k (List.mem_cons_of_mem _ hk)
      rw [update_cons_cons _ hn₁ (.bean ""), Layer.visit_key] at h
      cases hd : N.descend v n with
      | error e => rw [hd] at h; cases h
      | ok d =>
        rw [hd] at h
        cases d with
        | inPlace f =>
          have hg := hb.noGetter hd
          have hget := get_of_descend hg hd
          obtain ⟨w', hu, rfl⟩ := within_eq_ok_iff.1 h
          -- The part keeps its type, so the step leads to it again.
          obtain ⟨hd', ht⟩ := descend_put hd ((N.keepsType_update _ _).ok hu)
          obtain ⟨hfollow, w, hw, hfollow'⟩ := ih hn₂ (hrest _ hget) hu
          refine ⟨?_, w, ?_, ?_⟩
          · rw [follow_cons_of_get hget, hfollow]
          · rw [slotAt?, hget]
            exact hw
          · rw [follow_cons_of_get (get_of_descend (ht ▸ hg) hd'), hfollow']
        | copy u origin =>
          -- The copy goes back through a setter, and what its getter gives then may have other
          -- optional layers; what follows does not see them.
          obtain ⟨hget, hback⟩ := hb.of_copy hd
          have h : Layer.onCopy u (N.reattach origin) _ v = .ok previous v' := h
          obtain ⟨u', hu, hr⟩ := Layer.onCopy_eq_ok_iff.1 h
          obtain ⟨hfollow, w, hw, hfollow'⟩ := ih hn₂ (hrest _ hget) hu
          obtain ⟨y, hy, hget'⟩ := hback u' v' hr
          refine ⟨?_, w, ?_, ?_⟩
          · rw [follow_cons_of_get hget, hfollow]
          · rw [slotAt?, hget]
            exact hw
          · rw [follow_cons_of_get hget', follow_congr hy, hfollow']

end Navigator

/-- **What is written is read.**  Along a path without a star whose steps read back, a successful
write gives back what a read gave just before, and a read just after gives what was written, adapted
to the declared type of its place, with one optional layer removed. -/
theorem write_then_read (A : Access) {path : String} {names : List Name}
    (hr : Path.route path = .ok names) (hn : ∀ n ∈ names, n.wild = false)
    {v previous : Option Value} {root root' : Value} (hb : A.ReadsBackAlong root names)
    (hw : A.write path v root = .ok previous root') :
    A.read root path = .ok previous ∧
      ∃ w, Value.fit v (A.slotAt? root names) = .ok w ∧ A.read root' path = .ok w.content? := by
  rw [Access.read_eq_ok_iff hr]
  simp only [Access.read_eq_ok_iff hr]
  rcases (Access.write_eq_ok_iff hr).1 hw with ⟨rfl, hw⟩ | ⟨-, hw⟩
  · obtain ⟨w, hw', h⟩ := bind_eq_ok_iff.1 (atomic_eq_ok_iff.1 hw)
    split at h
    · cases pure_eq_ok_iff.1 h
      exact ⟨rfl, _, liftFault_eq_ok_iff.1 hw', rfl⟩
    · cases h
  · exact Navigator.follow_of_update hn hb hw

/-- One item under the number five, which has a value. -/
def Sample.itemsOf (value : Int) : Value :=
  .map (.table .tree (.int .i32) item.ty)
    [(.int .i32 5, item.value.withField "value" (.int .i32 value))]

/-- A field, a key and a field: the write gives the number that was there, and the read gives the
new one. -/
theorem write_then_read_in_store :
    let A : Access := { scope := ⟨Sample.schema, Sample.freshRegistry⟩ }
    let root (value : Int) := Sample.store.value.withField "by_id" (Sample.itemsOf value)
    A.write "by_id.5.value" (some (.int .i32 7)) (root 0) = .ok (some (.int .i32 0)) (root 7) ∧
      A.read (root 0) "by_id.5.value" = .ok (some (.int .i32 0)) ∧
      A.read (root 7) "by_id.5.value" = .ok (some (.int .i32 7)) := by
  intro A root
  have hw : A.write "by_id.5.value" (some (.int .i32 7)) (root 0) =
      .ok (some (.int .i32 0)) (root 7) := by decide +kernel
  have hr : Path.route "by_id.5.value" =
      .ok [⟨"by_id", none, false, 0⟩, ⟨"5", none, false, 6⟩, ⟨"value", none, false, 8⟩] := by
    decide +kernel
  have hitems : A.get (root 0) ⟨"by_id", none, false, 0⟩ =
      .ok (some ⟨Sample.itemsOf 0, false⟩) := by decide +kernel
  have hitem : A.get (Sample.itemsOf 0) ⟨"5", none, false, 6⟩ =
      .ok (some ⟨Sample.item.value, false⟩) := by decide +kernel
  have hb : A.ReadsBackAlong (root 0)
      [⟨"by_id", none, false, 0⟩, ⟨"5", none, false, 6⟩, ⟨"value", none, false, 8⟩] := by
    refine ⟨Navigator.readsBack_of_plain rfl (by decide +kernel), fun r h => ?_⟩
    cases hitems.symm.trans h
    refine ⟨nofun, fun r h => ?_⟩
    cases hitem.symm.trans h
    exact ⟨Navigator.readsBack_of_plain rfl (by decide +kernel), fun _ _ => trivial⟩
  have hslot : A.slotAt? (root 0)
      [⟨"by_id", none, false, 0⟩, ⟨"5", none, false, 6⟩, ⟨"value", none, false, 8⟩] =
        some (.int .i32) := by decide +kernel
  obtain ⟨hbefore, w, hfit, hafter⟩ := write_then_read A hr (by decide) hb hw
  rw [hslot] at hfit
  cases hfit
  exact ⟨hw, hbefore, hafter⟩

end BeanPath
