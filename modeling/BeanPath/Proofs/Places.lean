import BeanPath.Member.Use
import BeanPath.Proofs.Payloads

/-!
# Places of members

A member is reached from its owner through the fields that embed the parents, each under its
optional layers.  `Value.embedded` reads along such fields and `Value.withEmbedded` writes; the
places that members are used at are exactly these two (`Member.receiver_eq_ok_iff`,
`Member.place?_eq_ok_some_iff`).  They obey the laws of a lens as long as types are kept: reading
after writing gives what was written, the second of two writes counts, and writing back what was
read changes nothing.  A member of a value is that of its payload (`Member.get_payload`,
`Member.set_payload`).  Two fields are independent if neither lies inside the other
(`Member.Apart`), parents included.
-/

namespace BeanPath

/-! ### The first member of a list with a property -/

section Slot

variable {α : Type} {p : α → Bool}

/-- Changing the first member with a property, in a way that the property does not notice, changes
what is found by it and nothing else. -/
theorem find?_updateFirst {f : α → α} (h : ∀ a, p (f a) = p a) (as : List α) :
    (updateFirst p f as).find? p = (as.find? p).map f := by
  induction as with
  | nil => rfl
  | cons a as ih =>
    by_cases hp : p a
    · simp [updateFirst, hp, h]
    · simp [updateFirst, hp, ih]

/-- What is found by another property stays the same if neither the old member nor the new one has
that property. -/
theorem find?_updateFirst_of_not {q : α → Bool} {f : α → α} (as : List α)
    (h : ∀ a ∈ as.find? p, q a = false ∧ q (f a) = false) :
    (updateFirst p f as).find? q = as.find? q := by
  induction as with
  | nil => rfl
  | cons a as ih =>
    by_cases hp : p a
    · obtain ⟨ha, hfa⟩ := h a (by simp [hp])
      simp [updateFirst, hp, ha, hfa]
    · have ih := ih (by simpa [hp] using h)
      by_cases hq : q a <;> simp [updateFirst, hp, hq, ih]

/-- The second of two changes of a member is the one that counts, if it does not look at what was
there. -/
theorem updateFirst_updateFirst {f g : α → α} (hf : ∀ a, p (f a) = p a)
    (hg : ∀ a, g (f a) = g a) (as : List α) :
    updateFirst p g (updateFirst p f as) = updateFirst p g as := by
  induction as with
  | nil => rfl
  | cons a as ih => by_cases hp : p a <;> simp [updateFirst, hp, hf, hg, ih]

/-- Changing a member to what it is changes nothing. -/
theorem updateFirst_of_find? {f : α → α} (as : List α) (h : ∀ a ∈ as.find? p, f a = a) :
    updateFirst p f as = as := by
  induction as with
  | nil => rfl
  | cons a as ih =>
    by_cases hp : p a
    · simp [updateFirst, hp, h a (by simp [hp])]
    · simp [updateFirst, hp, ih (by simpa [hp] using h)]

end Slot

namespace Value

/-! ### One field -/

/-- The value of a field is that of the first field with the name. -/
theorem lookup_eq_find? (fields : List (String × Value)) (n : String) :
    fields.lookup n = (fields.find? fun f => f.1 == n).map (·.2) := by
  induction fields with
  | nil => rfl
  | cons f fields ih =>
    obtain ⟨m, v⟩ := f
    by_cases h : m = n
    · subst h; simp
    · simp [List.lookup_cons, h, beq_false_of_ne (Ne.symm h), ih]

/-- Only beans have fields. -/
theorem exists_of_field? {v u : Value} {n : String} (h : v.field? n = some u) :
    ∃ path fields hidden, v = bean path fields hidden ∧ fields.lookup n = some u := by
  cases v with
  | bean path fields hidden => exact ⟨path, fields, hidden, rfl, h⟩
  | _ => cases h

/-- Writing a field leaves the type of the bean as it is. -/
theorem ty_withField (v : Value) (n : String) (w : Value) : (v.withField n w).ty = v.ty := by
  cases v <;> rfl

/-- A field that is there has the value that was written to it. -/
theorem field?_withField_self {v u : Value} {n : String} (h : v.field? n = some u) (w : Value) :
    (v.withField n w).field? n = some w := by
  obtain ⟨path, fields, hidden, rfl, hl⟩ := exists_of_field? h
  rw [lookup_eq_find?] at hl
  obtain ⟨f, hf, -⟩ := Option.map_eq_some_iff.1 hl
  simp only [withField, field?, lookup_eq_find?]
  rw [find?_updateFirst (p := fun e => e.1 == n) (f := fun e => (e.1, w)) fun _ => rfl, hf]
  rfl

/-- Writing a field leaves every field of another name as it is. -/
theorem field?_withField_of_ne {n m : String} (h : m ≠ n) (v w : Value) :
    (v.withField n w).field? m = v.field? m := by
  cases v with
  | bean path fields hidden =>
    simp only [withField, field?, lookup_eq_find?]
    rw [find?_updateFirst_of_not]
    intro f hf
    have hn : f.1 = n := by simpa using List.find?_some hf
    simp [hn, Ne.symm h]
  | _ => rfl

/-- Of two writes to a field the second counts. -/
theorem withField_withField (v : Value) (n : String) (w x : Value) :
    (v.withField n w).withField n x = v.withField n x := by
  cases v with
  | bean path fields hidden =>
    exact congrArg (bean path · hidden) (updateFirst_updateFirst (p := fun e => e.1 == n)
      (f := fun e => (e.1, w)) (g := fun e => (e.1, x)) (fun _ => rfl) (fun _ => rfl) fields)
  | _ => rfl

/-- Writing back what is in a field changes nothing. -/
theorem withField_self {v u : Value} {n : String} (h : v.field? n = some u) :
    v.withField n u = v := by
  obtain ⟨path, fields, hidden, rfl, hl⟩ := exists_of_field? h
  rw [lookup_eq_find?] at hl
  refine congrArg (bean path · hidden) (updateFirst_of_find? fields fun f hf => ?_)
  rw [Option.mem_def.1 hf] at hl
  cases hl
  rfl

/-! ### The bean that fields lead to -/

/-- The bean that is embedded in fields, each under its optional layers. -/
def embedded : Value → List String → Except Problem Value
  | v, [] => .ok v
  | v, n :: ns =>
    match v.field? n with
    | none => .error (.noMember v.ty n)
    | some u =>
      match u.payload? with
      | none => .error .nullTarget
      | some w => w.embedded ns

/-- Puts another bean in place of the one that is embedded in fields. -/
def withEmbedded : Value → List String → Value → Value
  | _, [], x => x
  | v, n :: ns, x =>
    match v.field? n with
    | none => v
    | some u =>
      match u.payload? with
      | none => v
      | some w => v.withField n (u.withPayload (w.withEmbedded ns x))

/-- A bean is embedded in a field and further ones exactly if the field is there, its value is not
absent, and the bean is embedded in that value. -/
theorem embedded_cons_eq_ok_iff {v b : Value} {n : String} {ns : List String} :
    v.embedded (n :: ns) = .ok b ↔
      ∃ u w, v.field? n = some u ∧ u.payload? = some w ∧ w.embedded ns = .ok b := by
  rw [embedded]
  cases v.field? n with
  | none => simp
  | some u => cases hu : u.payload? <;> simp [hu]

/-- A bean is written to fields from the inside out, each value under the optional layers that it
had. -/
theorem withEmbedded_cons {v u w : Value} {n : String} (hv : v.field? n = some u)
    (hu : u.payload? = some w) (ns : List String) (x : Value) :
    v.withEmbedded (n :: ns) x = v.withField n (u.withPayload (w.withEmbedded ns x)) := by
  rw [withEmbedded, hv]
  simp only [hu]

/-- Another bean of the same type does not change the type of what it is embedded in. -/
theorem ty_withEmbedded {v b x : Value} {ns : List String} (h : v.embedded ns = .ok b)
    (hx : x.ty = b.ty) : (v.withEmbedded ns x).ty = v.ty := by
  cases ns with
  | nil => cases h; exact hx
  | cons n ns =>
    obtain ⟨u, w, hv, hu, hw⟩ := embedded_cons_eq_ok_iff.1 h
    rw [withEmbedded_cons hv hu, ty_withField]

/-- Writing back the bean that was read changes nothing. -/
theorem withEmbedded_embedded {v b : Value} {ns : List String} (h : v.embedded ns = .ok b) :
    v.withEmbedded ns b = v := by
  induction ns generalizing v with
  | nil => cases h; rfl
  | cons n ns ih =>
    obtain ⟨u, w, hv, hu, hw⟩ := embedded_cons_eq_ok_iff.1 h
    rw [withEmbedded_cons hv hu, ih hw, withPayload_payload hu, withField_self hv]

/-- A bean of the same type is read where it was written. -/
theorem embedded_withEmbedded {v b x : Value} {ns : List String} (h : v.embedded ns = .ok b)
    (hx : x.ty = b.ty) : (v.withEmbedded ns x).embedded ns = .ok x := by
  induction ns generalizing v with
  | nil => rfl
  | cons n ns ih =>
    obtain ⟨u, w, hv, hu, hw⟩ := embedded_cons_eq_ok_iff.1 h
    have hw' : (w.withEmbedded ns x).payload? = some (w.withEmbedded ns x) :=
      payload?_of_ty_eq hu (ty_withEmbedded hw hx)
    rw [withEmbedded_cons hv hu]
    exact embedded_cons_eq_ok_iff.2
      ⟨_, _, field?_withField_self hv _, payload?_withPayload hu hw', ih hw⟩

/-- Of two beans written to the same fields the second counts. -/
theorem withEmbedded_withEmbedded {v b x : Value} {ns : List String} (h : v.embedded ns = .ok b)
    (hx : x.ty = b.ty) (y : Value) :
    (v.withEmbedded ns x).withEmbedded ns y = v.withEmbedded ns y := by
  induction ns generalizing v with
  | nil => rfl
  | cons n ns ih =>
    obtain ⟨u, w, hv, hu, hw⟩ := embedded_cons_eq_ok_iff.1 h
    have hw' : (w.withEmbedded ns x).payload? = some (w.withEmbedded ns x) :=
      payload?_of_ty_eq hu (ty_withEmbedded hw hx)
    rw [withEmbedded_cons hv hu, withEmbedded_cons hv hu,
      withEmbedded_cons (field?_withField_self hv _) (payload?_withPayload hu hw'),
      withField_withField, withPayload_withPayload hu hw', ih hw]

end Value

/-! ### Using a member -/

/-- An assignment needs a value of exactly the type that is there. -/
theorem Focus.assign?_eq_some_iff {f : Focus} {v w : Value} :
    f.assign? v = some w ↔ v.ty = f.value.ty ∧ w = f.put v := by
  unfold assign?
  split
  · next h => simp [h, eq_comm]
  · next h => simp [h]

/-- Entering fields one after the other gives the bean embedded in them, and putting another back
writes it there. -/
theorem Focus.enterAll_eq (f : Focus) (ns : List String) :
    f.enterAll ns = (f.value.embedded ns).map fun b =>
      ⟨b, fun x => f.put (f.value.withEmbedded ns x)⟩ := by
  induction ns generalizing f with
  | nil => rfl
  | cons n ns ih =>
    rw [enterAll, enter, Value.embedded, Value.fieldPlace?]
    cases hv : f.value.field? n with
    | none => rfl
    | some u =>
      simp only [Option.map_some, present, compose, Value.payloadPlace?]
      cases hu : u.payload? with
      | none => rfl
      | some w =>
        rw [Option.map_some, bind_ok, ih]
        simp only [Value.withEmbedded_cons hv hu]

namespace Member

variable (m : Member)

/-- The bean that declares a member is embedded in the fields of the parents, in the content of the
owner. -/
theorem receiver_eq (owner : Value) :
    m.receiver owner = (owner.unwrapped >>= fun v => v.embedded m.parents).map fun b =>
      ⟨b, fun x => owner.withPayload ((owner.payload?.getD owner).withEmbedded m.parents x)⟩ := by
  unfold receiver Value.unwrapped
  rw [Focus.present_whole]
  cases owner.payload? with
  | none => rfl
  | some v =>
    simp only [bind_ok, Focus.enterAll_eq, Option.getD_some]

variable {m}

/-- The bean that declares a member is there exactly if the owner and every parent on the way
are. -/
theorem receiver_eq_ok_iff {owner : Value} {f : Focus} :
    m.receiver owner = .ok f ↔
      ∃ v b, owner.payload? = some v ∧ v.embedded m.parents = .ok b ∧
        f = ⟨b, fun x => owner.withPayload (v.withEmbedded m.parents x)⟩ := by
  rw [receiver_eq, Value.unwrapped]
  cases owner.payload? with
  | none => simp [bind, Except.bind, Except.map]
  | some v =>
    rw [bind_ok]
    cases hb : v.embedded m.parents with
    | error e => simp [Except.map, hb]
    | ok b => simp [Except.map, hb, eq_comm]

/-- A member has a place exactly if it is a field, its bean is there, and the bean has the field. -/
theorem place?_eq_ok_some_iff {owner : Value} {f : Focus} :
    m.place? owner = .ok (some f) ↔
      ∃ d v b u, m.declaration = .field d ∧ owner.payload? = some v ∧
        v.embedded m.parents = .ok b ∧ b.field? d.name = some u ∧
        f = ⟨u, fun x => owner.withPayload (v.withEmbedded m.parents (b.withField d.name x))⟩ := by
  unfold place?
  split
  · next d hd =>
    rw [bind_eq_ok_iff]
    constructor
    · rintro ⟨r, hr, h⟩
      obtain ⟨v, b, hv, hb, rfl⟩ := receiver_eq_ok_iff.1 hr
      obtain ⟨g, hg, rfl⟩ := Option.map_eq_some_iff.1 (pure_eq_ok_iff.1 h)
      obtain ⟨u, hu, rfl⟩ := Option.map_eq_some_iff.1 hg
      exact ⟨d, v, b, u, hd, hv, hb, hu, rfl⟩
    · rintro ⟨d', v, b, u, hd', hv, hb, hu, rfl⟩
      cases hd.symm.trans hd'
      refine ⟨_, receiver_eq_ok_iff.2 ⟨v, b, hv, hb, rfl⟩, ?_⟩
      simp only [Value.fieldPlace?, hu]
      rfl
  · next hd =>
    constructor
    · intro h
      cases h
    · rintro ⟨d, v, b, u, hd', -⟩
      exact (hd d hd').elim

/-- What is in the place of a field is what its bean has in the field. -/
theorem map_place? {d : Field} (hd : m.declaration = .field d) (owner : Value) :
    (m.place? owner).map (Option.map Focus.value) =
      owner.unwrapped >>= fun v => (v.embedded m.parents).map (Value.field? d.name) := by
  unfold place?
  rw [hd]
  dsimp only
  rw [receiver_eq]
  cases owner.unwrapped with
  | error e => rfl
  | ok v =>
    rw [bind_ok, bind_ok]
    cases v.embedded m.parents with
    | error e => rfl
    | ok b =>
      show Except.ok (Option.map _ (Option.map _ (Option.map _ _))) = Except.ok _
      rw [Option.map_map, Option.map_map]
      cases b.field? d.name <;> rfl

/-- Another value of the same type is found where it was put, and can be replaced there. -/
theorem place?_put {owner w : Value} {f : Focus} (h : m.place? owner = .ok (some f))
    (hw : w.ty = f.value.ty) :
    m.place? (f.put w) = .ok (some ⟨w, f.put⟩) ∧ (f.put w).ty = owner.ty := by
  obtain ⟨d, v, b, u, hd, hv, hb, hu, rfl⟩ := place?_eq_ok_some_iff.1 h
  have hbw : (b.withField d.name w).ty = b.ty := Value.ty_withField ..
  have hv' : (v.withEmbedded m.parents (b.withField d.name w)).ty = v.ty :=
    Value.ty_withEmbedded hb hbw
  have hp := Value.payload?_of_ty_eq hv hv'
  refine ⟨place?_eq_ok_some_iff.2 ⟨d, _, b.withField d.name w, w, hd,
    Value.payload?_withPayload hv hp, Value.embedded_withEmbedded hb hbw,
    Value.field?_withField_self hu w, ?_⟩, Value.ty_withPayload hv hv'⟩
  simp only [Value.withPayload_withPayload hv hp, Value.withEmbedded_withEmbedded hb hbw,
    Value.withField_withField]

/-- Putting back what is in a place changes nothing. -/
theorem put_place?_value {owner : Value} {f : Focus} (h : m.place? owner = .ok (some f)) :
    f.put f.value = owner := by
  obtain ⟨d, v, b, u, hd, hv, hb, hu, rfl⟩ := place?_eq_ok_some_iff.1 h
  simp only [Value.withField_self hu, Value.withEmbedded_embedded hb, Value.withPayload_payload hv]

/-- Reading a field gives what is in its place. -/
theorem get_field_eq_ok_iff {d : Field} (hd : m.declaration = .field d) {owner u : Value} :
    m.get owner = .ok u ↔ ∃ f, m.place? owner = .ok (some f) ∧ f.value = u := by
  unfold get
  rw [bind_eq_ok_iff, hd]
  constructor
  · rintro ⟨r, hr, h⟩
    obtain ⟨v, b, hv, hb, rfl⟩ := receiver_eq_ok_iff.1 (liftProblem_eq_ok_iff.1 hr)
    cases hu : b.field? d.name with
    | none => simp only [hu] at h; cases h
    | some w =>
      simp only [hu] at h
      obtain rfl := pure_eq_ok_iff.1 h
      exact ⟨_, place?_eq_ok_some_iff.2 ⟨d, v, b, w, hd, hv, hb, hu, rfl⟩, rfl⟩
  · rintro ⟨f, hf, rfl⟩
    obtain ⟨d', v, b, u, hd', hv, hb, hu, rfl⟩ := place?_eq_ok_some_iff.1 hf
    cases hd.symm.trans hd'
    refine ⟨_, liftProblem_eq_ok_iff.2 (receiver_eq_ok_iff.2 ⟨v, b, hv, hb, rfl⟩), ?_⟩
    simp only [hu]
    rfl

/-- Writing a field puts a value in its place, and the value must have the type of the old one. -/
theorem set_field_eq_ok_iff {d : Field} (hd : m.declaration = .field d) {owner owner' w : Value} :
    m.set owner w = .ok owner' ↔
      ∃ f, m.place? owner = .ok (some f) ∧ w.ty = f.value.ty ∧ owner' = f.put w := by
  unfold set
  rw [bind_eq_ok_iff, hd]
  constructor
  · rintro ⟨r, hr, h⟩
    obtain ⟨v, b, hv, hb, rfl⟩ := receiver_eq_ok_iff.1 (liftProblem_eq_ok_iff.1 hr)
    cases hu : b.field? d.name with
    | none => simp only [Value.fieldPlace?, hu] at h; cases h
    | some u =>
      simp only [Value.fieldPlace?, hu, Option.map_some] at h
      split at h
      · next o ho =>
        obtain rfl := pure_eq_ok_iff.1 h
        obtain ⟨hw, rfl⟩ := Focus.assign?_eq_some_iff.1 ho
        exact ⟨_, place?_eq_ok_some_iff.2 ⟨d, v, b, u, hd, hv, hb, hu, rfl⟩, hw, rfl⟩
      · cases h
  · rintro ⟨f, hf, hw, rfl⟩
    obtain ⟨d', v, b, u, hd', hv, hb, hu, rfl⟩ := place?_eq_ok_some_iff.1 hf
    cases hd.symm.trans hd'
    refine ⟨_, liftProblem_eq_ok_iff.2 (receiver_eq_ok_iff.2 ⟨v, b, hv, hb, rfl⟩), ?_⟩
    have ho : (Focus.compose ⟨b, fun x => owner.withPayload (v.withEmbedded m.parents x)⟩
        ⟨u, fun x => b.withField d.name x⟩).assign? w = some _ :=
      Focus.assign?_eq_some_iff.2 ⟨hw, rfl⟩
    simp only [Value.fieldPlace?, hu, Option.map_some, ho]
    rfl

end Member

/-- A setter gives back a bean of the type it was called on. -/
theorem Method.ty_of_set {bean : String} {method : Method} {b w b' : Value}
    (h : method.set bean b w = .ok b') : b'.ty = b.ty := by
  unfold set at h
  split at h
  · cases h
  · next run _ =>
    obtain ⟨r, hr, h⟩ := bind_eq_ok_iff.1 h
    split at h
    · obtain ⟨r', -, h⟩ := bind_eq_ok_iff.1 h
      obtain rfl := pure_eq_ok_iff.1 h
      rw [Value.record_eq_ok_iff.1 hr]
      rfl
    · cases h

/-- Writing a member keeps the type of its owner. -/
theorem Member.ty_of_set {m : Member} {owner owner' w : Value} (h : m.set owner w = .ok owner') :
    owner'.ty = owner.ty := by
  cases hd : m.declaration with
  | field d =>
    obtain ⟨f, hf, hw, rfl⟩ := (set_field_eq_ok_iff hd).1 h
    exact (place?_put hf hw).2
  | getter method | setter method =>
    unfold set at h
    rw [bind_eq_ok_iff, hd] at h
    obtain ⟨r, hr, h⟩ := h
    obtain ⟨v, b, hv, hb, rfl⟩ := receiver_eq_ok_iff.1 (liftProblem_eq_ok_iff.1 hr)
    obtain ⟨b', hb', h⟩ := bind_eq_ok_iff.1 h
    obtain rfl := pure_eq_ok_iff.1 h
    have ht := Method.ty_of_set (liftFault_eq_ok_iff.1 hb')
    exact Value.ty_withPayload hv (Value.ty_withEmbedded hb ht)

/-! ### Only beans have members to write -/

/-- A value that has a field is a bean. -/
theorem Value.kind_of_field? {v u : Value} {name : String} (h : v.field? name = some u) :
    v.ty.kind = .bean := by
  cases v with
  | bean path fields hidden => rfl
  | _ => cases h

/-- A value that a bean is embedded in is a bean itself. -/
theorem Value.kind_of_embedded {v b : Value} {names : List String} (h : v.embedded names = .ok b)
    (hb : b.ty.kind = .bean) : v.ty.kind = .bean := by
  cases names with
  | nil => cases h; exact hb
  | cons name names =>
    obtain ⟨u, -, hu, -⟩ := embedded_cons_eq_ok_iff.1 h
    exact kind_of_field? hu

/-- Setters succeed on beans only. -/
theorem Method.kind_of_set {bean : String} {method : Method} {b w b' : Value}
    (h : method.set bean b w = .ok b') : b.ty.kind = .bean := by
  unfold set at h
  split at h
  · cases h
  · obtain ⟨r, hr, -⟩ := bind_eq_ok_iff.1 h
    rw [Value.record_eq_ok_iff.1 hr]
    rfl

/-- Only the members of beans can be written. -/
theorem Member.kind_of_set {m : Member} {owner owner' v w : Value} (hv : owner.payload? = some v)
    (h : m.set owner w = .ok owner') : v.ty.kind = .bean := by
  cases hd : m.declaration with
  | field d =>
    obtain ⟨f, hf, -⟩ := (set_field_eq_ok_iff hd).1 h
    obtain ⟨d', v', b, u, -, hv', hb, hu, -⟩ := place?_eq_ok_some_iff.1 hf
    cases hv.symm.trans hv'
    exact Value.kind_of_embedded hb (Value.kind_of_field? hu)
  | getter method | setter method =>
    unfold set at h
    rw [bind_eq_ok_iff, hd] at h
    obtain ⟨r, hr, h⟩ := h
    obtain ⟨v', b, hv', hb, rfl⟩ := receiver_eq_ok_iff.1 (liftProblem_eq_ok_iff.1 hr)
    cases hv.symm.trans hv'
    obtain ⟨b', hb', -⟩ := bind_eq_ok_iff.1 h
    exact Value.kind_of_embedded hb (Method.kind_of_set (liftFault_eq_ok_iff.1 hb'))

/-! ### Members under optional layers -/

/-- What plays the role of a field is declared as one. -/
theorem Declaration.exists_field_of_role {d : Declaration} (h : d.role = .field) :
    ∃ f, d = .field f := by
  cases d with
  | field f => exact ⟨f, rfl⟩
  | getter m => cases h
  | setter m => cases h

namespace Member

variable {m : Member} {v b : Value}

/-- Whether a field is declared but not there. -/
def missing (m : Member) (v : Value) : Bool := (m.place? v).toOption.any Option.isNone

/-- The bean of a member is found in the content of an owner, and put back under its layers. -/
theorem receiver_payload (h : v.payload? = some b) :
    m.receiver v = (m.receiver b).map (Focus.compose ⟨b, v.withPayload⟩) := by
  rw [receiver_eq, receiver_eq, Value.unwrapped, Value.unwrapped, h, Value.payload?_payload h]
  dsimp only
  rw [bind_ok, Option.getD_some]
  cases b.embedded m.parents with
  | error e => rfl
  | ok x =>
    have hb (w : Value) : b.withPayload w = w :=
      Value.withPayload_of_kind (Value.kind_of_payload? h) w
    simp only [Except.map, Focus.compose, hb, Option.getD_some]

/-- The place of a member is that in the content of its owner, under the layers of the owner. -/
theorem place?_payload (h : v.payload? = some b) :
    m.place? v = (m.place? b).map (Option.map (Focus.compose ⟨b, v.withPayload⟩)) := by
  unfold place?
  rw [receiver_payload h]
  cases m.declaration with
  | field d =>
    dsimp only
    cases m.receiver b with
    | error e => rfl
    | ok r =>
      show Except.ok (Option.map _ (r.value.fieldPlace? d.name)) =
        Except.ok (Option.map _ (Option.map _ (r.value.fieldPlace? d.name)))
      rw [Option.map_map]
      rfl
  | _ => rfl

/-- A member is read in the content of its owner. -/
theorem get_payload (h : v.payload? = some b) : m.get v = m.get b := by
  unfold get
  rw [receiver_payload h]
  cases m.receiver b <;> rfl

/-- A member is written in the content of its owner, which keeps its layers; a failure is the same
for both. -/
theorem set_payload (h : v.payload? = some b) (w : Value) :
    m.set v w = (m.set b w).map v.withPayload := by
  unfold set
  rw [receiver_payload h]
  cases m.receiver b with
  | error e => rfl
  | ok r =>
    have hr : (Except.ok r : Except Problem Focus).map (Focus.compose ⟨b, v.withPayload⟩) =
        .ok (Focus.compose ⟨b, v.withPayload⟩ r) := rfl
    have hv : (Focus.compose ⟨b, v.withPayload⟩ r).value = r.value := rfl
    rw [hr, liftProblem_ok, liftProblem_ok, bind_ok, bind_ok]
    cases m.declaration with
    | field d =>
      dsimp only
      rw [hv]
      cases r.value.fieldPlace? d.name with
      | none => rfl
      | some place =>
        by_cases hw : w.ty = place.value.ty
        · simp only [Focus.assign?, Focus.compose, hw, if_true]
          rfl
        · simp only [Focus.assign?, Focus.compose, hw, if_false]
          rfl
    | _ method =>
      show ((liftM (method.set m.bean r.value w) : Except Failure Value) >>= fun x => _) =
        Except.map v.withPayload
          ((liftM (method.set m.bean r.value w) : Except Failure Value) >>= fun x => _)
      cases method.set m.bean r.value w <;> rfl

/-- An owner that is absent has no bean to declare a member. -/
theorem receiver_absent (h : v.payload? = none) : m.receiver v = .error .nullTarget := by
  rw [receiver_eq, Value.unwrapped, h]
  rfl

/-- Reading a member of an owner that is absent is reported as such. -/
theorem get_absent (h : v.payload? = none) : m.get v = .error Problem.nullTarget.failure := by
  unfold get
  rw [receiver_absent h]
  rfl

/-- A field of an owner that is absent has no place. -/
theorem place?_absent (hr : m.role = .field) (h : v.payload? = none) :
    m.place? v = .error .nullTarget := by
  obtain ⟨d, hd⟩ := Declaration.exists_field_of_role hr
  unfold place?
  rw [receiver_absent h, hd]
  rfl

end Member

/-! ### Fields that do not overlap -/

/-- The fields from an owner to a member, the member itself last. -/
def Member.trail (m : Member) : List String := m.parents ++ [m.name]

/-- Two members of which neither is the other nor lies inside it. -/
def Member.Apart (m n : Member) : Prop := ¬ m.trail <+: n.trail ∧ ¬ n.trail <+: m.trail

/-- **Writing a field leaves alone what does not overlap with it.** -/
theorem Value.field?_withEmbedded_of_apart {v b x : Value} {ns ms : List String} {n m : String}
    (hb : v.embedded ns = .ok b) (h₁ : ¬ ns ++ [n] <+: ms ++ [m])
    (h₂ : ¬ ms ++ [m] <+: ns ++ [n]) :
    ((v.withEmbedded ns (b.withField n x)).embedded ms).map (field? m) =
      (v.embedded ms).map (field? m) := by
  have hbx : (b.withField n x).ty = b.ty := ty_withField ..
  -- Where the fields part, another field of one bean is read than the one that was written.
  have parted {w : Value} {k l : String} (hkl : l ≠ k) (y : Value) (ls : List String) :
      ((w.withField k y).embedded (l :: ls)).map (field? m) =
        (w.embedded (l :: ls)).map (field? m) := by
    simp only [embedded, field?_withField_of_ne hkl, ty_withField]
  induction ns generalizing v ms with
  | nil =>
    cases hb
    cases ms with
    | nil =>
      have hmn : m ≠ n := by rintro rfl; exact h₁ (List.prefix_refl _)
      exact congrArg Except.ok (field?_withField_of_ne hmn ..)
    | cons k ks =>
      refine parted ?_ x ks
      rintro rfl
      exact h₁ ⟨ks ++ [m], rfl⟩
  | cons k ns ih =>
    obtain ⟨u₁, w, hv, hu₁, hw⟩ := embedded_cons_eq_ok_iff.1 hb
    have hw' : (w.withEmbedded ns (b.withField n x)).payload? = some _ :=
      payload?_of_ty_eq hu₁ (ty_withEmbedded hw hbx)
    rw [withEmbedded_cons hv hu₁]
    cases ms with
    | nil =>
      have hmk : m ≠ k := by rintro rfl; exact h₂ ⟨ns ++ [n], rfl⟩
      exact congrArg Except.ok (field?_withField_of_ne hmk ..)
    | cons l ls =>
      by_cases hlk : l = k
      · subst hlk
        simp only [List.cons_append, List.cons_prefix_cons, true_and] at h₁ h₂
        rw [embedded, embedded, field?_withField_self hv, hv]
        simp only [payload?_withPayload hu₁ hw', hu₁]
        exact ih hw h₁ h₂
      · exact parted hlk _ ls

end BeanPath
