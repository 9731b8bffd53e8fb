import BeanPath.Proofs.Layers
import BeanPath.Proofs.Typing

/-!
# The types of layers

A layer is planned on a type: its members were found on the bean in it, or it is a key into it
(`Layer.StartsFrom`).  In a well-typed value that the type describes, what the layer reads has the
type of the layer (`Layer.StartsFrom.read_typed`).  A part is changed in the field although the
layer has the type of the getter, so there the two have to be of one type
(`Layer.StartsFrom.leadsTo_typed`).
-/

namespace BeanPath

/-! ### What types describe -/

/-- A value of a type, optional layers aside, or any value if nothing is known. -/
def Ty.Describes (t : Ty) (v : Value) : Prop := t.core = .any ∨ v.ty.core = t.core

/-- A value of just this type, or any value if nothing is known. -/
def Ty.Admits (t : Ty) (v : Value) : Prop := t = .any ∨ v.ty = t

namespace Ty

variable {t owner : Ty} {v b w : Value}

/-- A type describes the values that are of just this type. -/
theorem Admits.describes (h : t.Admits v) : t.Describes v :=
  h.imp (fun h => by rw [h]; rfl) (congrArg core)

namespace Describes

/-- What the type of a bean describes is of that bean, optional layers aside. -/
theorem core_eq (h : t.Describes v) (ht : t.beanType = .ok owner) : v.ty.core = owner.core := by
  obtain ⟨path, hc, rfl⟩ := beanType_eq_ok_iff.1 ht
  have hv : v.ty.core = t.core := h.resolve_left (by rw [hc]; exact Ty.noConfusion)
  rw [hv, hc]
  rfl

/-- The payload of what the type of a bean describes is of that bean. -/
theorem ty_payload (h : t.Describes v) (ht : t.beanType = .ok owner) (hb : v.payload? = some b) :
    b.ty = owner := by
  have hc := h.core_eq ht
  obtain ⟨path, -, rfl⟩ := beanType_eq_ok_iff.1 ht
  exact (Value.ty_of_payload? hb).trans hc

/-- A value is described by its own type. -/
theorem of_ty (h : v.ty = t) : t.Describes v := .inr (h ▸ rfl)

/-- Parts that have the declared element type have the type of a key. -/
theorem element (h : t.Describes v) (hw : ∀ e ∈ v.ty.core.element?, w.ty = e) :
    t.elementType.Admits w := by
  unfold Ty.elementType
  rcases h with h | h
  · exact .inl (by rw [h]; rfl)
  · rw [← h]
    cases he : v.ty.core.element? with
    | none => exact .inl rfl
    | some e => exact .inr (hw e he)

end Describes
end Ty

namespace Layer

variable {N : Navigator} {C : Scope} {t : Ty} {n : Name} {l : Layer} {v w : Value}

/-- Whether a layer is a property. -/
def isProperty : Layer → Bool
  | property .. => true
  | key .. => false

/-- A property whose field and getter, if there are both, have one type, optional layers aside. -/
def OneTyped : Layer → Prop
  | property _ (some field) (some getter) _ => getter.ty.core = field.ty.core
  | _ => True

instance : (l : Layer) → Decidable l.OneTyped
  | property _ (some field) (some getter) _ =>
    inferInstanceAs (Decidable (getter.ty.core = field.ty.core))
  | property _ (some _) none _ | property _ none _ _ | key _ _ => .isTrue trivial

/-! ### Planned layers -/

/-- A member of a role, if there is one, was found by a lookup on a type. -/
def Found (C : Scope) (owner : Ty) (role : Role) (m? : Option Member) : Prop :=
  ∀ m ∈ m?, ∃ q : Query, q.role = role ∧ C.schema.member? q owner = .ok (some m)

/-- A layer planned on a type: a property with members of the bean in it, or a key into it. -/
inductive StartsFrom (C : Scope) (t : Ty) : Layer → Prop
  | property {path : String} {field getter setter : Option Member} (bean : t.core = .bean path)
      (field_found : Found C (.bean path) .field field)
      (getter_found : Found C (.bean path) .getter getter)
      (setter_found : Found C (.bean path) .setter setter) :
      StartsFrom C t (.property (.bean path) field getter setter)
  | key (n : Name) : StartsFrom C t (.key t n)

/-- What a lookup finds was found, also if that is nothing. -/
theorem found_of_member? {owner : Ty} {q : Query} {m? : Option Member}
    (h : C.schema.member? q owner = .ok m?) : Found C owner q.role m? :=
  fun _ hm => ⟨q, rfl, by rw [h, hm]⟩

/-- A layer that takes a step is planned on the type that the step starts from. -/
theorem Takes.startsFrom (hl : l.Takes C t n) : l.StartsFrom C t := by
  cases hl with
  | property bean _ _ field_found getter_found setter_found =>
    obtain ⟨path, hc, rfl⟩ := Ty.beanType_eq_ok_iff.1 bean
    exact .property hc (found_of_member? field_found) (found_of_member? getter_found)
      (found_of_member? setter_found)
  | key => exact .key n

/-- The owner of a layer is the type that it is planned on, optional layers aside. -/
theorem StartsFrom.core_owner (hl : l.StartsFrom C t) : l.owner.core = t.core := by
  cases hl with
  | property bean => exact bean.symm
  | key => rfl

/-! ### Reading -/

/-- A key reads what the step of its name reads. -/
theorem read_key (owner : Ty) (n : Name) (v : Value) :
    (key owner n).read N v = (N.get v n).map (Option.map Reading.value) := by
  show (N.get v n >>= _) = _
  cases N.get v n <;> rfl

/-- A property with a getter reads what the getter gives. -/
theorem read_getter (owner : Ty) (field setter : Option Member) (getter : Member) (v : Value) :
    (property owner field (some getter) setter).read N v = (getter.get v).map some := by
  cases field <;> (show (getter.get v >>= _) = _; cases getter.get v <;> rfl)

/-- A property without a getter reads its field, and fails where the field is not there. -/
theorem read_field (owner : Ty) (field : Member) (setter : Option Member) (v : Value) :
    (property owner (some field) none setter).read N v = match field.place? v with
      | .ok (some f) => .ok (some f.value)
      | .ok none => .error Problem.nullTarget.failure
      | .error e => .error e.failure := by
  show ((liftM (field.place? v) : Except Failure (Option Focus)) >>= _) = _
  rcases field.place? v with e | _ | f <;> rfl

/-- A property without a getter reads what stands in the place of its field. -/
theorem read_field_eq_ok_iff {owner : Ty} {field : Member} {setter : Option Member} :
    (property owner (some field) none setter).read N v = .ok (some w) ↔
      ∃ f, field.place? v = .ok (some f) ∧ f.value = w := by
  rw [read_field]
  rcases field.place? v with e | _ | f <;> simp

/-- What a layer reads in a well-typed value is well typed and of the type of the layer. -/
theorem StartsFrom.read_typed (hl : l.StartsFrom C t) (hv : C.schema.WellTyped v)
    (ht : t.Describes v) (hr : l.read { scope := C } v = .ok (some w)) :
    C.schema.WellTyped w ∧ l.ty.Admits w := by
  cases hl with
  | key =>
    rw [read_key] at hr
    obtain ⟨_, hg, hr⟩ := map_eq_ok_iff.1 hr
    obtain ⟨r, rfl, rfl⟩ := Option.map_eq_some_iff.1 hr
    obtain ⟨hw, he⟩ := hv.reading hg
    exact ⟨hw, ht.element he⟩
  | @property path field getter setter bean field_found getter_found _ =>
    have hc := ht.core_eq (Ty.beanType_eq_ok_iff.2 ⟨path, bean, rfl⟩)
    match field, getter with
    | _, some g =>
      rw [read_getter] at hr
      obtain ⟨u, hg, hu⟩ := map_eq_ok_iff.1 hr
      obtain rfl := Option.some.inj hu
      obtain ⟨q, hq, hm⟩ := getter_found g rfl
      obtain ⟨hw, hty⟩ := hv.get hc hq hm hg
      exact ⟨hw, .inr hty⟩
    | some f, none =>
      obtain ⟨p, hp, rfl⟩ := read_field_eq_ok_iff.1 hr
      obtain ⟨q, hq, hm⟩ := field_found f rfl
      obtain ⟨hw, hty⟩ := hv.place? hc hq hm hp
      exact ⟨hw, .inr hty⟩
    | none, none => cases hr

/-! ### Going on to a part -/

/-- The part that a layer leads to in a well-typed value is well typed; it is of the type of the
layer if the field and the getter are of one type. -/
theorem StartsFrom.leadsTo_typed (hl : l.StartsFrom C t) (hv : C.schema.WellTyped v)
    (ht : l.isProperty = true → t.Describes v) (hw : l.LeadsTo { scope := C } v w) :
    C.schema.WellTyped w ∧
      (t.Describes v → l.OneTyped → l.ty = .any ∨ w.ty.core = l.ty.core) := by
  cases hl with
  | key =>
    cases hw with
    | key hd =>
      obtain ⟨hw, he⟩ := hv.part hd
      exact ⟨hw, fun ht _ => (ht.element he).imp_right (congrArg Ty.core)⟩
  | @property path field getter setter bean field_found getter_found _ =>
    have hc := (ht rfl).core_eq (Ty.beanType_eq_ok_iff.2 ⟨path, bean, rfl⟩)
    cases hw with
    | @field _ field _ _ _ _ hp =>
      obtain ⟨q, hq, hm⟩ := field_found field rfl
      obtain ⟨hw, hty⟩ := hv.place? hc hq hm hp
      refine ⟨hw, fun _ ho => .inr ?_⟩
      cases getter with
      | none => exact congrArg Ty.core hty
      | some g => exact (congrArg Ty.core hty).trans (Eq.symm ho)
    | @copy _ g s _ _ hg =>
      obtain ⟨q, hq, hm⟩ := getter_found g rfl
      obtain ⟨hw, hty⟩ := hv.get hc hq hm hg
      exact ⟨hw, fun _ _ => .inr (congrArg Ty.core hty)⟩

end Layer
end BeanPath
