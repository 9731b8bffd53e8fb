import BeanPath.Proofs.LayerTypes

/-!
# Layers and steps

A layer for a step does what the step does: it reads the same (`Layer.read_eq_get`), writes the same
(`Layer.write_eq_put`) and goes to the same part (`Layer.visit_eq_key`).  A key does so by itself.
The members of a property were found for a type, and the step finds members for the value at hand,
so the value has to be what the type describes.  Only a field that is declared and not there is
treated in two ways.
-/

namespace BeanPath

open Update

namespace Layer

variable {N : Navigator} {C : Scope} {t : Ty} {n : Name} {l : Layer} {v b : Value}

/-! ### Reading -/

/-- Whether a property without a getter lacks the field to read. -/
def lacksReadField : Layer → Value → Bool
  | property _ (some field) none _, v => field.missing v
  | _, _ => false

/-- **A layer for a step reads what the step reads**, unless the field to read is not there: then
the step reads nothing and the layer fails. -/
theorem read_eq_get (hl : l.Takes C t n) (ht : t.Describes v) :
    l.read { scope := C } v =
        (Navigator.get { scope := C } v n).map (Option.map Reading.value) ∨
      (l.lacksReadField v = true ∧ Navigator.get { scope := C } v n = .ok none ∧
        l.read { scope := C } v = .error Problem.nullTarget.failure) := by
  cases hl with
  | key => exact .inl (read_key t n v)
  | @property owner _ field getter setter bean plain _ field_found getter_found _ =>
    cases hb : v.payload? with
    | none =>
      left
      rw [Navigator.get_absent hb]
      cases getter with
      | some g => rw [read_getter, Member.get_absent hb]; rfl
      | none =>
        rw [read_field, Member.place?_absent (Schema.role_of_member? field_found) hb]
        rfl
    | some b =>
      have hbt := ht.ty_payload bean hb
      obtain ⟨path, -, rfl⟩ := Ty.beanType_eq_ok_iff.1 bean
      rw [Navigator.get_congr (hb.trans (Value.payload?_payload hb).symm),
        Navigator.get_bean hbt]
      rw [← hbt] at field_found getter_found
      cases getter with
      | some g =>
        left
        rw [read_getter, Navigator.getProperty_getter (N := { scope := C }) plain getter_found,
          Member.get_payload hb]
        cases g.get b <;> rfl
      | none =>
        rw [Navigator.getProperty_field (N := { scope := C }) plain getter_found field_found,
          read_field, lacksReadField, Member.missing, Member.place?_payload hb]
        rcases field.place? b with e | _ | f
        · exact .inl rfl
        · -- The field is declared and not there.
          exact .inr ⟨rfl, rfl, rfl⟩
        · exact .inl rfl

/-! ### Writing -/

/-- Writes a property to one of its members. -/
def writeTo (m : Member) (field getter : Option Member) (w : Option Value) :
    Update Value (Option Value) := atomic fun target => do
  let previous ← previous? field getter target
  return (previous, ← m.set target (← Value.adapt? w m.ty))

/-- A property with a setter is written to that setter. -/
theorem write_setter (owner : Ty) (field getter : Option Member) (setter : Member)
    (w : Option Value) :
    (property owner field getter (some setter)).write N w = writeTo setter field getter w := by
  cases field <;> rfl

/-- A property with a field and no setter is written to the field, and what was there before is read
from the field. -/
theorem write_field (owner : Ty) (field : Member) (getter : Option Member) (w : Option Value) :
    (property owner (some field) getter none).write N w = writeTo field (some field) none w := by
  refine congrArg atomic (funext fun target => ?_)
  show _ = ((field.get target >>= _) >>= _)
  cases field.get target <;> rfl

/-- What was there before is looked for under the optional layers. -/
theorem previous?_payload (h : v.payload? = some b) (field getter : Option Member) :
    previous? field getter v = previous? field getter b := by
  unfold previous?
  cases getter <;> cases field <;> simp only [Option.orElse_eq_orElse, Member.get_payload h]

/-- Where the optional layers are empty, there is nothing that was there before, and that is a
failure. -/
theorem previous?_absent (h : v.payload? = none) (field : Member) (getter : Option Member) :
    previous? (some field) getter v = .error Problem.nullTarget.failure := by
  cases getter with
  | some g =>
    show (g.get v >>= _) = _
    rw [Member.get_absent h]
    rfl
  | none =>
    show (field.get v >>= _) = _
    rw [Member.get_absent h]
    rfl

/-- A property is written under the optional layers. -/
theorem writeTo_payload (h : v.payload? = some b) (m : Member) (field getter : Option Member)
    (w : Option Value) :
    writeTo m field getter w v = (writeTo m field getter w).within b v.withPayload v := by
  refine atomic_payload h ?_
  rw [previous?_payload h]
  simp only [Member.set_payload h]
  cases previous? field getter b with
  | error e => rfl
  | ok previous =>
    cases Value.adapt? w m.ty with
    | error e => rfl
    | ok a =>
      rw [bind_ok, bind_ok]
      show (Except.map v.withPayload (m.set b a) >>= _) = Except.map _ (m.set b a >>= _)
      cases m.set b a <;> rfl

/-- Where the optional layers are empty, a property cannot be written. -/
theorem writeTo_absent (h : v.payload? = none) (m field : Member) (getter : Option Member)
    (w : Option Value) :
    writeTo m (some field) getter w v = .error Problem.nullTarget.failure v := by
  refine atomic_of_error ?_
  rw [previous?_absent h]
  rfl

/-- A layer of a property writes under the optional layers of the value. -/
theorem write_payload (h : v.payload? = some b) (owner : Ty) (field : Member)
    (getter setter : Option Member) (w : Option Value) :
    (property owner (some field) getter setter).write N w v =
      ((property owner (some field) getter setter).write N w).within b v.withPayload v := by
  cases setter with
  | some s => rw [write_setter, writeTo_payload h]
  | none => rw [write_field, writeTo_payload h]

/-- A layer of a property cannot write where the optional layers are empty. -/
theorem write_absent (h : v.payload? = none) (owner : Ty) (field : Member)
    (getter setter : Option Member) (w : Option Value) :
    (property owner (some field) getter setter).write N w v =
      .error Problem.nullTarget.failure v := by
  cases setter with
  | some s => rw [write_setter, writeTo_absent h]
  | none => rw [write_field, writeTo_absent h]

/-- In a bean itself a property is written as a step without a qualifier writes it. -/
theorem write_eq_putProperty {field : Member} {getter setter : Option Member}
    (hn : n.qualifier = none) (hf : N.member? .field b.ty none n = .ok (some field))
    (hg : N.member? .getter b.ty none n = .ok getter)
    (hs : N.member? .setter b.ty none n = .ok setter) (owner : Ty) (w : Option Value) :
    (property owner (some field) getter setter).write N w b = N.putProperty n w b := by
  have hp : N.previous? b none n = previous? (some field) getter b := by
    unfold Navigator.previous?
    rw [hg, liftProblem_ok, bind_ok]
    cases getter with
    | some g => rfl
    | none =>
      dsimp only
      rw [hf, liftProblem_ok, bind_ok]
      rfl
  unfold Navigator.putProperty Scope.qualifier?
  rw [hn]
  cases setter with
  | some s =>
    rw [write_setter]
    unfold writeTo atomic
    dsimp only
    rw [liftProblem_ok, bind_ok, hs, liftProblem_ok, bind_ok]
    dsimp only
    rw [hp]
  | none =>
    unfold write atomic
    dsimp only
    rw [liftProblem_ok, bind_ok, hs, liftProblem_ok, bind_ok]
    dsimp only
    rw [hf, liftProblem_ok, bind_ok]

/-- Whether the setter that the name alone finds takes what the property is declared to be. -/
def setterFits (C : Scope) : Layer → Bool
  | property owner (some field) getter _ =>
    (C.schema.member? { role := .setter, name := field.name } owner).toOption.join.all fun s =>
      C.schema.assignable s.ty (getter.getD field).ty
  | _ => true

/-- A layer for a step writes what the step writes. -/
theorem write_eq_put (hl : l.Takes C t n) (ht : l.isProperty = true → t.Describes v)
    (hs : l.setterFits C = true) (w : Option Value) :
    l.write { scope := C } w v = Navigator.put { scope := C } n w v := by
  cases hl with
  | key => rfl
  | @property owner _ field getter setter bean plain name field_found getter_found setter_found =>
    unfold Navigator.put
    rw [present_apply]
    cases hb : v.payload? with
    | none => exact write_absent hb ..
    | some b =>
      have hbt := (ht rfl).ty_payload bean hb
      have setter_found := Schema.member?_setter setter_found fun s hm => by
        rw [setterFits, name, hm] at hs
        exact hs
      rw [← hbt] at field_found getter_found setter_found
      obtain ⟨path, -, rfl⟩ := Ty.beanType_eq_ok_iff.1 bean
      obtain ⟨fields, hidden, rfl⟩ := Value.exists_of_ty_bean hbt
      rw [write_payload hb]
      exact within_congr v.withPayload v
        (write_eq_putProperty (N := { scope := C }) plain field_found getter_found setter_found _ w)

/-! ### Going on to a part -/

/-- Whether the field of a property is declared but not there. -/
def lacksField : Layer → Value → Bool
  | property _ (some field) _ _, v => field.missing v
  | _, _ => false

/-- The part that a visit of a key or of a field changes. -/
def part? (N : Navigator) : Layer → Value → Option Value
  | key _ n, v => (N.descend v n).toOption.map Descent.value
  | property _ (some field) _ _, v => (field.place? v).toOption.join.map Focus.value
  | property _ none _ _, _ => none

/-- A visit leads to the part that it changes. -/
theorem leadsTo_of_part? {w : Value} (h : l.part? N v = some w) : l.LeadsTo N v w := by
  cases l with
  | key owner n =>
    obtain ⟨d, hd, rfl⟩ := Option.map_eq_some_iff.1 h
    exact .key (toOption_eq_some_iff.1 hd)
  | property owner field getter setter =>
    cases field with
    | none => cases h
    | some field =>
      obtain ⟨f, hf, rfl⟩ := Option.map_eq_some_iff.1 h
      exact .field (toOption_eq_some_iff.1 (Option.join_eq_some_iff.1 hf))

/-- A layer for a step goes where the step goes. -/
theorem descend_property {field : Member} {getter setter : Option Member} {owner : Ty}
    (hl : (property owner (some field) getter setter).Takes C t n) (ht : t.Describes v)
    (hf : (property owner (some field) getter setter).lacksField v = false) :
    Navigator.descend { scope := C } v n = match field.place? v with
      | .ok (some f) => .ok (.inPlace f)
      | .ok none => .error Problem.nullTarget.failure
      | .error e => .error e.failure := by
  cases hl with
  | property bean plain name field_found getter_found setter_found =>
    cases hb : v.payload? with
    | none =>
      rw [Navigator.descend_absent hb,
        Member.place?_absent (Schema.role_of_member? field_found) hb]
    | some b =>
      have hbt := ht.ty_payload bean hb
      rw [← hbt] at field_found
      obtain ⟨path, -, rfl⟩ := Ty.beanType_eq_ok_iff.1 bean
      exact Navigator.descend_field hb hbt plain field_found hf

/-- A layer for a step visits what the step visits, as long as the declared field is there. -/
theorem visit_eq_key {α : Type} (hl : l.Takes C t n) (ht : l.isProperty = true → t.Describes v)
    (hf : l.lacksField v = false) (owner : Ty) (u : Update Value α) :
    l.visit { scope := C } u v = (key owner n).visit { scope := C } u v := by
  cases l with
  | key => cases hl; rw [visit_key, visit_key]
  | property owner field getter setter =>
    cases field with
    | none => cases hl
    | some field =>
      rw [visit_key, visit_field, descend_property hl (ht rfl) hf]
      rcases field.place? v with e | _ | f <;> rfl

/-- A layer for a step has the same part as the step, as long as the declared field is there. -/
theorem part?_eq_key (hl : l.Takes C t n) (ht : l.isProperty = true → t.Describes v)
    (hf : l.lacksField v = false) (owner : Ty) :
    l.part? { scope := C } v = (key owner n).part? { scope := C } v := by
  cases l with
  | key => cases hl; rfl
  | property owner field getter setter =>
    cases field with
    | none => cases hl
    | some field =>
      show (field.place? v).toOption.join.map Focus.value =
        (Navigator.descend { scope := C } v n).toOption.map Descent.value
      rw [descend_property hl (ht rfl) hf]
      rcases field.place? v with e | _ | f <;> rfl

end Layer
end BeanPath
