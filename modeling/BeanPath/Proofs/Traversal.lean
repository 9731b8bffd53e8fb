import BeanPath.Proofs.LayerSteps
import BeanPath.Proofs.Linking

/-!
# What a write traverses

A write goes down layer by layer, and what a layer is applied to is a value that the layers before
it lead to (`Accessor.Reaches`).  In a well-typed instance this value is of the type that the layer
was planned on (`Accessor.core_of_reaches`), as long as the types are known for certain: nothing is
known below the type of all values, and a write goes through the field of a property while the
layers below were planned on the type of its getter.

A write is blind to everything else.  If every layer does something different to values of other
types, the write is still the same (`Accessor.writeGuarded_eq_writeThrough`).
-/

namespace BeanPath

open Update

namespace Layer

variable {α : Type}

/-- What a layer leads to is known to be of its type. -/
def Certain (l : Layer) : Prop := l.ty ≠ .any ∧ l.OneTyped

instance (l : Layer) : Decidable l.Certain := inferInstanceAs (Decidable (_ ∧ _))

/-- What a layer does to values of the type that it was planned on; to others, something else. -/
def guarded (l : Layer) (other u : Update Value α) : Update Value α := fun v =>
  if v.ty.core = l.owner.core then u v else other v

end Layer

namespace Accessor

variable {N : Navigator} {C : Scope} {t : Ty} {l : Layer} {ls above below : List Layer}
  {v u : Value}

/-- What a write through layers arrives at. -/
inductive Reaches (N : Navigator) : Value → List Layer → Value → Prop
  | nil (v : Value) : Reaches N v [] v
  | cons {v w u : Value} {l : Layer} {ls : List Layer} :
      l.LeadsTo N v w → Reaches N w ls u → Reaches N v (l :: ls) u

/-- Every layer is applied to values of the type that it was planned on, optional layers aside, as
far as the layers above are certain. -/
def AsPlanned (N : Navigator) (v : Value) (ls : List Layer) : Prop :=
  ∀ above l below, ls = above ++ l :: below → (∀ k ∈ above, k.Certain) →
    ∀ u, Reaches N v above u → u.ty.core = l.owner.core

/-- Writes through layers that do something else to values of other types than planned, as far as
the layers above are certain. -/
def writeGuarded (N : Navigator) (other : Update Value (Option Value)) (w : Option Value) :
    Layer → List Layer → Update Value (Option Value)
  | l, [] => l.guarded other (l.write N w)
  | l, m :: rest => l.guarded other <| l.visit N <|
    if l.Certain then writeGuarded N other w m rest else writeThrough N w m rest

/-- What a write arrives at is of the type that the next layer was planned on. -/
theorem core_of_reaches (hr : Reaches { scope := C } v above u)
    (h : Linked C t (above ++ l :: below)) (hv : C.schema.WellTyped v) (ht : v.ty.core = t.core)
    (hc : ∀ k ∈ above, k.Certain) : u.ty.core = l.owner.core := by
  induction hr generalizing t with
  | nil v =>
    obtain ⟨hl, -⟩ := linked_cons_iff.1 h
    rw [ht, hl.core_owner]
  | @cons v w u k above hlead _ ih =>
    obtain ⟨hk, h⟩ := linked_cons_iff.1 h
    obtain ⟨⟨hany, hone⟩, hc⟩ := List.forall_mem_cons.1 hc
    obtain ⟨hw, hty⟩ := hk.leadsTo_typed hv (fun _ => .inr ht) hlead
    exact ih h hw ((hty (.inr ht) hone).resolve_left hany) hc

/-- Linked layers of certain types are applied to values of the types that they were planned on, if
the first one is. -/
theorem asPlanned_of_linked (h : Linked C t ls) (hv : C.schema.WellTyped v)
    (ht : v.ty.core = t.core) : AsPlanned { scope := C } v ls := by
  rintro above l below rfl hc u hr
  exact core_of_reaches hr h hv ht hc

/-- Layers that are applied as planned never do anything else. -/
theorem writeGuarded_eq_writeThrough (h : AsPlanned N v (l :: ls))
    (other : Update Value (Option Value)) (w : Option Value) :
    writeGuarded N other w l ls v = writeThrough N w l ls v := by
  induction ls generalizing l v with
  | nil =>
    have hl : v.ty.core = l.owner.core := h [] l [] rfl (List.forall_mem_nil _) v (.nil v)
    exact if_pos hl
  | cons m ls ih =>
    have hl : v.ty.core = l.owner.core := h [] l _ rfl (List.forall_mem_nil _) v (.nil v)
    rw [writeGuarded, Layer.guarded, if_pos hl, writeThrough]
    refine Layer.visit_congr fun u hu => ?_
    by_cases hc : l.Certain
    · rw [if_pos hc]
      refine ih fun above k below hls ha u' hr => ?_
      exact h (l :: above) k below (congrArg (l :: ·) hls) (List.forall_mem_cons.2 ⟨hc, ha⟩) u'
        (.cons hu hr)
    · rw [if_neg hc]

end Accessor

/-- **Writes traverse values of the planned types.**  Every layer of a built accessor is applied
only to values of the type that it was planned on, optional layers aside, so it does not matter
what it would do to others.  Layers below the type of all values and below a property whose field
and getter are of different types are excepted. -/
theorem writes_traverse_planned_types {C : Scope} {owner : Ty} {d : Definition} {X : Accessor}
    {x : Value} (hX : Accessor.build C owner d = .ok X) (hx : C.schema.WellTyped x)
    (hxt : x.ty = X.root.owner) :
    Accessor.AsPlanned { scope := C } x X.layers ∧
      ∀ other w,
        Accessor.writeGuarded { scope := C } other w X.root X.rest x = X.set C w x := by
  have planned : Accessor.AsPlanned { scope := C } x X.layers :=
    Accessor.asPlanned_of_linked (Accessor.linked_of_build hX) hx (Accessor.core_of_instance hX hxt)
  refine ⟨planned, fun other w => ?_⟩
  rw [Accessor.set_of_instance hxt, Accessor.writeGuarded_eq_writeThrough planned]

/-- A property, a key and a property of a holder: no write through them meets a value of another
type, whatever the layers do to those. -/
theorem writes_traverse_planned_types_in_holder :
    let C : Scope := ⟨Sample.schema, Sample.freshRegistry⟩
    let x := Sample.stocked
    ∃ X, Accessor.build C Sample.holder.ty { field := "items[0].value" } = .ok X ∧
      (∀ l ∈ X.layers, l.Certain) ∧ Accessor.AsPlanned { scope := C } x X.layers ∧
        ∀ other w,
          Accessor.writeGuarded { scope := C } other w X.root X.rest x = X.set C w x := by
  intro C x
  obtain ⟨X, hX, hc, hxt⟩ :
      ∃ X, Accessor.build C Sample.holder.ty { field := "items[0].value" } = .ok X ∧
        (∀ l ∈ X.layers, l.Certain) ∧ x.ty = X.root.owner := by
    decide +kernel
  exact ⟨X, hX, hc, writes_traverse_planned_types hX Sample.wellTyped_stocked hxt⟩

/-- A property whose field is a list of texts and whose getter gives a list of integers: its key was
planned on the latter and is applied to the former. -/
theorem writes_leave_planned_types :
    let C : Scope := ⟨Sample.schema, Sample.freshRegistry⟩
    let d : Definition := { field := "log[0]", getter := "copy[0]", setter := "set_copy[0]" }
    let x : Value := (Sample.mixed.value.withField "nums" (.seq (.list .vec (.int .i32))
      [.int .i32 1])).withField "log" (.seq (.list .vec .text) [.text "a"])
    C.schema.WellTyped x ∧ ∃ X, Accessor.build C Sample.mixed.ty d = .ok X ∧
      x.ty = X.root.owner ∧ (∀ l ∈ X.layers, l.ty ≠ .any) ∧
        (∃ k u, X.layers = [X.root] ++ [k] ∧ Accessor.Reaches { scope := C } x [X.root] u ∧
          u.ty.core ≠ k.owner.core) ∧
        X.set C (some (.int .i32 5)) x =
          .error (Fault.typeMismatch .text (.int .i32)).failure x := by
  intro C d x
  have hx : C.schema.WellTyped x := by
    let parts : List Value :=
      [x, .absent Sample.address.ty, .int .i64 0, .seq (.list .vec (.int .i32)) [.int .i32 1],
        .int .i32 1, .seq (.list .vec .text) [.text "a"], .text "a", Sample.address.value,
        .text "", .absent .text]
    have hs : ∀ v ∈ parts, C.schema.Sound (· ∈ parts) v := by decide +kernel
    exact Schema.wellTyped_of_mem hs List.mem_cons_self
  obtain ⟨X, hX, hxt, hany, hlen, hpart, hty, hset⟩ :
      ∃ X, Accessor.build C Sample.mixed.ty d = .ok X ∧ x.ty = X.root.owner ∧
        (∀ l ∈ X.layers, l.ty ≠ .any) ∧ X.rest.length = 1 ∧
          X.root.part? { scope := C } x = some (.seq (.list .vec .text) [.text "a"]) ∧
            (∀ k ∈ X.rest, k.owner.core = .list .vec (.int .i32)) ∧
              X.set C (some (.int .i32 5)) x =
                .error (Fault.typeMismatch .text (.int .i32)).failure x := by
    decide +kernel
  obtain ⟨k, hk⟩ := List.length_eq_one_iff.1 hlen
  refine ⟨hx, X, hX, hxt, hany, ⟨k, _, ?_, .cons (Layer.leadsTo_of_part? hpart) (.nil _), ?_⟩, hset⟩
  · rw [← hk]
    rfl
  · rw [hty k (hk ▸ List.mem_cons_self)]
    decide

end BeanPath
