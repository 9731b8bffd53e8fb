import Mathlib.Data.List.Forall2
import BeanPath.Proofs.LayerTypes
import BeanPath.Samples

/-!
# Built accessors are linked

Building goes through the stages of a definition: each adds a property and the keys behind it
(`Accessor.outline_of_layersFrom`), each layer planned on the type that the one before leads to
(`Accessor.linked_of_layersFrom`).  So a read goes from typed values to typed values, and what it
gives has the type of the last layer (`built_accessors_are_linked_and_typed`).
-/

namespace BeanPath

/-- The name of a key. -/
def Layer.key? : Layer → Option Name
  | property .. => none
  | key _ n => some n

namespace Accessor

variable {C : Scope} {t : Ty} {l : Layer} {ls : List Layer}

/-- Layers from a type, each planned on the type that the one before leads to. -/
inductive Linked (C : Scope) : Ty → List Layer → Prop
  | nil (t : Ty) : Linked C t []
  | cons {t : Ty} {l : Layer} {ls : List Layer} :
      l.StartsFrom C t → Linked C l.ty ls → Linked C t (l :: ls)

/-- Layers are linked if the first is planned on the type and the others are linked from the type of
the first. -/
theorem linked_cons_iff : Linked C t (l :: ls) ↔ l.StartsFrom C t ∧ Linked C l.ty ls := by
  constructor
  · rintro (_ | ⟨hl, h⟩)
    exact ⟨hl, h⟩
  · rintro ⟨hl, h⟩
    exact .cons hl h

/-- Layers that lead along names are linked, and stay so with linked layers behind them. -/
theorem Leads.linked_append {ns : List Name} {ks : List Layer} (h : Leads C t ns ls)
    (hk : Linked C ((ls.getLast?.map Layer.ty).getD t) ks) : Linked C t (ls ++ ks) := by
  induction h with
  | nil t => exact hk
  | cons hl _ ih =>
    refine .cons hl.startsFrom (ih ?_)
    rw [List.getLast?_cons] at hk
    simpa [Option.getD_map] using hk

/-! ### Building -/

/-- The member of a role in a definition was found by a lookup, whether the definition names it or
not. -/
theorem found_of_findMember {owner : Ty} {role : Role} {explicit : Option Segment}
    {property : String} {expected : Option Ty} {missing : Ty → String → Problem}
    {m? : Option Member}
    (h : findMember C owner role explicit property expected missing = .ok m?) :
    Layer.Found C owner role m? := by
  cases explicit with
  | none => exact Layer.found_of_member? h
  | some s =>
    obtain ⟨m, rfl, hm⟩ := findMember_named_eq_ok_iff.1 h
    exact Layer.found_of_member? hm

/-- The layer of a stage is a property of the bean in the type that it is planned on. -/
theorem startsFrom_of_propertyLayer {owner : Ty} {s : Stage} {expected : Option Ty}
    (ht : t.beanType = .ok owner) (h : propertyLayer C owner s expected = .ok l) :
    l.StartsFrom C t ∧ l.key? = none := by
  obtain ⟨path, hc, rfl⟩ := Ty.beanType_eq_ok_iff.1 ht
  unfold propertyLayer at h
  cases hp : s.property? with
  | none => rw [hp] at h; cases h
  | some property =>
    rw [hp] at h
    obtain ⟨field, hf, h⟩ := bind_eq_ok_iff.1 h
    obtain ⟨getter, hg, h⟩ := bind_eq_ok_iff.1 h
    obtain ⟨setter, hs, h⟩ := bind_eq_ok_iff.1 h
    split at h
    · cases h
    · cases pure_eq_ok_iff.1 h
      exact ⟨.property hc (found_of_findMember hf) (found_of_findMember hg)
        (found_of_findMember hs), rfl⟩

/-- The layers of keys are for these keys, in their order. -/
theorem keys_of_keyLayers {ns : List Name} (h : keyLayers C t ns = .ok ls) :
    ls.map Layer.key? = ns.map some := by
  induction ns generalizing t ls with
  | nil => cases h; rfl
  | cons n ns ih =>
    obtain ⟨_, -, h⟩ := bind_eq_ok_iff.1 h
    obtain ⟨rest, hr, h⟩ := bind_eq_ok_iff.1 h
    cases pure_eq_ok_iff.1 h
    exact congrArg (some n :: ·) (ih hr)

/-- The layers of stages are linked, whatever the declared type is. -/
theorem linked_of_layersFrom {declared : Option Ty} {stages : List Stage}
    (h : layersFrom C declared t stages = .ok ls) : Linked C t ls := by
  induction stages generalizing t ls with
  | nil => cases h; exact .nil t
  | cons s stages ih =>
    obtain ⟨keys, owner, property, keyed, rest, -, ho, hp, hk, hr, rfl⟩ :=
      layersFrom_cons_eq_ok_iff.1 h
    exact .cons (startsFrom_of_propertyLayer ho hp).1
      ((leads_of_keyLayers hk).linked_append (ih hr))

/-- Every stage adds a property and its keys. -/
theorem outline_of_layersFrom {declared : Option Ty} {stages : List Stage}
    (h : layersFrom C declared t stages = .ok ls) :
    ∃ keys, List.Forall₂ (fun s ns => s.keys = .ok ns) stages keys ∧
      ls.map Layer.key? = keys.flatMap fun ns => none :: ns.map some := by
  induction stages generalizing t ls with
  | nil => cases h; exact ⟨[], .nil, rfl⟩
  | cons s stages ih =>
    obtain ⟨ns, owner, property, keyed, rest, hs, ho, hp, hk, hr, rfl⟩ :=
      layersFrom_cons_eq_ok_iff.1 h
    obtain ⟨keys, hkeys, hls⟩ := ih hr
    refine ⟨ns :: keys, .cons hs hkeys, ?_⟩
    rw [List.map_cons, List.map_append, (startsFrom_of_propertyLayer ho hp).2,
      keys_of_keyLayers hk, hls]
    rfl

/-- The layers of a built accessor are linked from the type that it was built on. -/
theorem linked_of_build {owner : Ty} {d : Definition} {X : Accessor}
    (hX : build C owner d = .ok X) : Linked C owner X.layers := by
  obtain ⟨stages, -, hl⟩ := build_eq_ok_iff.1 hX
  exact linked_of_layersFrom hl

/-- An instance is of the type that the accessor was built on, optional layers aside. -/
theorem core_of_instance {owner : Ty} {d : Definition} {X : Accessor}
    (hX : build C owner d = .ok X) {x : Value} (hx : x.ty = X.root.owner) :
    x.ty.core = owner.core := by
  obtain ⟨hroot, -⟩ := linked_cons_iff.1 (linked_of_build hX)
  rw [hx, hroot.core_owner]

/-- An outline has one layer for each stage and one for each key. -/
theorem length_outline (keys : List (List Name)) :
    (keys.flatMap fun ns => none :: ns.map some).length = keys.length + keys.flatten.length := by
  induction keys with
  | nil => rfl
  | cons ns keys ih =>
    rw [List.flatMap_cons, List.length_append, ih, List.flatten_cons, List.length_append,
      List.length_cons, List.length_cons, List.length_map]
    omega

/-! ### Reading -/

/-- Reading through linked layers gives a value of the type of the last. -/
theorem readThrough_typed {v u : Value} (h : Linked C t (l :: ls)) (hv : C.schema.WellTyped v)
    (ht : t.Describes v) (hr : readThrough { scope := C } v l ls = .ok (some u)) :
    C.schema.WellTyped u ∧ ((l :: ls).getLast (List.cons_ne_nil l ls)).ty.Admits u := by
  induction ls generalizing t l v with
  | nil =>
    obtain ⟨hl, -⟩ := linked_cons_iff.1 h
    exact hl.read_typed hv ht hr
  | cons m ls ih =>
    obtain ⟨hl, h⟩ := linked_cons_iff.1 h
    obtain ⟨w?, hread, hr⟩ := bind_eq_ok_iff.1 hr
    cases w? with
    | none => cases hr
    | some w =>
      obtain ⟨hw, hty⟩ := hl.read_typed hv ht hread
      exact ih h hw hty.describes hr

end Accessor

namespace Sample

/-- An item of a holder. -/
def stock : Value := .bean base.bean.path [("value", .int .i32 7)] []

/-- A holder with a single item. -/
def stocked : Value := holder.value.withField "items" (.seq (.list .vec base.ty) [stock])

/-- The holder with an item is well typed, with all its parts and with what its getters give. -/
theorem wellTyped_stocked : schema.WellTyped stocked := by
  let parts : List Value :=
    [stocked, .absent base.ty, .text "", .seq (.list .vec base.ty) [stock], stock, .int .i32 7,
      .map (.table .tree .text .text) [], .int .u32 0, gauge.value, .int .u8 0]
  have hs : ∀ v ∈ parts, schema.Sound (· ∈ parts) v := by decide +kernel
  exact Schema.wellTyped_of_mem hs List.mem_cons_self

end Sample

/-- **A built accessor is linked and reads its type.**  It has a layer for every stage of its
definition and for every key there.  A key goes into the type of the layer before it, and a property
belongs to the bean in that type.  What is read in a well-typed instance has the type of the
accessor, unless that is the type of all values. -/
theorem built_accessors_are_linked_and_typed {C : Scope} {owner : Ty} {d : Definition}
    {X : Accessor} (hX : Accessor.build C owner d = .ok X) :
    (∃ stages keys, d.stages = .ok stages ∧
      List.Forall₂ (fun s ns => s.keys = .ok ns) stages keys ∧
        X.layers.length = stages.length + keys.flatten.length) ∧
    Accessor.Linked C owner X.layers ∧
    ∀ x u, C.schema.WellTyped x → x.ty = X.root.owner → X.get C x = .ok (some u) →
      X.ty = .any ∨ u.ty = X.ty := by
  have linked := Accessor.linked_of_build hX
  refine ⟨?_, linked, fun x u hx hxt hu => ?_⟩
  · obtain ⟨stages, hs, hl⟩ := Accessor.build_eq_ok_iff.1 hX
    obtain ⟨keys, hk, outline⟩ := Accessor.outline_of_layersFrom hl
    refine ⟨stages, keys, hs, hk, ?_⟩
    rw [← List.length_map Layer.key?, outline, Accessor.length_outline, hk.length_eq]
  · rw [Accessor.get_of_instance hxt] at hu
    have hd : owner.Describes x := .inr (Accessor.core_of_instance hX hxt)
    exact (Accessor.readThrough_typed linked hx hd hu).2

/-- From a holder to the value of its first item: a property, a key and a property, and what is read
is a number as the last property declares. -/
theorem built_accessors_are_linked_and_typed_in_holder :
    let C : Scope := ⟨Sample.schema, Sample.freshRegistry⟩
    ∃ X, Accessor.build C Sample.holder.ty { field := "items[0].value" } = .ok X ∧
      X.layers.map Layer.key? = [none, some ⟨"0", none, false, 6⟩, none] ∧
        Accessor.Linked C Sample.holder.ty X.layers ∧
          X.get C Sample.stocked = .ok (some (.int .i32 7)) ∧ X.ty = .int .i32 := by
  intro C
  obtain ⟨X, hX, hkeys, howner, hany, hget⟩ :
      ∃ X, Accessor.build C Sample.holder.ty { field := "items[0].value" } = .ok X ∧
        X.layers.map Layer.key? = [none, some ⟨"0", none, false, 6⟩, none] ∧
          Sample.stocked.ty = X.root.owner ∧ X.ty ≠ .any ∧
            X.get C Sample.stocked = .ok (some (.int .i32 7)) := by
    decide +kernel
  obtain ⟨-, linked, typed⟩ := built_accessors_are_linked_and_typed hX
  have hty := typed _ _ Sample.wellTyped_stocked howner hget
  exact ⟨X, hX, hkeys, linked, hget, (hty.resolve_left hany).symm⟩

end BeanPath
