import BeanPath.Proofs.Linking

/-!
# Declared types of properties

A definition may declare the type of its property.  Only the last stage is looked up with that type,
and only if no keys lead on from it.  Every role has its own relation: what a getter gives has to
fit into the declared type, and what a field or a setter takes has to hold it.  So the type that a
property was found with is related to the declared one (`Accessor.honours_of_propertyLayer`).

Where keys lead on from the last stage nothing is compared with the declared type.  Then the
definition builds the same accessor with every declared type (`Accessor.last_of_layersFrom`).
-/

namespace BeanPath

/-- The getter of a property. -/
def Layer.getter? : Layer → Option Member
  | property _ _ getter _ => getter
  | key .. => none

namespace Accessor

variable {C : Scope} {owner t declared : Ty} {l : Layer} {ls : List Layer}

/-- The layer whose values an accessor leads to. -/
def last (X : Accessor) : Layer := X.rest.getLast?.getD X.root

/-- The last of the layers is the one that an accessor ends with. -/
theorem getLast?_layers (X : Accessor) : X.layers.getLast? = some X.last := List.getLast?_cons

/-- The type of an accessor is that of its last layer. -/
theorem ty_last (X : Accessor) : X.last.ty = X.ty := by
  have h : X.layers.getLast (List.cons_ne_nil X.root X.rest) = X.last :=
    List.getLast_of_getLast?_eq_some X.getLast?_layers
  rw [← h]
  rfl

/-! ### One stage -/

/-- A member that is found for an expected type stands in the relation of its role to it. -/
theorem relation_of_findMember {role : Role} {explicit : Option Segment} {property : String}
    {missing : Ty → String → Problem} {m : Member}
    (h : findMember C owner role explicit property (some t) missing = .ok (some m)) :
    (Relation.default .auto role).accepts C.schema m.ty t = true := by
  cases explicit with
  | none => exact Schema.accepts_of_member? h
  | some s =>
    obtain ⟨_, hfound, hm⟩ := findMember_named_eq_ok_iff.1 h
    cases hfound
    exact Schema.accepts_of_member? hm

/-- **A property that is found for a declared type honours it.** -/
theorem honours_of_propertyLayer {s : Stage}
    (h : propertyLayer C owner s (some declared) = .ok l) :
    l.key? = none ∧
      if l.getter?.isSome then C.schema.assignable declared l.ty = true
      else C.schema.assignable l.ty declared = true := by
  unfold propertyLayer at h
  split at h
  · cases h
  · obtain ⟨field, hf, h⟩ := bind_eq_ok_iff.1 h
    obtain ⟨getter, hg, h⟩ := bind_eq_ok_iff.1 h
    obtain ⟨setter, hs, h⟩ := bind_eq_ok_iff.1 h
    split at h
    · cases h
    · next hsome =>
      cases pure_eq_ok_iff.1 h
      refine ⟨rfl, ?_⟩
      -- The type is that of the getter, else of the field, else of the setter.
      match getter, field, setter with
      | some g, _, _ => exact relation_of_findMember hg
      | none, some f, _ => exact relation_of_findMember hf
      | none, none, some s => exact relation_of_findMember hs
      | none, none, none => exact absurd rfl hsome

/-! ### All stages -/

/-- A stage at least gives a layer at least. -/
theorem exists_getLast?_of_layersFrom {s : Stage} {stages : List Stage} {d : Option Ty}
    (h : layersFrom C d t (s :: stages) = .ok ls) : ∃ l, ls.getLast? = some l := by
  obtain ⟨_, _, property, keyed, rest, -, -, -, -, -, rfl⟩ := layersFrom_cons_eq_ok_iff.1 h
  exact ⟨_, List.getLast?_eq_some_getLast (List.cons_ne_nil _ _)⟩

/-- The layers of at least one key end with a key. -/
theorem exists_key_of_keyLayers {n : Name} {ns : List Name} {keyed : List Layer}
    (h : keyLayers C t (n :: ns) = .ok keyed) :
    ∃ l k, keyed.getLast? = some l ∧ l.key? = some k := by
  have hkeys : keyed.getLast?.map Layer.key? =
      some (some ((n :: ns).getLast (List.cons_ne_nil n ns))) := by
    rw [← List.getLast?_map, keys_of_keyLayers h, List.getLast?_map,
      List.getLast?_eq_some_getLast, Option.map_some]
  obtain ⟨l, hl, hk⟩ := Option.map_eq_some_iff.1 hkeys
  exact ⟨l, _, hl, hk⟩

/-- The last layer is a property found with the declared type, or a key, in which case all declared
types lead to the same layers. -/
theorem last_of_layersFrom {d : Option Ty} {stages : List Stage}
    (h : layersFrom C d t stages = .ok ls) (hl : ls.getLast? = some l) :
    (∃ owner s, propertyLayer C owner s d = .ok l) ∨
      (∃ k, l.key? = some k) ∧ ∀ d', layersFrom C d' t stages = .ok ls := by
  induction stages generalizing t ls with
  | nil => cases h; cases hl
  | cons s stages ih =>
    obtain ⟨keys, owner, property, keyed, rest, hs, ho, hp, hk, hr, rfl⟩ :=
      layersFrom_cons_eq_ok_iff.1 h
    cases stages with
    | cons s' stages =>
      -- The type is not looked at here, and the last layer is that of the later stages.
      obtain ⟨l', hl'⟩ := exists_getLast?_of_layersFrom hr
      rw [← List.cons_append, List.getLast?_append, hl', Option.some_or] at hl
      refine (ih hr (hl'.trans hl)).imp_right fun ⟨hkey, hrest⟩ => ⟨hkey, fun d' => ?_⟩
      exact layersFrom_cons_eq_ok_iff.2
        ⟨keys, owner, property, keyed, rest, hs, ho, hp, hk, hrest d', rfl⟩
    | nil =>
      cases hr
      cases keys with
      | nil =>
        cases hk
        cases hl
        exact .inl ⟨owner, s, hp⟩
      | cons n ns =>
        obtain ⟨l', k, hl', hkey⟩ := exists_key_of_keyLayers hk
        rw [List.append_nil, List.getLast?_cons, hl'] at hl
        cases hl
        refine .inr ⟨⟨k, hkey⟩, fun d' => ?_⟩
        exact layersFrom_cons_eq_ok_iff.2
          ⟨n :: ns, owner, property, keyed, [], hs, ho, hp, hk, rfl, rfl⟩

end Accessor

/-- **Declared types are honoured by properties.**  If a definition that declares a type builds an
accessor whose last layer is a property, the type of the accessor fits into the declared one, or,
where the property has no getter, the declared type fits into it.  If the last layer is a key, the
declared type has no part in building: with any other declared type, and with none, the definition
builds the same accessor. -/
theorem declared_types_are_honoured_by_properties {C : Scope} {owner declared : Ty}
    {d : Definition} {X : Accessor} (hX : Accessor.build C owner d = .ok X)
    (hd : d.ty = some declared) :
    (X.last.key? = none →
      if X.last.getter?.isSome then C.schema.assignable declared X.ty = true
      else C.schema.assignable X.ty declared = true) ∧
      (X.last.key? ≠ none → ∀ ty, Accessor.build C owner { d with ty } = .ok X) := by
  obtain ⟨stages, hs, hl⟩ := Accessor.build_eq_ok_iff.1 hX
  rcases Accessor.last_of_layersFrom hl X.getLast?_layers with ⟨_, _, hp⟩ | ⟨⟨k, hk⟩, hsame⟩
  · rw [hd] at hp
    obtain ⟨hkey, honours⟩ := Accessor.honours_of_propertyLayer hp
    rw [X.ty_last] at honours
    exact ⟨fun _ => honours, fun h => absurd hkey h⟩
  · refine ⟨fun h => ?_, fun _ ty => Accessor.build_eq_ok_iff.2 ⟨stages, hs, hsame ty⟩⟩
    rw [hk] at h
    cases h

/-- A getter and a setter of optional values are found for what they are optional of. -/
theorem declared_types_are_honoured_by_properties_in_mixed :
    let C : Scope := ⟨Sample.schema, Sample.freshRegistry⟩
    (∃ X, Accessor.build C Sample.mixed.ty { ty := some Sample.address.ty, getter := "spare" } =
        .ok X ∧ X.ty = .option Sample.address.ty ∧
          C.schema.assignable Sample.address.ty X.ty = true) ∧
      ∃ X, Accessor.build C Sample.mixed.ty { ty := some (.int .i32), setter := "set_only" } =
        .ok X ∧ X.ty = .option (.int .i32) ∧ C.schema.assignable X.ty (.int .i32) = true := by
  intro C
  constructor
  · obtain ⟨X, hX, hty, hkey, hgetter⟩ : ∃ X, Accessor.build C Sample.mixed.ty
        { ty := some Sample.address.ty, getter := "spare" } = .ok X ∧
          X.ty = .option Sample.address.ty ∧ X.last.key? = none ∧
            X.last.getter?.isSome = true := by
      decide +kernel
    have honours := (declared_types_are_honoured_by_properties hX rfl).1 hkey
    rw [if_pos hgetter] at honours
    exact ⟨X, hX, hty, honours⟩
  · obtain ⟨X, hX, hty, hkey, hgetter⟩ : ∃ X, Accessor.build C Sample.mixed.ty
        { ty := some (.int .i32), setter := "set_only" } = .ok X ∧
          X.ty = .option (.int .i32) ∧ X.last.key? = none ∧
            ¬ X.last.getter?.isSome = true := by
      decide +kernel
    have honours := (declared_types_are_honoured_by_properties hX rfl).1 hkey
    rw [if_neg hgetter] at honours
    exact ⟨X, hX, hty, honours⟩

/-- A number in a list is built for a property that is declared to be a text. -/
theorem keys_lead_to_other_types_than_declared :
    let C : Scope := ⟨Sample.schema, Sample.freshRegistry⟩
    ∃ X, Accessor.build C Sample.mixed.ty { ty := some .text, field := "nums[0]" } = .ok X ∧
      X.ty = .int .i32 ∧ X.ty ≠ .any ∧
        C.schema.assignable X.ty .text = false ∧ C.schema.assignable .text X.ty = false := by
  decide +kernel

end BeanPath
