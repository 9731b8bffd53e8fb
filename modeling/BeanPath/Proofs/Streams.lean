import BeanPath.Proofs.Linking

/-!
# The paths of a definition

A definition gives up to three paths of a property, and building an accessor walks them together:
they have to have one length (`Definition.paths_of_stages`), and where several of them carry keys,
the keys have to be the same (`Stage.keys_eq_ok_iff`).  So the accessor follows all of them
(`built_accessors_follow_all_paths`).

Keys are compared by their texts and qualifiers.  That leaves out what tells a star from an escaped
one, so a wildcard passes for the key that is written with a star, and the first path decides which
of the two is built (`first_path_decides_on_the_star`).
-/

namespace BeanPath

/-! ### Keys of several paths -/

/-- Keys that say the same, except for what tells a star from an escaped one. -/
def Name.Alike (ks ls : List Name) : Prop := ks.map Name.keyText = ls.map Name.keyText

/-- What a name says, wherever in a path it stands. -/
def Name.meaning (n : Name) : String × Option String × Bool := (n.text, n.qualifier, n.wild)

/-- A name that is a wildcard if its text is a star. -/
def Name.Unescaped (n : Name) : Prop := n.wild = (n.text == "*")

instance (n : Name) : Decidable n.Unescaped := inferInstanceAs (Decidable (_ = _))

/-- Without escaped stars, keys that are alike say the same. -/
theorem Name.Alike.meaning_eq {ks ls : List Name} (h : Alike ks ls)
    (hk : ∀ n ∈ ks, n.Unescaped) (hl : ∀ n ∈ ls, n.Unescaped) :
    ks.map Name.meaning = ls.map Name.meaning := by
  have of_keyText (n : Name) (hn : n.Unescaped) :
      n.meaning = (n.keyText.1, n.keyText.2, n.keyText.1 == "*") := by
    unfold Name.meaning
    rw [hn]
    rfl
  have map_of_keyText {ms : List Name} (hm : ∀ n ∈ ms, n.Unescaped) :
      ms.map Name.meaning = (ms.map Name.keyText).map fun k => (k.1, k.2, k.1 == "*") := by
    rw [List.map_map]
    exact List.map_congr_left fun n hn => of_keyText n (hm n hn)
  rw [map_of_keyText hk, map_of_keyText hl, h]

/-- The keys that segments of different paths carry, as far as they carry any. -/
def Segment.carried (segments : List Segment) : List (List Name) :=
  (segments.map Segment.keys).filter fun ks => !ks.isEmpty

/-- The keys of a stage are those of the first path that carries any, and all have to be alike. -/
theorem Stage.keys_eq_ok_iff {s : Stage} {ks : List Name} :
    s.keys = .ok ks ↔ ks = (Segment.carried s.segments).head?.getD [] ∧
      ∀ js ∈ Segment.carried s.segments, Name.Alike js ks := by
  have hc : Segment.carried s.segments =
      (s.segments.filter fun s => !s.keys.isEmpty).map Segment.keys := List.filter_map
  unfold keys
  rw [hc]
  cases s.segments.filter fun s => !s.keys.isEmpty with
  | nil => simp [eq_comm]
  | cons first others =>
    dsimp only
    cases hf : others.find? fun s => s.keys.map Name.keyText != first.keys.map Name.keyText with
    | some other =>
      -- A path with other keys than the first is refused, and it is not like the first.
      have hne := List.find?_some hf
      constructor
      · intro h
        cases h
      · rintro ⟨rfl, h⟩
        have hother := List.mem_cons_of_mem first (List.mem_of_find?_eq_some hf)
        have halike : Name.Alike other.keys first.keys := h _ (List.mem_map_of_mem hother)
        exact absurd halike (bne_iff_ne.1 hne)
    | none =>
      have halike : ∀ js ∈ (first :: others).map Segment.keys, Name.Alike js first.keys := by
        intro js hjs
        obtain ⟨s, hs, rfl⟩ := List.mem_map.1 hjs
        rcases List.mem_cons.1 hs with rfl | hs
        · exact rfl
        · exact not_not.1 fun hne => List.find?_eq_none.1 hf s hs (bne_iff_ne.2 hne)
      constructor
      · intro h
        cases h
        exact ⟨rfl, halike⟩
      · rintro ⟨rfl, -⟩
        rfl

/-! ### Stages -/

namespace Definition

/-- The paths that a definition gives, without stars. -/
def paths (d : Definition) : Except Problem (List (List Segment)) :=
  ([d.field, d.getter, d.setter].mapM stream).map (List.filterMap id)

/-- Paths have a depth if there is one at least and all have that length. -/
theorem depth_eq_ok_iff {paths : List (List Segment)} {n : Nat} :
    depth paths = .ok n ↔ paths ≠ [] ∧ ∀ p ∈ paths, p.length = n := by
  cases paths with
  | nil => simp [depth]
  | cons first others =>
    have hany : (others.any fun other => other.length != first.length) = true ↔
        ¬ ∀ other ∈ others, other.length = first.length := by
      simp
    rw [List.forall_mem_cons, depth]
    split_ifs with h
    · constructor
      · intro hn
        cases hn
      · rintro ⟨-, rfl, hlen⟩
        exact absurd hlen (hany.1 h)
    · constructor
      · intro hn
        cases hn
        exact ⟨List.cons_ne_nil _ _, rfl, not_not.1 (mt hany.2 h)⟩
      · rintro ⟨-, rfl, -⟩
        rfl

/-- The segments of a stage are those that the given paths have there. -/
theorem segments_at (field getter setter : Option (List Segment)) (i : Nat) :
    Stage.segments ⟨field.bind (·[i]?), getter.bind (·[i]?), setter.bind (·[i]?)⟩ =
      ([field, getter, setter].filterMap id).filterMap (·[i]?) := by
  rw [List.filterMap_filterMap]
  rfl

/-- The stages of a definition are the segments of its paths, one of each path at a time. -/
theorem paths_of_stages {d : Definition} {stages : List Stage} (h : d.stages = .ok stages) :
    ∃ paths : List (List Segment), d.paths = .ok paths ∧ paths ≠ [] ∧
      (∀ p ∈ paths, p.length = stages.length) ∧
        ∀ (i : Nat) (s : Stage), stages[i]? = some s → s.segments = paths.filterMap (·[i]?) := by
  obtain ⟨field, hf, h⟩ := bind_eq_ok_iff.1 h
  obtain ⟨getter, hg, h⟩ := bind_eq_ok_iff.1 h
  obtain ⟨setter, hs, h⟩ := bind_eq_ok_iff.1 h
  obtain ⟨n, hn, h⟩ := bind_eq_ok_iff.1 h
  cases pure_eq_ok_iff.1 h
  obtain ⟨hne, hlen⟩ := depth_eq_ok_iff.1 hn
  refine ⟨[field, getter, setter].filterMap id, ?_, hne, ?_, ?_⟩
  · unfold paths
    simp only [List.mapM_cons, List.mapM_nil, hf, hg, hs, bind_ok]
    rfl
  · intro p hp
    rw [hlen p hp, List.length_map, List.length_range]
  · intro i s hi
    obtain ⟨_, rfl⟩ := List.getElem?_eq_some_iff.1 hi
    rw [List.getElem_map, List.getElem_range]
    exact segments_at field getter setter i

end Definition

/-- **A built accessor follows all paths of its definition.**  The paths have one number of
segments, and the accessor has a property for every segment and the keys behind it.  The keys are
those of the first path that carries any there.  What the other paths carry has the same texts and
qualifiers, and also the same wildcards, unless a star is escaped there. -/
theorem built_accessors_follow_all_paths {C : Scope} {owner : Ty} {d : Definition} {X : Accessor}
    (hX : Accessor.build C owner d = .ok X) :
    ∃ (paths : List (List Segment)) (keys : List (List Name)),
      d.paths = .ok paths ∧ paths ≠ [] ∧ (∀ p ∈ paths, p.length = keys.length) ∧
      X.layers.map Layer.key? = (keys.flatMap fun ks => none :: ks.map some) ∧
      ∀ (i : Nat) (ks : List Name), keys[i]? = some ks →
        let carried := Segment.carried (paths.filterMap (·[i]?))
        ks = carried.head?.getD [] ∧ (∀ js ∈ carried, Name.Alike js ks) ∧
          ((∀ js ∈ carried, ∀ n ∈ js, n.Unescaped) →
            ∀ js ∈ carried, js.map Name.meaning = ks.map Name.meaning) := by
  obtain ⟨stages, hs, hl⟩ := Accessor.build_eq_ok_iff.1 hX
  obtain ⟨paths, hp, hne, hlen, hat⟩ := Definition.paths_of_stages hs
  obtain ⟨keys, hkeys, outline⟩ := Accessor.outline_of_layersFrom hl
  refine ⟨paths, keys, hp, hne, fun p hm => by rw [hlen p hm, hkeys.length_eq], outline, ?_⟩
  intro i ks hi carried
  obtain ⟨hi', rfl⟩ := List.getElem?_eq_some_iff.1 hi
  have hi : i < stages.length := hkeys.length_eq ▸ hi'
  have hstage : stages[i].keys = .ok keys[i] := hkeys.get hi hi'
  obtain ⟨hfirst, halike⟩ := Stage.keys_eq_ok_iff.1 hstage
  rw [hat i _ (List.getElem?_eq_getElem hi)] at hfirst halike
  refine ⟨hfirst, halike, fun hun js hjs => (halike js hjs).meaning_eq (hun js hjs) ?_⟩
  have hmem : keys[i] ∈ carried := by
    obtain ⟨first, rest, hc⟩ := List.exists_cons_of_ne_nil (List.ne_nil_of_mem hjs)
    have hhead : keys[i] = first := hfirst.trans (congrArg (·.head?.getD []) hc)
    rw [hhead, hc]
    exact List.mem_cons_self
  exact hun _ hmem

/-- A field, a getter and a setter with one key each: the accessor has the key of the field, and the
other two say the same. -/
theorem built_accessors_follow_all_paths_in_mixed :
    let C : Scope := ⟨Sample.schema, Sample.freshRegistry⟩
    let d : Definition := { field := "nums[0]", getter := "copy[0]", setter := "set_copy[0]" }
    ∃ (X : Accessor) (paths : List (List Segment)) (keys : List (List Name)),
      Accessor.build C Sample.mixed.ty d = .ok X ∧ X.ty = .int .i32 ∧
        d.paths = .ok paths ∧ paths.length = 3 ∧ (∀ p ∈ paths, p.length = keys.length) ∧
          keys[0]? = some [⟨"0", none, false, 5⟩] ∧
            ∀ js ∈ Segment.carried (paths.filterMap (·[0]?)),
              js.map Name.meaning = [("0", none, false)] := by
  intro C d
  obtain ⟨X, hX, hty⟩ :
      ∃ X, Accessor.build C Sample.mixed.ty d = .ok X ∧ X.ty = .int .i32 := by
    decide +kernel
  obtain ⟨paths, hp, hcount, hlen, hun, hhead⟩ :
      ∃ paths, d.paths = .ok paths ∧ paths.length = 3 ∧ (∀ p ∈ paths, p.length = 1) ∧
        (∀ js ∈ Segment.carried (paths.filterMap (·[0]?)), ∀ n ∈ js, n.Unescaped) ∧
          (Segment.carried (paths.filterMap (·[0]?))).head?.getD [] =
            [⟨"0", none, false, 5⟩] := by
    decide +kernel
  obtain ⟨_, keys, hp', hne, hlen', -, hat⟩ := built_accessors_follow_all_paths hX
  cases hp.symm.trans hp'
  obtain ⟨p, hm⟩ := List.exists_mem_of_ne_nil paths hne
  have hone : keys.length = 1 := (hlen' p hm).symm.trans (hlen p hm)
  obtain ⟨ks, rfl⟩ := List.length_eq_one_iff.1 hone
  obtain ⟨hks, -, hmeaning⟩ := hat 0 ks rfl
  rw [hhead] at hks
  subst hks
  exact ⟨X, paths, _, hX, hty, hp, hcount, hlen', rfl, hmeaning hun⟩

/-- A star and an escaped star pass for the same key, and the first path decides which is built. -/
theorem first_path_decides_on_the_star :
    let C : Scope := ⟨Sample.schema, Sample.freshRegistry⟩
    let d : Definition := { field := "nums[*]", getter := "copy[\\*]" }
    let e : Definition := { field := "nums[\\*]", getter := "copy[*]" }
    (∃ paths, d.paths = .ok paths ∧
      (Segment.carried (paths.filterMap (·[0]?))).map (·.map Name.meaning) =
        [[("*", none, true)], [("*", none, false)]]) ∧
    (∃ X, Accessor.build C Sample.mixed.ty d = .ok X ∧
      X.layers.map Layer.key? = [none, some ⟨"*", none, true, 5⟩]) ∧
    ∃ X, Accessor.build C Sample.mixed.ty e = .ok X ∧
      X.layers.map Layer.key? = [none, some ⟨"*", none, false, 5⟩] := by
  decide +kernel

end BeanPath
