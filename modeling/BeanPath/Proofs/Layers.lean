import Mathlib.Data.List.Basic
import BeanPath.Accessor
import BeanPath.Access
import BeanPath.Proofs.Lookup

/-!
# The layers of a built accessor

An accessor for a field path has one layer for every step of the path (`Accessor.leads_of_build`): a
property with the members that its base name finds on the type reached so far, or a key into it.
The field is looked up by its exact name, which for a name in snake case is the same as by
convention (`Schema.member?_named`).
-/

namespace BeanPath

/-! ### Names in snake case -/

/-- A base name in snake case: not empty, without a qualifier, and its own snake spelling. -/
def Name.Snake (n : Name) : Prop :=
  n.text ≠ "" ∧ n.qualifier = none ∧ Spelling.snake n.text = n.text

instance (n : Name) : Decidable n.Snake := inferInstanceAs (Decidable (_ ∧ _))

/-- A base name in snake case is a step, and none that is left out. -/
theorem Name.Snake.skip {n : Name} (h : n.Snake) : n.skip = false := by
  obtain ⟨ht, hq, -⟩ := h
  simp [Name.skip, hq, ht]

/-- All segments of a path that can be parsed have base names in snake case. -/
def Path.Snake (path : String) : Prop :=
  ∀ segments, (Path.segments path).mapM id = .ok segments → ∀ s ∈ segments, s.base.Snake

instance (path : String) : Decidable (Path.Snake path) :=
  match h : (Path.segments path).mapM id with
  | .error _ => .isTrue fun segments hs => by rw [h] at hs; cases hs
  | .ok segments =>
    decidable_of_iff (∀ s ∈ segments, s.base.Snake) <| by
      unfold Path.Snake
      rw [h]
      exact ⟨fun hs _ hok => by cases hok; exact hs, fun hs => hs segments rfl⟩

namespace Query

variable {S : Schema} {q : Query}

/-- A query for a name does not fail, whether or not it finds anything. -/
theorem exists_nearest (ha : q.anyName = false) (ls : List Level) :
    ∃ found, q.nearest S ls = .ok found := by
  induction ls with
  | nil => exact ⟨[], rfl⟩
  | cons l ls ih =>
    have hl : q.atLevel S l = .ok ((q.matching S l.bean).map l.member) :=
      atLevel_eq_ok_iff.2 ⟨by rw [ha]; rfl, rfl⟩
    obtain ⟨found, ih⟩ := ih
    cases hf : (q.matching S l.bean).map l.member with
    | nil => exact ⟨found, nearest_cons_eq_ok_iff.2 (.inl ⟨hf ▸ hl, ih⟩)⟩
    | cons m ms =>
      exact ⟨m :: ms, nearest_cons_eq_ok_iff.2 (.inr ⟨hf ▸ hl, List.cons_ne_nil m ms⟩)⟩

end Query

namespace Schema

variable {S : Schema}

/-- By convention a field in snake case is found by its exact name. -/
theorem member?_named {name : String} (hs : Spelling.snake name = name) (owner : Ty) :
    S.member? { role := .field, name, mode := .named } owner =
      S.member? { role := .field, name } owner := by
  have hc : Spelling.candidates .field .auto name = Spelling.candidates .field .named name := by
    simp [Spelling.candidates, Spelling.spellings, Mode.usesConventions, Spelling.affixes, hs,
      Spelling.addCandidate]
  have hn : Query.anyName { role := .field, name, mode := .named } = false := by
    simp [Query.anyName]
  have ha : Query.anyName { role := .field, name } = false := by
    simp [Query.anyName]
  have hm (b : Bean) : Query.matching S { role := .field, name, mode := .named } b =
      Query.matching S { role := .field, name } b := by
    unfold Query.matching
    rw [hn, ha]
    dsimp only
    rw [hc]
    rfl
  have hl (l : Level) : Query.atLevel S { role := .field, name, mode := .named } l =
      Query.atLevel S { role := .field, name } l := by
    unfold Query.atLevel
    rw [hm, hn, ha]
  unfold member? nearestMembers
  rw [Query.nearest_congr fun l _ => hl l]
  rfl

/-- An exact name finds members of that name. -/
theorem name_of_member?_named {role : Role} {name : String} {expected : Option Ty} {owner : Ty}
    {m : Member}
    (h : S.member? { role, name, expected, mode := .named } owner = .ok (some m)) :
    m.name = name := by
  obtain ⟨l, -, d, hd, rfl⟩ := exists_level_of_member? h
  have ha : Query.anyName { role, name, expected, mode := .named } = false := by
    simp [Query.anyName]
  have hc : Spelling.candidates role .named name = [{ name }] := rfl
  unfold Query.matching at hd
  rw [ha] at hd
  dsimp only at hd
  obtain ⟨c, hc, hd⟩ := List.mem_filterMap.1 (List.mem_filter.1 hd).1
  cases List.mem_singleton.1 hc
  have hd := List.find?_some (Option.filter_eq_some_iff.1 hd).1
  exact beq_iff_eq.1 hd

/-- A lookup by convention never fails. -/
theorem exists_member?_auto (role : Role) (name : String) (expected : Option Ty) (owner : Ty) :
    ∃ m, S.member? { role, name, expected } owner = .ok m := by
  have ha : Query.anyName { role, name, expected } = false := by
    simp [Query.anyName]
  obtain ⟨found, hf⟩ := Query.exists_nearest (S := S) ha (S.levels owner)
  cases found with
  | nil => exact ⟨none, member?_eq_ok_none_iff.2 ⟨rfl, hf⟩⟩
  | cons m ms => exact ⟨some m, member?_eq_ok_some_iff.2 ⟨rfl, ms, hf⟩⟩

/-- By name alone a setter is found that takes what the property is declared to be, or none. -/
theorem member?_setter {name : String} {owner declared : Ty}
    {setter : Option Member}
    (hs : S.member? { role := .setter, name, expected := some declared } owner = .ok setter)
    (hfit : ∀ s, S.member? { role := .setter, name } owner = .ok (some s) →
      S.assignable s.ty declared = true) :
    S.member? { role := .setter, name } owner = .ok setter := by
  have hn : Query.Narrower S { role := .setter, name } (some declared) :=
    Query.narrower_of_none rfl _
  obtain ⟨found, hf⟩ := S.exists_member?_auto .setter name none owner
  cases found with
  | none =>
    have h := member?_narrow_none hn hf
    rw [hf, ← hs]
    exact h.symm
  | some s =>
    have h := member?_narrow hn hf (hfit s hf)
    rw [hf, ← hs]
    exact h.symm

end Schema

/-! ### Layers for steps -/

/-- A property is looked up on a bean type, under whatever optional layers. -/
theorem Ty.beanType_eq_ok_iff {t owner : Ty} :
    t.beanType = .ok owner ↔ ∃ path, t.core = .bean path ∧ owner = .bean path := by
  unfold beanType
  split
  · next path h => simp [h, eq_comm]
  · next h =>
    constructor
    · intro h
      cases h
    · rintro ⟨path, hp, -⟩
      exact (h path hp).elim

/-- A layer for a step from a type: a property with the members of its name, where a setter has to
take what the property reads as, or a key. -/
inductive Layer.Takes (C : Scope) : Ty → Name → Layer → Prop
  | property {t owner : Ty} {n : Name} {field : Member} {getter setter : Option Member}
      (bean : t.beanType = .ok owner) (plain : n.qualifier = none) (name : field.name = n.text)
      (field_found : C.schema.member? { role := .field, name := n.text } owner = .ok (some field))
      (getter_found : C.schema.member? { role := .getter, name := n.text } owner = .ok getter)
      (setter_found : C.schema.member?
        { role := .setter, name := n.text, expected := some (getter.getD field).ty } owner =
          .ok setter) :
      Takes C t n (.property owner (some field) getter setter)
  | key (t : Ty) (n : Name) : Takes C t n (.key t n)

namespace Accessor

variable {C : Scope}

/-- Layers for the steps from a type, each from the type that the one before leads to. -/
inductive Leads (C : Scope) : Ty → List Name → List Layer → Prop
  | nil (t : Ty) : Leads C t [] []
  | cons {t : Ty} {n : Name} {l : Layer} {ns : List Name} {ls : List Layer} :
      l.Takes C t n → Leads C l.ty ns ls → Leads C t (n :: ns) (l :: ls)

/-- Layers lead along steps if the first takes the first step and the others lead on from its
type. -/
theorem leads_cons_iff {t : Ty} {n : Name} {ns : List Name} {l : Layer} {ls : List Layer} :
    Leads C t (n :: ns) (l :: ls) ↔ l.Takes C t n ∧ Leads C l.ty ns ls := by
  constructor
  · rintro (_ | ⟨hl, h⟩)
    exact ⟨hl, h⟩
  · rintro ⟨hl, h⟩
    exact .cons hl h

/-- No layer, no step. -/
theorem Leads.eq_nil {t : Ty} {ns : List Name} (h : Leads C t ns []) : ns = [] := by
  cases h
  rfl

/-- A layer takes a step. -/
theorem Leads.exists_cons {t : Ty} {ns : List Name} {l : Layer} {ls : List Layer}
    (h : Leads C t ns (l :: ls)) : ∃ n ms, ns = n :: ms := by
  cases h
  exact ⟨_, _, rfl⟩

/-- Layers that go on where other layers end lead along the steps of both. -/
theorem Leads.append {t : Ty} {ns ns' : List Name} {ls ls' : List Layer} (h : Leads C t ns ls)
    (h' : Leads C ((ls.getLast?.map Layer.ty).getD t) ns' ls') :
    Leads C t (ns ++ ns') (ls ++ ls') := by
  induction h with
  | nil t => exact h'
  | cons hl _ ih =>
    refine .cons hl (ih ?_)
    rw [List.getLast?_cons] at h'
    simpa [Option.getD_map] using h'

/-- The layers that are built for keys lead along them. -/
theorem leads_of_keyLayers {t : Ty} {ns : List Name} {ls : List Layer}
    (h : keyLayers C t ns = .ok ls) : Leads C t ns ls := by
  induction ns generalizing t ls with
  | nil => cases h; exact .nil t
  | cons n ns ih =>
    obtain ⟨_, -, h⟩ := bind_eq_ok_iff.1 h
    obtain ⟨rest, hr, h⟩ := bind_eq_ok_iff.1 h
    cases pure_eq_ok_iff.1 h
    exact .cons (.key t n) (ih hr)

/-- A property that is named finds its member by exactly this name, and it must be there. -/
theorem findMember_named_eq_ok_iff {owner : Ty} {role : Role} {s : Segment} {property : String}
    {expected : Option Ty} {missing : Ty → String → Problem} {m : Option Member} :
    findMember C owner role (some s) property expected missing = .ok m ↔
      ∃ found, m = some found ∧
        C.schema.member? { role, name := s.base.text, expected, mode := .named } owner =
          .ok (some found) := by
  unfold findMember
  rw [bind_eq_ok_iff]
  constructor
  · rintro ⟨found, hf, h⟩
    cases found with
    | none => cases h
    | some found => exact ⟨found, (pure_eq_ok_iff.1 h).symm, hf⟩
  · rintro ⟨found, rfl, hf⟩
    exact ⟨some found, hf, rfl⟩

/-- The stage of a definition that names nothing but a field. -/
def fieldStage (s : Segment) : Stage := ⟨some s, none, none⟩

/-- A stage of a field alone has the keys of the field. -/
theorem keys_fieldStage (s : Segment) : (fieldStage s).keys = .ok s.keys := by
  have hs : (fieldStage s).segments = [s] := rfl
  unfold Stage.keys
  rw [hs]
  cases h : s.keys with
  | nil => simp [h]
  | cons n ns => simp [h]

/-- The layer that is built for a field takes the step of its base name. -/
theorem takes_of_propertyLayer {t owner : Ty} {s : Segment} {l : Layer} (hs : s.base.Snake)
    (ht : t.beanType = .ok owner) (h : propertyLayer C owner (fieldStage s) none = .ok l) :
    l.Takes C t s.base := by
  obtain ⟨-, hq, hn⟩ := hs
  obtain ⟨field, hf, h⟩ := bind_eq_ok_iff.1 (show (_ >>= _) = _ from h)
  obtain ⟨getter, hg, h⟩ := bind_eq_ok_iff.1 h
  obtain ⟨setter, hs, h⟩ := bind_eq_ok_iff.1 h
  obtain ⟨field, rfl, hm⟩ := findMember_named_eq_ok_iff.1 hf
  cases pure_eq_ok_iff.1 h
  have hname := Schema.name_of_member?_named hm
  rw [Schema.member?_named hn] at hm
  refine .property ht hq hname hm hg ?_
  cases getter <;> exact hs

/-- A stage adds a property and its keys, and the next stage goes on from the last of them. -/
theorem layersFrom_cons_eq_ok_iff {declared : Option Ty} {t : Ty} {s : Stage} {stages : List Stage}
    {ls : List Layer} : layersFrom C declared t (s :: stages) = .ok ls ↔
    ∃ keys owner property keyed rest, s.keys = .ok keys ∧ t.beanType = .ok owner ∧
      propertyLayer C owner s (if stages.isEmpty && keys.isEmpty then declared else none) =
        .ok property ∧
      keyLayers C property.ty keys = .ok keyed ∧
      layersFrom C declared ((keyed.getLast?.map Layer.ty).getD property.ty) stages = .ok rest ∧
      ls = property :: (keyed ++ rest) := by
  rw [layersFrom]
  constructor
  · intro h
    obtain ⟨keys, hs, h⟩ := bind_eq_ok_iff.1 h
    obtain ⟨owner, ho, h⟩ := bind_eq_ok_iff.1 h
    obtain ⟨property, hp, h⟩ := bind_eq_ok_iff.1 h
    obtain ⟨keyed, hk, h⟩ := bind_eq_ok_iff.1 h
    obtain ⟨rest, hr, h⟩ := bind_eq_ok_iff.1 h
    rw [← Option.getD_map Layer.ty] at hr
    exact ⟨keys, owner, property, keyed, rest, hs, ho, hp, hk, hr, (pure_eq_ok_iff.1 h).symm⟩
  · rintro ⟨keys, owner, property, keyed, rest, hs, ho, hp, hk, hr, rfl⟩
    rw [Option.getD_map Layer.ty] at hr
    rw [hs, bind_ok, ho, bind_ok, hp, bind_ok, hk, bind_ok]
    dsimp only
    rw [hr]
    rfl

/-- The layers that are built for segments lead along all their steps, by induction on the
segments. -/
theorem leads_of_layersFrom {t : Ty} {segments : List Segment} {ls : List Layer}
    (hs : ∀ s ∈ segments, s.base.Snake)
    (h : layersFrom C none t (segments.map fieldStage) = .ok ls) :
    Leads C t (segments.flatMap fun s => s.base :: s.keys) ls := by
  induction segments generalizing t ls with
  | nil => cases h; exact .nil t
  | cons s segments ih =>
    rw [List.forall_mem_cons] at hs
    obtain ⟨keys, owner, property, keyed, rest, hkeys, ho, hp, hk, hr, rfl⟩ :=
      layersFrom_cons_eq_ok_iff.1 h
    rw [keys_fieldStage] at hkeys
    cases hkeys
    rw [ite_self] at hp
    rw [List.flatMap_cons]
    exact .cons (takes_of_propertyLayer hs.1 ho hp) ((leads_of_keyLayers hk).append (ih hs.2 hr))

/-! ### Building -/

/-- An accessor is built exactly if its definition has stages and these have layers. -/
theorem build_eq_ok_iff {owner : Ty} {d : Definition} {X : Accessor} :
    build C owner d = .ok X ↔
      ∃ stages, d.stages = .ok stages ∧ layersFrom C d.ty owner stages = .ok X.layers := by
  unfold build
  rw [mapError_eq_ok_iff]
  unfold buildPlain
  rw [bind_eq_ok_iff]
  refine exists_congr fun stages => and_congr_right fun _ => ?_
  rw [bind_eq_ok_iff]
  constructor
  · rintro ⟨ls, hl, h⟩
    cases ls with
    | nil => cases h
    | cons root rest => cases pure_eq_ok_iff.1 h; exact hl
  · intro hl
    exact ⟨X.layers, hl, rfl⟩

/-- A definition by a field path in snake case has a stage for each segment. -/
theorem stages_of_snake {p : String} (hp : Path.Snake p) {stages : List Stage}
    (h : Definition.stages { field := p } = .ok stages) :
    ∃ segments, (Path.segments p).mapM id = .ok segments ∧ stages = segments.map fieldStage := by
  obtain ⟨field, hf, h⟩ := bind_eq_ok_iff.1 h
  obtain ⟨getter, hg, h⟩ := bind_eq_ok_iff.1 h
  obtain ⟨setter, hs, h⟩ := bind_eq_ok_iff.1 h
  obtain ⟨depth, hd, h⟩ := bind_eq_ok_iff.1 h
  cases hg
  cases hs
  unfold Definition.stream at hf
  split at hf
  · cases hf
    cases hd
  · split at hf
    · cases hf
    · next segments hseg =>
      refine ⟨segments, hseg, ?_⟩
      have hall : segments.filter (fun s => !s.base.skip || !s.groups.isEmpty) = segments :=
        List.filter_eq_self.2 fun s hs => by rw [(hp segments hseg s hs).skip]; rfl
      rw [hall] at hf
      cases hf
      cases hd
      rw [← pure_eq_ok_iff.1 h]
      refine List.ext_getElem (by simp) fun i hi hi' => ?_
      simp [fieldStage]

/-- The steps of a path in snake case are the base names with their keys; none is left out. -/
theorem route_of_snake {p : String} (hp : Path.Snake p) {segments : List Segment}
    (h : (Path.segments p).mapM id = .ok segments) :
    Path.route p = .ok (segments.flatMap fun s => s.base :: s.keys) := by
  unfold Path.route Path.steps
  rw [h, bind_ok]
  show Except.ok ((segments.flatMap Segment.steps).filter fun n => !n.skip) = _
  rw [List.filter_flatMap]
  congr 1
  refine List.flatMap_congr fun s hs => ?_
  rw [Segment.steps, List.filter_cons_of_pos (by rw [(hp segments h s hs).skip]; rfl)]
  rfl

/-- **A built accessor follows its path**: it has a layer for every step. -/
theorem leads_of_build {owner : Ty} {p : String} {X : Accessor} (hp : Path.Snake p)
    (h : build C owner { field := p } = .ok X) :
    ∃ names, Path.route p = .ok names ∧ Leads C owner names X.layers := by
  obtain ⟨stages, hs, hl⟩ := build_eq_ok_iff.1 h
  obtain ⟨segments, hseg, rfl⟩ := stages_of_snake hp hs
  exact ⟨_, route_of_snake hp hseg, leads_of_layersFrom (hp segments hseg) hl⟩

/-! ### Instances -/

/-- On an instance of its owner an accessor reads through its layers. -/
theorem get_of_instance {X : Accessor} {v : Value} (h : v.ty = X.root.owner) :
    X.get C v = readThrough { scope := C } v X.root X.rest := by
  unfold get checkInstance
  rw [if_pos h]
  rfl

/-- On an instance of its owner an accessor writes through its layers. -/
theorem set_of_instance {X : Accessor} {v : Value} (h : v.ty = X.root.owner) (w : Option Value) :
    X.set C w v = writeThrough { scope := C } w X.root X.rest v := by
  unfold set
  rw [Update.bind_apply, Update.get_apply]
  dsimp only
  rw [Update.bind_apply, Update.liftProblem_apply]
  unfold checkInstance
  rw [if_pos h]

end Accessor
end BeanPath
