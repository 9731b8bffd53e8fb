import BeanPath.Proofs.TypeNames

/-!
# What names stand for while types are registered

A name is looked up in stages: as an alias, as a path, as a path inside each of the namespaces, and
as a short name.  The first stage that finds a type decides (`Registry.resolve?_eq_some_iff`).

Registering more types leaves aliases and namespaces alone, forgets no type, and changes what a path
finds only by entering another type of that path (`Registry.Grows`).  So what a stage has found it
finds again, unless it is the last one and another type of the same short name has come, or it
looks for a path and another type has that path (`Registry.Grows.find?`).  A name that stands for
something may be taken over by an earlier stage, or get lost because its short name has become
ambiguous; at its own stage it moves to nothing but a type of the very same path, and it never moves
to a later one (`names_are_not_redirected`).

Types are told apart by more than their paths: two types may be declared by one name in two blocks
of a function.  The second of them takes over the path (`path_of_two_types_moves_to_the_second`).
-/

namespace BeanPath
namespace Registry

/-- A stage of the lookup of a name. -/
inductive Stage where
  | ofAlias
  | ofPath
  /-- Inside the namespace at a position. -/
  | inside (i : Nat)
  | ofShortName
  deriving DecidableEq, Repr

namespace Stage

/-- A stage comes before another one. -/
def Before : Stage → Stage → Prop
  | ofAlias, s => s ≠ ofAlias
  | ofPath, s => s ≠ ofAlias ∧ s ≠ ofPath
  | inside i, inside j => i < j
  | inside _, ofShortName => True
  | _, _ => False

/-- Of two stages one comes before the other. -/
theorem before_trichotomy (s s' : Stage) : s = s' ∨ s.Before s' ∨ s'.Before s := by
  cases s with
  | inside i =>
    cases s' with
    | inside j =>
      rw [inside.injEq]
      exact Nat.lt_trichotomy i j |>.elim (fun h => .inr (.inl h)) (Or.imp_right .inr)
    | _ => simp [Before]
  | _ => cases s' <;> simp [Before]

/-- Nothing comes before the aliases. -/
theorem not_before_ofAlias (s : Stage) : ¬ s.Before ofAlias := by
  cases s <;> simp [Before]

/-- Only the aliases come before the paths. -/
theorem eq_ofAlias_of_before_ofPath {s : Stage} (h : s.Before ofPath) : s = ofAlias := by
  cases s <;> simp_all [Before]

/-- Short names come last. -/
theorem not_ofShortName_before (s : Stage) : ¬ ofShortName.Before s := by
  cases s <;> simp [Before]

/-- A stage looks a path up: the name itself, or the name inside a namespace. -/
def ByPath : Stage → Prop
  | ofPath | inside _ => True
  | ofAlias | ofShortName => False

/-- What a stage finds for a name. -/
def find? (r : Registry) (name : String) : Stage → Option Ty
  | ofAlias => r.byAlias? name
  | ofPath => r.byPath? name
  | inside i => r.namespaces[i]?.bind fun modules => r.byPath? (modules ++ "::" ++ name)
  | ofShortName => r.byName? name

end Stage

variable {S : Schema} {r r' : Registry} {s s' : Stage} {t u : Ty} {name : String}

/-! ### The first stage decides -/

/-- A name stands for the type that a stage finds, where no stage before it finds any. -/
def ResolvesAt (r : Registry) (name : String) (s : Stage) (t : Ty) : Prop :=
  s.find? r (Text.trimmed name) = some t ∧
    ∀ s' : Stage, s'.Before s → s'.find? r (Text.trimmed name) = none

/-- A name stands for one type, found at one stage. -/
theorem ResolvesAt.unique (h : r.ResolvesAt name s t) (h' : r.ResolvesAt name s' u) :
    s = s' ∧ t = u := by
  obtain ⟨hfound, hbefore⟩ := h
  obtain ⟨hfound', hbefore'⟩ := h'
  have hs : s = s' := by
    rcases s.before_trichotomy s' with hs | hs | hs
    · exact hs
    · rw [hbefore' s hs] at hfound
      cases hfound
    · rw [hbefore s' hs] at hfound'
      cases hfound'
  subst hs
  exact ⟨rfl, Option.some.inj (hfound.symm.trans hfound')⟩

/-- Looking a name up tries the stages one after the other. -/
theorem resolve?_eq (r : Registry) (name : String) :
    r.resolve? name = ((Stage.ofAlias.find? r (Text.trimmed name)).or
      ((Stage.ofPath.find? r (Text.trimmed name)).or
        ((r.namespaces.findSome? fun modules =>
            r.byPath? (modules ++ "::" ++ Text.trimmed name)).or
          (Stage.ofShortName.find? r (Text.trimmed name))))) := by
  simp only [resolve?, Stage.find?, Option.orElse_eq_orElse, Option.orElse_eq_or]

/-- No stage inside a namespace finds a name if no namespace has a type of that path. -/
theorem find?_inside_eq_none_iff : (∀ i, (Stage.inside i).find? r name = none) ↔
    ∀ modules ∈ r.namespaces, r.byPath? (modules ++ "::" ++ name) = none := by
  constructor
  · intro h modules hm
    obtain ⟨i, hi⟩ := List.getElem?_of_mem hm
    simpa [Stage.find?, hi] using h i
  · intro h i
    cases hi : r.namespaces[i]? with
    | none => simp [Stage.find?, hi]
    | some modules => simpa [Stage.find?, hi] using h modules (List.mem_of_getElem? hi)

/-- A name stands for nothing if no stage finds a type for it. -/
theorem resolve?_eq_none_iff :
    r.resolve? name = none ↔ ∀ s : Stage, s.find? r (Text.trimmed name) = none := by
  simp only [resolve?_eq, Option.or_eq_none_iff, List.findSome?_eq_none_iff,
    ← find?_inside_eq_none_iff]
  constructor
  · rintro ⟨halias, hpath, hinside, hshort⟩ s
    cases s with
    | ofAlias => exact halias
    | ofPath => exact hpath
    | inside i => exact hinside i
    | ofShortName => exact hshort
  · exact fun h => ⟨h .ofAlias, h .ofPath, fun i => h (.inside i), h .ofShortName⟩

/-- What a name stands for was found at some stage, and at none before it. -/
theorem exists_resolvesAt (h : r.resolve? name = some t) : ∃ s, r.ResolvesAt name s t := by
  simp only [resolve?_eq, Option.or_eq_some_iff, List.findSome?_eq_none_iff,
    ← find?_inside_eq_none_iff] at h
  rcases h with h | ⟨halias, h | ⟨hpath, h | ⟨hinside, h⟩⟩⟩
  · exact ⟨.ofAlias, h, fun s' hs => absurd hs s'.not_before_ofAlias⟩
  · refine ⟨.ofPath, h, fun s' hs => ?_⟩
    rw [Stage.eq_ofAlias_of_before_ofPath hs, halias]
  · obtain ⟨before, modules, behind, hn, h, hbefore⟩ := List.findSome?_eq_some_iff.1 h
    refine ⟨.inside before.length, by simpa [Stage.find?, hn] using h, fun s' hs => ?_⟩
    cases s' with
    | ofAlias => exact halias
    | ofPath => exact hpath
    | inside j =>
      have hj : j < before.length := hs
      have hget : (before ++ modules :: behind)[j]? = some before[j] := by
        rw [List.getElem?_append_left hj, List.getElem?_eq_getElem hj]
      simpa [Stage.find?, hn, hget] using hbefore before[j] (List.getElem_mem hj)
    | ofShortName => exact absurd hs (Stage.not_ofShortName_before _)
  · refine ⟨.ofShortName, h, fun s' hs => ?_⟩
    cases s' with
    | ofAlias => exact halias
    | ofPath => exact hpath
    | inside j => exact hinside j
    | ofShortName => exact absurd hs (Stage.not_ofShortName_before _)

/-- **The first stage that finds a type decides** what a name stands for. -/
theorem resolve?_eq_some_iff : r.resolve? name = some t ↔ ∃ s, r.ResolvesAt name s t := by
  refine ⟨exists_resolvesAt, ?_⟩
  rintro ⟨s, hs⟩
  cases hr : r.resolve? name with
  | none =>
    have hfound := hs.1
    rw [resolve?_eq_none_iff.1 hr s] at hfound
    cases hfound
  | some u =>
    obtain ⟨s', hs'⟩ := exists_resolvesAt hr
    rw [(hs.unique hs').2]

/-! ### Registries that grow -/

/-- A type that was not registered before has the path of another one, and so takes its place where
types are found by path. -/
def Displaces (r r' : Registry) (u t : Ty) : Prop :=
  r.has u = false ∧ r'.has u = true ∧ u.path = t.path

/-- A registry has the aliases and the namespaces of another one and all its types, and finds by
each path what that one finds or a type that is new. -/
structure Grows (r r' : Registry) : Prop where
  aliases : r'.aliases = r.aliases
  namespaces : r'.namespaces = r.namespaces
  has : ∀ t, r.has t = true → r'.has t = true
  paths : ∀ path, r'.byPath? path = r.byPath? path ∨
    ∃ u, r.has u = false ∧ r'.has u = true ∧ u.path = path ∧ r'.byPath? path = some u

/-- A registry counts as grown from itself. -/
theorem Grows.refl (r : Registry) : r.Grows r := ⟨rfl, rfl, fun _ => id, fun _ => .inl rfl⟩

/-- Entering a type that is not yet there lets a registry grow further. -/
theorem Grows.enter (h : r.Grows r') (ht : r'.has t = false) : r.Grows (r'.enter t) where
  aliases := by rw [aliases_enter, h.aliases]
  namespaces := by
    obtain ⟨_, _, he⟩ := r'.enter_eq t
    rw [he, ← h.namespaces]
  has := fun u hu => has_enter.2 (.inl (h.has u hu))
  paths := by
    intro path
    rw [byPath?_enter]
    split
    · next hp =>
      have hnew : r.has t = false := by
        rw [← Bool.not_eq_true] at ht ⊢
        exact mt (h.has t) ht
      exact .inr ⟨t, hnew, has_enter.2 (.inr rfl), hp.symm, rfl⟩
    · exact (h.paths path).imp_right fun ⟨u, hu, hu', hp⟩ =>
        ⟨u, hu, has_enter.2 (.inl hu'), hp⟩

/-- A registry grows with all types that are registered. -/
theorem grows_registerAll (r : Registry) (S : Schema) (ts : List Ty) :
    r.Grows (r.registerAll S ts) := by
  suffices h : ∀ w, r.Grows w → r.Grows (w.registerAll S ts) from h r (.refl r)
  induction ts with
  | nil => exact fun w h => h
  | cons t ts ih =>
    exact fun w h => ih _ ((walk_register w S t).preserves (fun _ _ ht hw => hw.enter ht) h)

/-- Registering types after some calls is making more calls. -/
theorem registerAll_ofCalls (S : Schema) (calls : List Call) (ts : List Ty) :
    (ofCalls S calls).registerAll S ts = ofCalls S (calls ++ ts.map .register) := by
  simp only [ofCalls, registerAll, List.foldl_append, List.foldl_map]
  rfl

/-- Growing leaves alone what aliases stand for. -/
theorem Grows.byAlias?_eq (hg : r.Grows r') (name : String) :
    r'.byAlias? name = r.byAlias? name := by
  unfold Registry.byAlias?
  rw [hg.aliases]

section Growing

variable (hr : r.Indexed) (hr' : r'.Indexed) (hg : r.Grows r')

include hr hg in
/-- A path finds its type again, or one that displaces it. -/
theorem Grows.byPath? {path : String} (h : r.byPath? path = some t) :
    r'.byPath? path = some t ∨ ∃ u, r.Displaces r' u t ∧ r'.byPath? path = some u := by
  obtain he | ⟨u, hu, hu', hp, he⟩ := hg.paths path
  · exact .inl (he.trans h)
  · exact .inr ⟨u, ⟨hu, hu', hp.trans (hr.path_eq path t h).symm⟩, he⟩

include hr hr' hg

/-- A short name finds its type again, unless it is ambiguous now. -/
theorem Grows.byName? {short : String} (h : r.byName? short = some t) :
    r'.byName? short = some t ∨ r'.byName? short = none ∧ r'.isAmbiguous short = true := by
  obtain ⟨hhas, rfl, -⟩ := (hr.byName short t).1 h
  rcases onlyNamed_or_shared (hg.has t hhas) with ho | hs
  · exact .inl ((hr'.byName _ t).2 ho)
  · refine .inr ⟨Option.eq_none_iff_forall_ne_some.2 fun u hu => ?_, (hr'.ambiguous _).2 hs⟩
    exact ((hr'.byName _ u).1 hu).not_shared hs

/-- A stage finds a type again, unless that was by a path and another type displaces it, or by a
short name that is ambiguous now. -/
theorem Grows.find? (h : s.find? r name = some t) :
    s.find? r' name = some t ∨
      (s.ByPath ∧ ∃ u, r.Displaces r' u t ∧ s.find? r' name = some u) ∨
      s = .ofShortName ∧ s.find? r' name = none ∧ r'.isAmbiguous name = true := by
  cases s with
  | ofAlias => exact .inl ((hg.byAlias?_eq name).trans h)
  | ofPath => exact (hg.byPath? hr h).imp_right fun hd => .inl ⟨trivial, hd⟩
  | inside i =>
    obtain ⟨modules, hm, h⟩ := Option.bind_eq_some_iff.1 h
    have hm : r'.namespaces[i]? = some modules := by rw [hg.namespaces, hm]
    rw [Stage.find?, hm]
    exact (hg.byPath? hr h).imp_right fun hd => .inl ⟨trivial, hd⟩
  | ofShortName => exact (hg.byName? hr hr' h).imp_right fun h => .inr ⟨rfl, h⟩

/-- Where a name stood for a type at a stage, it stands for that type, or for one of an earlier
stage, or for one that displaces the type at its stage, or its short name is ambiguous now. -/
theorem Grows.resolves (h : r.ResolvesAt name s t) :
    r'.resolve? name = some t ∨
      (∃ s' u, s'.Before s ∧ r'.ResolvesAt name s' u ∧ r'.resolve? name = some u) ∨
      (s = .ofShortName ∧ r'.resolve? name = none ∧
        r'.isAmbiguous (Text.trimmed name) = true) ∨
      (s.ByPath ∧ ∃ u, r.Displaces r' u t ∧ r'.ResolvesAt name s u ∧
        r'.resolve? name = some u) := by
  have hfind := hg.find? hr hr' h.1
  cases hn : r'.resolve? name with
  | none =>
    rw [resolve?_eq_none_iff.1 hn s] at hfind
    rcases hfind with hfind | ⟨-, u, -, hfind⟩ | ⟨hshort, -, ha⟩
    · cases hfind
    · cases hfind
    · exact .inr (.inr (.inl ⟨hshort, rfl, ha⟩))
  | some u =>
    obtain ⟨s', hu⟩ := exists_resolvesAt hn
    rcases s'.before_trichotomy s with rfl | hbefore | hbehind
    · rw [hu.1] at hfind
      rcases hfind with hfind | ⟨hs, v, hd, hfind⟩ | ⟨-, hfind, -⟩
      · exact .inl hfind
      · cases hfind
        exact .inr (.inr (.inr ⟨hs, u, hd, hu, rfl⟩))
      · cases hfind
    · exact .inr (.inl ⟨s', u, hbefore, hu, rfl⟩)
    · -- Behind the old stage nothing counts, because the old stage still finds some type.
      rw [hu.2 s hbehind] at hfind
      rcases hfind with hfind | ⟨-, v, -, hfind⟩ | ⟨rfl, -⟩
      · cases hfind
      · cases hfind
      · exact absurd hbehind s'.not_ofShortName_before

end Growing

end Registry

/-- Registering a type that refers to one scalar enters both. -/
theorem Registry.register_of_single {S : Schema} {r : Registry} {t u : Ty}
    (ht : r.has t = false) (hd : S.dependencies t = [u]) (hu : (r.enter t).has u = false)
    (hdu : S.dependencies u = []) : (r.register S t).2 = (r.enter t).enter u := by
  refine (walk_register r S t).unique (.new ht ?_ (.done _))
  rw [hd]
  refine .new hu ?_ (.done _)
  rw [hdu]
  exact .done _

namespace Sample

/-- A bean that is declared in a block of a function. -/
def idOfBlock : Sample := declare "run::Id" [("value", .int .u8 0)] []

/-- The type without structure of the same name in another block of the function. -/
def idOfOtherBlock : Ty := .sealed idOfBlock.ty.path

/-- The schema of the bean in the block. -/
def blocks : Schema where
  beans := [idOfBlock.bean]
  extent _ := 0
  parent_lt := by decide +kernel

end Sample

end BeanPath
