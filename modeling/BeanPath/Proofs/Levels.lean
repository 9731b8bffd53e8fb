import BeanPath.Proofs.Lookup
import BeanPath.Samples

/-!
# Lookups level by level

The levels of a type are its own bean and then the levels of the type that the bean embeds as its
parent (`Schema.Chain`), so the level of a member is the number of parents that lead to it
(`Schema.Chain.length_parents`).  What a level has for a query is a list, in the order of the
candidates (`Query.found`), and every lookup is told by these lists alone: the plural ones put them
together (`Query.everywhere_eq_ok_iff`), the singular ones stop at the first that is not empty
(`Query.nearest_eq_atLevel`).  Only a star in the typed mode fails, and only where a list that the
lookup reaches has more than one member.
-/

namespace BeanPath

/-! ### The levels of a type -/

namespace Schema

variable {S : Schema} {t : Ty} {ls ks : List Level}

/-- The levels of a type, one by one: its bean, and behind it the levels of what it embeds. -/
inductive Chain (S : Schema) : Ty → List Level → Prop where
  | plain {t : Ty} (hb : S.beanOf? t = none) : Chain S t []
  | root {t : Ty} {b : Bean} (hb : S.beanOf? t = some b) (hp : b.parentField? = none) :
    Chain S t [⟨[], b⟩]
  | child {t : Ty} {b : Bean} {f : Field} {ls : List Level} (hb : S.beanOf? t = some b)
    (hp : b.parentField? = some f) (hc : Chain S f.ty ls) :
    Chain S t (⟨[], b⟩ :: ls.map (Level.under f.name))

/-- The levels that lookups use are those of the type. -/
theorem chain_levels (S : Schema) (t : Ty) : S.Chain t (S.levels t) := by
  rw [levels]
  split
  · next hb => exact .plain hb
  · next b hb =>
    split
    · next hp => exact .root hb hp
    · next f hp =>
      have hlt := S.beanOf?_parent_extent_lt hb hp
      exact .child hb hp (chain_levels S f.ty)
termination_by t.extent S.extent
decreasing_by exact hlt

/-- A type has its levels in one way only. -/
theorem Chain.unique (h : S.Chain t ls) (h' : S.Chain t ks) : ls = ks := by
  induction h generalizing ks with
  | plain hb =>
    cases h' with
    | plain => rfl
    | root hb' | child hb' => cases hb.symm.trans hb'
  | root hb hp =>
    cases h' with
    | plain hb' => cases hb.symm.trans hb'
    | root hb' => cases hb.symm.trans hb'; rfl
    | child hb' hp' => cases hb.symm.trans hb'; cases hp.symm.trans hp'
  | child hb hp hc ih =>
    cases h' with
    | plain hb' => cases hb.symm.trans hb'
    | root hb' hp' => cases hb.symm.trans hb'; cases hp.symm.trans hp'
    | child hb' hp' hc' =>
      cases hb.symm.trans hb'
      cases hp.symm.trans hp'
      rw [ih hc']

/-- As many fields lead to a level as there are levels in front of it. -/
theorem Chain.length_parents (h : S.Chain t ls) {i : Nat} {l : Level} (hl : ls[i]? = some l) :
    l.parents.length = i := by
  induction h generalizing i l with
  | plain => cases hl
  | root hb hp =>
    cases i with
    | zero => cases hl; rfl
    | succ i => cases hl
  | child hb hp hc ih =>
    cases i with
    | zero => cases hl; rfl
    | succ i =>
      rw [List.getElem?_cons_succ, List.getElem?_map] at hl
      obtain ⟨k, hk, rfl⟩ := Option.map_eq_some_iff.1 hl
      have hlen := ih hk
      simp only [Level.under, List.length_cons]
      omega

/-- What holds of the own level of a type, and of a level if it holds of the same level seen from
the embedded parent, holds of all levels. -/
theorem levels_induction {P : Ty → Level → Prop}
    (own : ∀ {t b}, S.beanOf? t = some b → P t ⟨[], b⟩)
    (parent : ∀ {t b f l}, S.beanOf? t = some b → b.parentField? = some f → l ∈ S.levels f.ty →
      P f.ty l → P t (l.under f.name))
    {l : Level} (hl : l ∈ S.levels t) : P t l := by
  have h := S.chain_levels t
  generalize S.levels t = ls at h hl
  induction h generalizing l with
  | plain => cases hl
  | root hb => cases List.mem_singleton.1 hl; exact own hb
  | child hb hp hc ih =>
    rcases List.mem_cons.1 hl with rfl | hl
    · exact own hb
    · obtain ⟨k, hk, rfl⟩ := List.mem_map.1 hl
      exact parent hb hp (hc.unique (S.chain_levels _) ▸ hk) (ih hk)

end Schema

/-! ### What a level has -/

namespace Query

variable {S : Schema} {q : Query} {l : Level} {ls : List Level}

/-- A star that asks for the member of a type. -/
def Star (q : Query) : Prop := q.name = "*" ∧ q.mode = .typed

instance (q : Query) : Decidable q.Star := inferInstanceAs (Decidable (_ ∧ _))

/-- What a level has for a query: what its bean declares under the names of the candidates, one
after the other, or everything for a star; truth values only where a candidate is for these, and
accepted types only. -/
def found (S : Schema) (q : Query) (l : Level) : List Member :=
  let named :=
    if q.Star then l.bean.declarations q.role
    else (Spelling.candidates q.role q.mode q.name).filterMap fun c =>
      (l.bean.declaration? q.role c.name).filter fun d => !c.truthOnly || d.ty.isTruth
  (named.filter (q.accepts S)).map l.member

/-- A level at which a star finds at most one member. -/
def Clear (S : Schema) (q : Query) (l : Level) : Prop := q.Star → (q.found S l).length ≤ 1

instance (S : Schema) (q : Query) (l : Level) : Decidable (q.Clear S l) :=
  inferInstanceAs (Decidable (_ → _))

/-- The nearest level that has anything, and its position. -/
def Nearest (S : Schema) (q : Query) (ls : List Level) (i : Nat) (l : Level) : Prop :=
  ls[i]? = some l ∧ q.found S l ≠ [] ∧ ∀ j < i, ∀ k ∈ ls[j]?, q.found S k = []

/-- A query is for any name exactly if it is a star. -/
theorem anyName_iff : q.anyName = true ↔ q.Star := by
  simp [anyName, Star]

/-- What a level has is what its bean declares that matches, as members seen from the type. -/
theorem found_eq (l : Level) : q.found S l = (q.matching S l.bean).map l.member := by
  unfold found matching
  by_cases h : q.Star
  · simp only [if_pos h, if_pos (anyName_iff.2 h)]
  · simp only [if_neg h, if_neg (mt anyName_iff.1 h)]
    rfl

/-- A lookup at a level gives what the level has, unless a star is ambiguous there. -/
theorem atLevel_of_clear (h : q.Clear S l) : q.atLevel S l = .ok (q.found S l) := by
  rw [found_eq]
  refine atLevel_eq_ok_iff.2 ⟨?_, rfl⟩
  rw [Bool.and_eq_false_iff]
  by_cases hs : q.Star
  · have hle := h hs
    rw [found_eq, List.length_map] at hle
    right
    simpa using hle
  · left
    exact Bool.eq_false_iff.2 (mt anyName_iff.1 hs)

/-- A star that is ambiguous at a level fails there, and the failure says how many members it
found. -/
theorem atLevel_of_not_clear (h : ¬ q.Clear S l) :
    q.atLevel S l =
      .error (.ambiguous q.role (q.found S l).length (.bean l.bean.path) q.expected) := by
  obtain ⟨hs, hlt⟩ := Classical.not_imp.1 h
  rw [found_eq, List.length_map] at hlt ⊢
  have hc : (q.anyName && (q.matching S l.bean).length > 1) = true := by
    rw [anyName_iff.2 hs]
    simpa using hlt
  unfold atLevel
  dsimp only
  rw [if_pos hc]

/-! ### Going up the levels -/

/-- The plural lookup puts together what the levels have, unless a star is ambiguous at one. -/
theorem everywhere_eq_ok_iff {ms : List Member} :
    q.everywhere S ls = .ok ms ↔ ms = ls.flatMap (q.found S) ∧ ∀ l ∈ ls, q.Clear S l := by
  induction ls generalizing ms with
  | nil => simp [everywhere, eq_comm]
  | cons l ls ih =>
    rw [everywhere]
    by_cases hl : q.Clear S l
    · rw [atLevel_of_clear hl, bind_ok, bind_eq_ok_iff]
      simp only [pure_eq_ok_iff, List.flatMap_cons, List.forall_mem_cons]
      constructor
      · rintro ⟨rest, hr, rfl⟩
        obtain ⟨rfl, hc⟩ := ih.1 hr
        exact ⟨rfl, hl, hc⟩
      · rintro ⟨rfl, -, hc⟩
        exact ⟨_, ih.2 ⟨rfl, hc⟩, rfl⟩
    · rw [atLevel_of_not_clear hl, bind_error]
      constructor
      · nofun
      · rintro ⟨-, hc⟩
        exact absurd (hc l List.mem_cons_self) hl

/-- The first level is the nearest if it has anything. -/
theorem nearest_cons_zero (hf : q.found S l ≠ []) : q.Nearest S (l :: ls) 0 l :=
  ⟨rfl, hf, fun _ hj => absurd hj (Nat.not_lt_zero _)⟩

/-- A first level that has nothing is passed over. -/
theorem nearest_cons_succ {k : Level} {i : Nat} (hf : q.found S k = []) :
    q.Nearest S (k :: ls) (i + 1) l ↔ q.Nearest S ls i l := by
  unfold Nearest
  rw [List.getElem?_cons_succ]
  refine and_congr_right fun _ => and_congr_right fun _ => ⟨fun h j hj => ?_, fun h j hj => ?_⟩
  · have h := h (j + 1) (by omega)
    rwa [List.getElem?_cons_succ] at h
  · cases j with
    | zero => rintro _ ⟨⟩; exact hf
    | succ j =>
      rw [List.getElem?_cons_succ]
      exact h j (by omega)

/-- Either no level has anything, or one of them is the nearest that has. -/
theorem exists_nearest_or (ls : List Level) :
    (∀ l ∈ ls, q.found S l = []) ∨ ∃ i l, q.Nearest S ls i l := by
  induction ls with
  | nil => exact .inl (List.forall_mem_nil _)
  | cons k ls ih =>
    by_cases hf : q.found S k = []
    · rcases ih with h | ⟨i, l, h⟩
      · exact .inl (List.forall_mem_cons.2 ⟨hf, h⟩)
      · exact .inr ⟨i + 1, l, (nearest_cons_succ hf).2 h⟩
    · exact .inr ⟨0, k, nearest_cons_zero hf⟩

/-- The nearest level is one of the levels. -/
theorem Nearest.mem {i : Nat} (h : q.Nearest S ls i l) : l ∈ ls := List.mem_of_getElem? h.1

/-- A level with matches has the nearest one at its position or in front of it. -/
theorem Nearest.le_of_found {i j : Nat} {k : Level} (h : q.Nearest S ls i l)
    (hk : ls[j]? = some k) (hf : q.found S k ≠ []) : i ≤ j :=
  Nat.le_of_not_lt fun hlt => hf (h.2.2 j hlt k hk)

/-- There is only one nearest level. -/
theorem Nearest.unique {i j : Nat} {k : Level} (h : q.Nearest S ls i l)
    (h' : q.Nearest S ls j k) : i = j ∧ l = k := by
  have hle := h.le_of_found h'.1 h'.2.1
  have hge := h'.le_of_found h.1 h.2.1
  obtain rfl : i = j := by omega
  exact ⟨rfl, Option.some.inj (h.1.symm.trans h'.1)⟩

/-- If no level has anything, the singular lookup finds nothing and does not fail. -/
theorem nearest_of_none (h : ∀ l ∈ ls, q.found S l = []) : q.nearest S ls = .ok [] := by
  induction ls with
  | nil => rfl
  | cons k ls ih =>
    obtain ⟨hk, h⟩ := List.forall_mem_cons.1 h
    have hc : q.Clear S k := by
      intro _
      rw [hk]
      exact Nat.zero_le 1
    refine nearest_cons_eq_ok_iff.2 (.inl ⟨?_, ih h⟩)
    rw [atLevel_of_clear hc, hk]

/-- The singular lookup asks the nearest level that has anything, and no other. -/
theorem nearest_eq_atLevel {i : Nat} (h : q.Nearest S ls i l) :
    q.nearest S ls = q.atLevel S l := by
  induction ls generalizing i with
  | nil => cases h.1
  | cons k ls ih =>
    rw [nearest]
    by_cases hk : q.found S k = []
    · cases i with
      | zero =>
        cases h.1
        exact absurd hk h.2.1
      | succ i =>
        have hc : q.Clear S k := by
          intro _
          rw [hk]
          exact Nat.zero_le 1
        rw [atLevel_of_clear hc, hk, bind_ok]
        exact ih ((nearest_cons_succ hk).1 h)
    · obtain ⟨rfl, rfl⟩ := h.unique (nearest_cons_zero hk)
      by_cases hc : q.Clear S l
      · rw [atLevel_of_clear hc, bind_ok]
        split
        · next hnil => exact absurd hnil hk
        · rfl
      · rw [atLevel_of_not_clear hc, bind_error]

/-- A query that names a type wherever its mode requires one passes the check. -/
theorem check_of_typed (h : q.mode.requiresType = true → q.expected.isSome = true) :
    q.check = .ok () := by
  unfold check
  rw [if_neg]
  rw [Bool.and_eq_true]
  rintro ⟨hm, he⟩
  rw [Option.isNone_iff_eq_none] at he
  have hs := h hm
  rw [he] at hs
  cases hs

end Query

namespace Schema

variable {S : Schema} {q : Query} {owner : Ty}

/-- The plural lookup gives what all levels have, nearer ones first, unless a star is ambiguous at
one. -/
theorem members_eq_ok_iff (h : q.check = .ok ()) {ms : List Member} :
    S.members q owner = .ok ms ↔
      ms = (S.levels owner).flatMap (q.found S) ∧ ∀ l ∈ S.levels owner, q.Clear S l := by
  unfold members
  rw [h, bind_ok]
  exact Query.everywhere_eq_ok_iff

/-- Where no level has anything, the singular lookup finds nothing. -/
theorem member?_of_none (h : q.check = .ok ())
    (hn : ∀ l ∈ S.levels owner, q.found S l = []) : S.member? q owner = .ok none := by
  unfold member? nearestMembers
  rw [h, bind_ok, Query.nearest_of_none hn]
  rfl

/-- The singular lookup gives the first member of the nearest level that has one. -/
theorem member?_of_clear (h : q.check = .ok ()) {i : Nat} {l : Level}
    (hl : q.Nearest S (S.levels owner) i l) (hc : q.Clear S l) :
    S.member? q owner = .ok (q.found S l).head? := by
  unfold member? nearestMembers
  rw [h, bind_ok, Query.nearest_eq_atLevel hl, Query.atLevel_of_clear hc]
  rfl

/-- The singular lookup fails where a star is ambiguous at the nearest level that has anything; what
is further up does not help. -/
theorem member?_of_not_clear (h : q.check = .ok ()) {i : Nat} {l : Level}
    (hl : q.Nearest S (S.levels owner) i l) (hc : ¬ q.Clear S l) :
    S.member? q owner =
      .error (.ambiguous q.role (q.found S l).length (.bean l.bean.path) q.expected) := by
  unfold member? nearestMembers
  rw [h, bind_ok, Query.nearest_eq_atLevel hl, Query.atLevel_of_not_clear hc]
  rfl

/-- The singular lookup finds nothing exactly if no level has anything. -/
theorem member?_eq_none_iff_found (h : q.check = .ok ()) :
    S.member? q owner = .ok none ↔ ∀ l ∈ S.levels owner, q.found S l = [] := by
  refine ⟨fun hm => ?_, member?_of_none h⟩
  rcases Query.exists_nearest_or (q := q) (S := S) (S.levels owner) with hn | ⟨i, l, hl⟩
  · exact hn
  · by_cases hc : q.Clear S l
    · rw [member?_of_clear h hl hc, Except.ok.injEq, List.head?_eq_none_iff] at hm
      exact absurd hm hl.2.1
    · rw [member?_of_not_clear h hl hc] at hm
      cases hm

/-- The singular lookup finds a member exactly if it is the first of the nearest level with
anything, and no star is ambiguous there. -/
theorem member?_eq_some_iff_found (h : q.check = .ok ()) {m : Member} :
    S.member? q owner = .ok (some m) ↔
      ∃ i l, q.Nearest S (S.levels owner) i l ∧ (q.found S l).head? = some m ∧ q.Clear S l := by
  constructor
  · intro hm
    rcases Query.exists_nearest_or (q := q) (S := S) (S.levels owner) with hn | ⟨i, l, hl⟩
    · rw [member?_of_none h hn] at hm
      cases hm
    · by_cases hc : q.Clear S l
      · rw [member?_of_clear h hl hc, Except.ok.injEq] at hm
        exact ⟨i, l, hl, hm, hc⟩
      · rw [member?_of_not_clear h hl hc] at hm
        cases hm
  · rintro ⟨i, l, hl, hm, hc⟩
    rw [member?_of_clear h hl hc, hm]

/-- The singular lookup fails only for a star, and only if the nearest level that has anything has
more than one member. -/
theorem member?_fails_iff (h : q.check = .ok ()) :
    (∃ p, S.member? q owner = .error p) ↔
      q.Star ∧ ∃ i l, q.Nearest S (S.levels owner) i l ∧ 1 < (q.found S l).length := by
  constructor
  · rintro ⟨p, hp⟩
    rcases Query.exists_nearest_or (q := q) (S := S) (S.levels owner) with hn | ⟨i, l, hl⟩
    · rw [member?_of_none h hn] at hp
      cases hp
    · by_cases hc : q.Clear S l
      · rw [member?_of_clear h hl hc] at hp
        cases hp
      · obtain ⟨hs, hlt⟩ := Classical.not_imp.1 hc
        exact ⟨hs, i, l, hl, by omega⟩
  · rintro ⟨hs, i, l, hl, hlt⟩
    have hc : ¬ q.Clear S l := fun hc => by
      have hle := hc hs
      omega
    exact ⟨_, member?_of_not_clear h hl hc⟩

/-- The plural lookup fails only for a star, and only if some level has more than one member. -/
theorem members_fails_iff (h : q.check = .ok ()) :
    (∃ p, S.members q owner = .error p) ↔
      q.Star ∧ ∃ l ∈ S.levels owner, 1 < (q.found S l).length := by
  constructor
  · rintro ⟨p, hp⟩
    by_cases hc : ∀ l ∈ S.levels owner, q.Clear S l
    · rw [(members_eq_ok_iff h).2 ⟨rfl, hc⟩] at hp
      cases hp
    · simp only [Classical.not_forall] at hc
      obtain ⟨l, hl, hc⟩ := hc
      obtain ⟨hs, hlt⟩ := Classical.not_imp.1 hc
      exact ⟨hs, l, hl, by omega⟩
  · rintro ⟨hs, l, hl, hlt⟩
    cases hm : S.members q owner with
    | error p => exact ⟨p, rfl⟩
    | ok ms =>
      have hle := ((members_eq_ok_iff h).1 hm).2 l hl hs
      omega

/-- What the plural lookup gives starts with what the nearest level with anything has. -/
theorem head?_flatMap_found {ls : List Level} {i : Nat} {l : Level} (hl : q.Nearest S ls i l) :
    (ls.flatMap (q.found S)).head? = (q.found S l).head? := by
  induction ls generalizing i with
  | nil => cases hl.1
  | cons k ls ih =>
    rw [List.flatMap_cons]
    by_cases hk : q.found S k = []
    · rw [hk, List.nil_append]
      cases i with
      | zero =>
        cases hl.1
        exact absurd hk hl.2.1
      | succ i => exact ih ((Query.nearest_cons_succ hk).1 hl)
    · obtain ⟨rfl, rfl⟩ := hl.unique (Query.nearest_cons_zero hk)
      obtain ⟨m, ms, hm⟩ := List.exists_cons_of_ne_nil hk
      rw [hm]
      rfl

/-- The singular lookup finds the first of what the plural one gives. -/
theorem member?_of_members (h : q.check = .ok ()) {ms : List Member}
    (hm : S.members q owner = .ok ms) : S.member? q owner = .ok ms.head? := by
  obtain ⟨rfl, hc⟩ := (members_eq_ok_iff h).1 hm
  rcases Query.exists_nearest_or (q := q) (S := S) (S.levels owner) with hn | ⟨i, l, hl⟩
  · rw [member?_of_none h hn, List.flatMap_eq_nil_iff.2 hn]
    rfl
  · rw [member?_of_clear h hl (hc l hl.mem), head?_flatMap_found hl]

/-- **Lookups go level by level.**  Of the levels of a type, the plural lookup gives all that they
have, nearer levels first.  The singular lookup gives the first of what the nearest level with
anything has, so the first of what the plural one gives, and nothing if no level has anything.  A
lookup fails only for a star that expects one member: the singular one if the nearest level with
anything has more, and the plural one if any level has. -/
theorem lookups_go_level_by_level {ls : List Level} (hl : S.Chain owner ls)
    (ht : q.mode.requiresType = true → q.expected.isSome = true) :
    (∀ ms, S.members q owner = .ok ms ↔ ms = ls.flatMap (q.found S) ∧ ∀ l ∈ ls, q.Clear S l) ∧
    (S.member? q owner = .ok none ↔ ∀ l ∈ ls, q.found S l = []) ∧
    (∀ m, S.member? q owner = .ok (some m) ↔
      ∃ i l, q.Nearest S ls i l ∧ (q.found S l).head? = some m ∧ q.Clear S l) ∧
    (∀ ms, S.members q owner = .ok ms → S.member? q owner = .ok ms.head?) ∧
    ((∃ p, S.member? q owner = .error p) ↔
      q.Star ∧ ∃ i l, q.Nearest S ls i l ∧ 1 < (q.found S l).length) ∧
    ((∃ p, S.members q owner = .error p) ↔ q.Star ∧ ∃ l ∈ ls, 1 < (q.found S l).length) := by
  have hc := Query.check_of_typed ht
  obtain rfl := hl.unique (S.chain_levels owner)
  exact ⟨fun _ => members_eq_ok_iff hc, member?_eq_none_iff_found hc,
    fun _ => member?_eq_some_iff_found hc, fun _ => member?_of_members hc, member?_fails_iff hc,
    members_fails_iff hc⟩

/-- Fields of a type two and three levels up, and getters that a star cannot tell apart. -/
theorem lookups_go_level_by_level_in_chain :
    let wide : Query :=
      { role := .field, name := "*", expected := some (.int .i64), mode := .typed }
    let titles : Query := { role := .getter, name := "*", expected := some .text, mode := .typed }
    let S := Sample.schema
    (S.members wide Sample.third.ty).map (List.map Member.identity) =
        .ok [(["derived"], Sample.derived.bean.path, .field, "count"),
          (["derived", "base"], Sample.entity.bean.path, .field, "id")] ∧
      (S.member? wide Sample.third.ty).map (Option.map Member.identity) =
        .ok (some (["derived"], Sample.derived.bean.path, .field, "count")) ∧
      ∃ p, S.member? titles Sample.naming.ty = .error p := by
  intro wide titles S
  have hentity : S.Chain Sample.entity.ty [⟨[], Sample.entity.bean⟩] := .root rfl rfl
  have hderived : S.Chain Sample.derived.ty
      [⟨[], Sample.derived.bean⟩, ⟨["base"], Sample.entity.bean⟩] :=
    .child (f := ⟨"base", Sample.entity.ty⟩) rfl rfl hentity
  have hthird : S.Chain Sample.third.ty
      [⟨[], Sample.third.bean⟩, ⟨["derived"], Sample.derived.bean⟩,
        ⟨["derived", "base"], Sample.entity.bean⟩] :=
    .child (f := ⟨"derived", Sample.derived.ty⟩) rfl rfl hderived
  have hnaming : S.Chain Sample.naming.ty [⟨[], Sample.naming.bean⟩] := .root rfl rfl
  obtain ⟨hall, -, -, hfirst, -, -⟩ := lookups_go_level_by_level (q := wide) hthird fun _ => rfl
  obtain ⟨-, -, -, -, hfails, -⟩ := lookups_go_level_by_level (q := titles) hnaming fun _ => rfl
  have hm := (hall _).2 ⟨rfl, by decide +kernel⟩
  have htitles : titles.Nearest S [⟨[], Sample.naming.bean⟩] 0 ⟨[], Sample.naming.bean⟩ := by
    refine Query.nearest_cons_zero fun hnil => ?_
    have hlen : (titles.found S ⟨[], Sample.naming.bean⟩).length = 2 := by decide +kernel
    rw [hnil] at hlen
    cases hlen
  refine ⟨?_, ?_, hfails.2 ⟨by decide, 0, _, htitles, by decide +kernel⟩⟩
  · rw [hm]
    decide +kernel
  · rw [hfirst _ hm]
    decide +kernel

end Schema

end BeanPath
