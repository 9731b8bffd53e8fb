import BeanPath.Member.Lookup
import BeanPath.Proofs.Assignable
import BeanPath.Proofs.Updates

/-!
# Lookups with narrower types

The same member may be looked for by name alone and with an expected type.  If the expected type is
*narrower*, that is, if it accepts only declarations that were accepted before, then the member that
was found is found again as long as it is accepted itself (`Schema.member?_narrow`): levels without
a match still have none, and what was first at its level stays first.
-/

namespace BeanPath

/-- The declarations of a bean for a role have that role. -/
theorem Bean.role_of_mem_declarations {b : Bean} {role : Role} {d : Declaration}
    (h : d ∈ b.declarations role) : d.role = role := by
  cases role <;> (obtain ⟨x, -, rfl⟩ := List.mem_map.1 h; rfl)

namespace Query

variable {S : Schema} {q : Query} {e : Option Ty}

/-- The query with another expected type. -/
def expecting (q : Query) (e : Option Ty) : Query := { q with expected := e }

/-- An expected type that accepts nothing that the query does not accept. -/
def Narrower (S : Schema) (q : Query) (e : Option Ty) : Prop :=
  ∀ d, (q.expecting e).accepts S d = true → q.accepts S d = true

/-- With an expected type a query accepts the declarations whose type is in its relation to that
type. -/
theorem accepts_of_expected {t : Ty} (h : q.expected = some t) (d : Declaration) :
    q.accepts S d = q.effectiveRelation.accepts S d.ty t := by
  rw [accepts, h]

/-- A query for another type accepts what is in its own relation to that type. -/
theorem accepts_expecting (q : Query) (t : Ty) (d : Declaration) :
    (q.expecting (some t)).accepts S d = q.effectiveRelation.accepts S d.ty t := rfl

/-- Every type is narrower than none at all. -/
theorem narrower_of_none (h : q.expected = none) (e : Option Ty) : q.Narrower S e := by
  intro d _
  unfold accepts
  rw [h]

/-- With a narrower type those of the matches of a bean are left that the type accepts. -/
theorem matching_expecting (h : q.Narrower S e) (b : Bean) :
    (q.expecting e).matching S b =
      (q.matching S b).filter ((q.expecting e).accepts S) := by
  unfold matching
  rw [List.filter_filter]
  refine List.filter_congr fun d _ => ?_
  cases hd : (q.expecting e).accepts S d with
  | false => rfl
  | true => rw [h d hd]; rfl

/-- What matches in a bean is one of its declarations for the role of the query. -/
theorem mem_declarations_of_mem_matching {b : Bean} {d : Declaration}
    (h : d ∈ q.matching S b) : d ∈ b.declarations q.role := by
  have h := (List.mem_filter.1 h).1
  split at h
  · exact h
  · obtain ⟨c, -, hc⟩ := List.mem_filterMap.1 h
    exact List.mem_of_find?_eq_some (Option.filter_eq_some_iff.1 hc).1

/-- A level gives all its matches, unless any name would do and there is more than one. -/
theorem atLevel_eq_ok_iff {l : Level} {found : List Member} :
    q.atLevel S l = .ok found ↔
      (q.anyName && (q.matching S l.bean).length > 1) = false ∧
        found = (q.matching S l.bean).map l.member := by
  unfold atLevel
  dsimp only
  split
  · next h => simp [h]
  · next h => simp [Bool.eq_false_iff.2 h, eq_comm]

/-- At a level that gives its matches, a narrower type keeps those that it accepts. There are no
more of them, so they are not ambiguous either. -/
theorem atLevel_expecting (h : q.Narrower S e) {l : Level} {found : List Member}
    (hl : q.atLevel S l = .ok found) :
    (q.expecting e).atLevel S l =
      .ok (((q.matching S l.bean).filter ((q.expecting e).accepts S)).map l.member) := by
  obtain ⟨ha, -⟩ := atLevel_eq_ok_iff.1 hl
  refine atLevel_eq_ok_iff.2 ⟨?_, by rw [matching_expecting h]⟩
  rw [matching_expecting h]
  have hle := List.length_filter_le ((q.expecting e).accepts S) (q.matching S l.bean)
  have hn : (q.expecting e).anyName = q.anyName := rfl
  rw [hn]
  cases hq : q.anyName with
  | false => rfl
  | true =>
    simp only [hq, Bool.true_and, decide_eq_false_iff_not, gt_iff_lt] at ha ⊢
    omega

/-- The nearest matches are those of the first level, or, where it has none, those of the levels
behind. -/
theorem nearest_cons_eq_ok_iff {l : Level} {ls : List Level} {found : List Member} :
    q.nearest S (l :: ls) = .ok found ↔
      (q.atLevel S l = .ok [] ∧ q.nearest S ls = .ok found) ∨
        (q.atLevel S l = .ok found ∧ found ≠ []) := by
  rw [nearest]
  cases hl : q.atLevel S l with
  | error e => simp [bind_error]
  | ok here =>
    rw [bind_ok]
    cases here with
    | nil => simp
    | cons m ms =>
      simp only [pure_eq_ok_iff, Except.ok.injEq, reduceCtorEq, false_and, false_or]
      exact ⟨fun h => ⟨h, h ▸ List.cons_ne_nil m ms⟩, And.left⟩

/-- Queries with the same matches at every level find the same. -/
theorem nearest_congr {q' : Query} {ls : List Level}
    (h : ∀ l ∈ ls, q.atLevel S l = q'.atLevel S l) : q.nearest S ls = q'.nearest S ls := by
  induction ls with
  | nil => rfl
  | cons l ls ih =>
    obtain ⟨hl, hls⟩ := List.forall_mem_cons.1 h
    rw [nearest, nearest, hl, ih hls]

/-- Where no level has a match, none has one of a narrower type. -/
theorem nearest_expecting_nil (h : q.Narrower S e) {ls : List Level}
    (hn : q.nearest S ls = .ok []) : (q.expecting e).nearest S ls = .ok [] := by
  induction ls with
  | nil => rfl
  | cons l ls ih =>
    rcases nearest_cons_eq_ok_iff.1 hn with ⟨hl, hn⟩ | ⟨-, hf⟩
    · refine nearest_cons_eq_ok_iff.2 (.inl ⟨?_, ih hn⟩)
      have hm := (atLevel_eq_ok_iff.1 hl).2
      rw [atLevel_expecting h hl, List.map_eq_nil_iff.1 hm.symm]
      rfl
    · exact absurd rfl hf

/-- What comes first at the nearest level comes first again, if the narrower type accepts it. -/
theorem nearest_expecting_cons (h : q.Narrower S e) {ls : List Level} {m : Member}
    {ms : List Member} (hn : q.nearest S ls = .ok (m :: ms))
    (hm : (q.expecting e).accepts S m.declaration = true) :
    ∃ ms', (q.expecting e).nearest S ls = .ok (m :: ms') := by
  induction ls with
  | nil => cases hn
  | cons l ls ih =>
    rcases nearest_cons_eq_ok_iff.1 hn with ⟨hl, hn⟩ | ⟨hl, -⟩
    · obtain ⟨ms', ih⟩ := ih hn
      refine ⟨ms', nearest_cons_eq_ok_iff.2 (.inl ⟨?_, ih⟩)⟩
      have hm := (atLevel_eq_ok_iff.1 hl).2
      rw [atLevel_expecting h hl, List.map_eq_nil_iff.1 hm.symm]
      rfl
    · obtain ⟨d, ds, hd, rfl, -⟩ := List.map_eq_cons_iff.1 (atLevel_eq_ok_iff.1 hl).2.symm
      have hf : (q.matching S l.bean).filter ((q.expecting e).accepts S) =
          d :: ds.filter ((q.expecting e).accepts S) := by
        rw [hd]
        exact List.filter_cons_of_pos hm
      have hl' : (q.expecting e).atLevel S l =
          .ok (l.member d :: (ds.filter ((q.expecting e).accepts S)).map l.member) := by
        rw [atLevel_expecting h hl, hf]
        rfl
      exact ⟨_, nearest_cons_eq_ok_iff.2 (.inr ⟨hl', List.cons_ne_nil _ _⟩)⟩

end Query

namespace Schema

variable {S : Schema} {q : Query} {owner : Ty}

/-- No member is found if the query is well formed and no level has a match. -/
theorem member?_eq_ok_none_iff :
    S.member? q owner = .ok none ↔ q.check = .ok () ∧ q.nearest S (S.levels owner) = .ok [] := by
  unfold member? nearestMembers
  simp only [bind_eq_ok_iff, pure_eq_ok_iff, List.head?_eq_none_iff]
  constructor
  · rintro ⟨_, ⟨⟨⟩, hc, hn⟩, rfl⟩
    exact ⟨hc, hn⟩
  · rintro ⟨hc, hn⟩
    exact ⟨[], ⟨(), hc, hn⟩, rfl⟩

/-- A member is found if the query is well formed and it is the first of the nearest matches. -/
theorem member?_eq_ok_some_iff {m : Member} :
    S.member? q owner = .ok (some m) ↔
      q.check = .ok () ∧ ∃ ms, q.nearest S (S.levels owner) = .ok (m :: ms) := by
  unfold member? nearestMembers
  simp only [bind_eq_ok_iff, pure_eq_ok_iff, List.head?_eq_some_iff]
  constructor
  · rintro ⟨_, ⟨⟨⟩, hc, hn⟩, ms, rfl⟩
    exact ⟨hc, ms, hn⟩
  · rintro ⟨hc, ms, hn⟩
    exact ⟨_, ⟨(), hc, hn⟩, ms, rfl⟩

/-- A query with an expected type is well formed in every mode. -/
theorem check_expecting (t : Ty) : (q.expecting (some t)).check = .ok () := by
  simp [Query.check, Query.expecting]

/-- **A member is found again with a narrower type** that accepts it. -/
theorem member?_narrow {t : Ty} {m : Member} (h : q.Narrower S (some t))
    (hm : S.member? q owner = .ok (some m))
    (ha : (q.expecting (some t)).accepts S m.declaration = true) :
    S.member? (q.expecting (some t)) owner = .ok (some m) := by
  obtain ⟨-, ms, hn⟩ := member?_eq_ok_some_iff.1 hm
  exact member?_eq_ok_some_iff.2 ⟨check_expecting t, Query.nearest_expecting_cons h hn ha⟩

/-- What is not found at all is not found with a narrower type. -/
theorem member?_narrow_none {t : Ty} (h : q.Narrower S (some t))
    (hm : S.member? q owner = .ok none) :
    S.member? (q.expecting (some t)) owner = .ok none := by
  obtain ⟨-, hn⟩ := member?_eq_ok_none_iff.1 hm
  exact member?_eq_ok_none_iff.2 ⟨check_expecting t, Query.nearest_expecting_nil h hn⟩

/-- What a query finds matches it at one of the levels. -/
theorem exists_level_of_member? {m : Member} (hm : S.member? q owner = .ok (some m)) :
    ∃ l ∈ S.levels owner, ∃ d ∈ q.matching S l.bean, m = l.member d := by
  obtain ⟨-, ms, hn⟩ := member?_eq_ok_some_iff.1 hm
  generalize S.levels owner = ls at hn
  induction ls with
  | nil => cases hn
  | cons l ls ih =>
    rcases Query.nearest_cons_eq_ok_iff.1 hn with ⟨-, hn⟩ | ⟨hl, -⟩
    · obtain ⟨l', hl', h⟩ := ih hn
      exact ⟨l', List.mem_cons_of_mem _ hl', h⟩
    · obtain ⟨d, ds, hd, rfl, -⟩ := List.map_eq_cons_iff.1 (Query.atLevel_eq_ok_iff.1 hl).2.symm
      exact ⟨l, List.mem_cons_self, d, hd ▸ List.mem_cons_self, rfl⟩

/-- What a query finds is accepted by it. -/
theorem accepts_of_member? {m : Member} (hm : S.member? q owner = .ok (some m)) :
    q.accepts S m.declaration = true := by
  obtain ⟨l, -, d, hd, rfl⟩ := exists_level_of_member? hm
  exact (List.mem_filter.1 hd).2

/-- What a query finds has the role that was asked for. -/
theorem role_of_member? {m : Member} (hm : S.member? q owner = .ok (some m)) :
    m.role = q.role := by
  obtain ⟨l, -, d, hd, rfl⟩ := exists_level_of_member? hm
  exact Bean.role_of_mem_declarations (Query.mem_declarations_of_mem_matching hd)

/-- A setter is found again by its own type. -/
theorem member?_setter_own {s : Member} (hr : q.role = .setter) (hd : q.relation = none)
    (hs : S.member? q owner = .ok (some s)) :
    S.member? (q.expecting (some s.ty)) owner = .ok (some s) := by
  have ha := accepts_of_member? hs
  have hrel : q.effectiveRelation = .exact ∨ q.effectiveRelation = .super := by
    unfold Query.effectiveRelation Relation.default
    rw [hr, hd]
    cases q.mode.requiresType <;> simp
  refine member?_narrow (fun d hd => ?_) hs ?_
  · cases ht : q.expected with
    | none => exact Query.narrower_of_none ht _ d hd
    | some t =>
      rw [Query.accepts_of_expected ht] at ha ⊢
      rw [Query.accepts_expecting] at hd
      rcases hrel with h | h
      · rw [h] at ha hd ⊢
        simp only [Relation.accepts, beq_iff_eq] at ha hd ⊢
        exact hd.trans ha
      · rw [h] at ha hd ⊢
        exact assignable_trans hd ha
  · rw [Query.accepts_expecting]
    rcases hrel with h | h
    · rw [h]
      exact beq_self_eq_true _
    · rw [h]
      exact assignable_refl s.ty

end Schema
end BeanPath
