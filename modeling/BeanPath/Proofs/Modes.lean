import BeanPath.Proofs.Levels

/-!
# Looser modes

A looser mode accepts the types that a stricter one accepts, and its candidates start with the name
itself (`Spelling.candidates_eq_cons`).  So wherever the strict query has a match, the loose one has
one too, and where the strict one goes by the name alone, its match comes first for the loose one
(`Query.head?_found_of_exact`).  The nearest level with a match can only come nearer then
(`Schema.exists_nearer`), and if it stays where it was, the member stays the same.
-/

namespace BeanPath

/-- The number of parents between the owner of a member and the bean that declares it. -/
def Member.depth (m : Member) : Nat := m.parents.length

/-! ### Candidates -/

namespace Spelling

/-- A candidate is added behind the others, if at all. -/
theorem prefix_addCandidate (cs : List Candidate) (c : Candidate) : cs <+: addCandidate cs c := by
  unfold addCandidate
  split
  · exact List.prefix_rfl
  · exact List.prefix_append cs [c]

/-- Candidates that are added one after the other come behind those that are there. -/
theorem prefix_foldl_addCandidate (cs new : List Candidate) :
    cs <+: new.foldl addCandidate cs := by
  induction new generalizing cs with
  | nil => exact List.prefix_rfl
  | cons c new ih => exact (prefix_addCandidate cs c).trans (ih _)

/-- The name itself is the first candidate, in every mode. -/
theorem candidates_eq_cons (role : Role) (mode : Mode) (name : String) :
    ∃ cs, candidates role mode name = { name } :: cs := by
  unfold candidates spellings
  rw [List.foldl_cons]
  obtain ⟨cs, hcs⟩ := prefix_foldl_addCandidate (addCandidate [] { name }) _
  exact ⟨cs, hcs.symm⟩

end Spelling

/-! ### Matches -/

/-- Every relation accepts what is of just the requested type. -/
theorem Relation.accepts_of_exact {S : Schema} {declared requested : Ty} (r : Relation)
    (h : exact.accepts S declared requested = true) : r.accepts S declared requested = true := by
  obtain rfl : declared = requested := beq_iff_eq.1 h
  cases r with
  | exact => exact h
  | super => exact Schema.assignable_refl declared
  | child => exact Schema.assignable_refl declared

namespace Query

variable {S : Schema} {q q' : Query} {l : Level} {m : Member}

/-- What matches at a level is as deep as the level. -/
theorem mem_found_depth {owner : Ty} {i : Nat} (hl : (S.levels owner)[i]? = some l)
    (hm : m ∈ q.found S l) : m.depth = i := by
  rw [found_eq] at hm
  obtain ⟨d, -, rfl⟩ := List.mem_map.1 hm
  exact (S.chain_levels owner).length_parents hl

/-- Without the star that asks for any name, the matches are the candidates that are declared and of
an acceptable type. -/
theorem matching_of_not_star (hs : ¬ q.Star) (b : Bean) :
    q.matching S b =
      ((Spelling.candidates q.role q.mode q.name).filterMap (q.candidateOf? b)).filter
        (q.accepts S) := by
  unfold matching
  rw [if_neg (mt anyName_iff.1 hs)]

/-- What a query that goes by the name alone finds comes first for a query for the same name that
accepts it. -/
theorem head?_found_of_exact (hc : q.mode.usesConventions = false) (hr : q'.role = q.role)
    (hn : q'.name = q.name) (hs : ¬ q'.Star)
    (ha : ∀ d, q.accepts S d = true → q'.accepts S d = true)
    (hm : (q.found S l).head? = some m) : (q'.found S l).head? = some m := by
  have hq : ¬ q.Star := by
    rintro ⟨-, hmode⟩
    rw [hmode] at hc
    cases hc
  have hone : Spelling.candidates q.role q.mode q.name = [{ name := q.name }] := by
    unfold Spelling.candidates Spelling.spellings
    rw [hc]
    rfl
  obtain ⟨cs, hcs⟩ := Spelling.candidates_eq_cons q'.role q'.mode q'.name
  have hsame : q'.candidateOf? l.bean { name := q'.name } =
      q.candidateOf? l.bean { name := q.name } := by
    unfold candidateOf?
    rw [hr, hn]
  rw [found_eq, List.head?_map, matching_of_not_star hq, hone] at hm
  rw [found_eq, List.head?_map, matching_of_not_star hs, hcs]
  obtain ⟨d, hd, rfl⟩ := Option.map_eq_some_iff.1 hm
  obtain ⟨hd, hacc⟩ := List.mem_filter.1 (List.mem_of_mem_head? hd)
  obtain ⟨c, hc, hd⟩ := List.mem_filterMap.1 hd
  cases List.mem_singleton.1 hc
  rw [List.filterMap_cons_some (hsame.trans hd), List.filter_cons_of_pos (ha d hacc)]
  rfl

/-- With the same candidates, a query that accepts more finds more. -/
theorem found_ne_nil_of_accepts
    (hc : Spelling.candidates q'.role q'.mode q'.name = Spelling.candidates q.role q.mode q.name)
    (hr : q'.role = q.role) (hs : ¬ q.Star) (hs' : ¬ q'.Star)
    (ha : ∀ d, q.accepts S d = true → q'.accepts S d = true) (hf : q.found S l ≠ []) :
    q'.found S l ≠ [] := by
  have hsame : q'.candidateOf? l.bean = q.candidateOf? l.bean := by
    funext c
    unfold candidateOf?
    rw [hr]
  rw [found_eq, Ne, List.map_eq_nil_iff] at hf ⊢
  obtain ⟨d, hd⟩ := List.exists_mem_of_ne_nil _ hf
  rw [matching_of_not_star hs] at hd
  obtain ⟨hd, hacc⟩ := List.mem_filter.1 hd
  refine List.ne_nil_of_mem (a := d) ?_
  rw [matching_of_not_star hs', hc, hsame]
  exact List.mem_filter.2 ⟨hd, ha d hacc⟩

end Query

/-! ### Nearer members -/

namespace Schema

variable {S : Schema} {q q' : Query} {owner : Ty} {m : Member}

/-- If a query has a match wherever another has one, it finds a member as near as the other does. -/
theorem exists_nearer (hc : q'.check = .ok ()) (hs : ¬ q'.Star)
    (hf : ∀ l, q.found S l ≠ [] → q'.found S l ≠ [])
    (hm : S.member? q owner = .ok (some m)) :
    ∃ n, S.member? q' owner = .ok (some n) ∧ n.depth ≤ m.depth ∧
      (n.depth = m.depth → ∃ l, (q.found S l).head? = some m ∧ (q'.found S l).head? = some n) := by
  have hq := (member?_eq_ok_some_iff.1 hm).1
  obtain ⟨i, l, hl, hhead, -⟩ := (member?_eq_some_iff_found hq).1 hm
  have hi : m.depth = i := Query.mem_found_depth hl.1 (List.mem_of_mem_head? hhead)
  rcases Query.exists_nearest_or (q := q') (S := S) (S.levels owner) with hn | ⟨j, k, hk⟩
  · exact absurd (hn l hl.mem) (hf l hl.2.1)
  · obtain ⟨n, ns, hns⟩ := List.exists_cons_of_ne_nil hk.2.1
    have hhead' : (q'.found S k).head? = some n := by rw [hns]; rfl
    have hj : n.depth = j := Query.mem_found_depth hk.1 (List.mem_of_mem_head? hhead')
    have hle : j ≤ i := hk.le_of_found hl.1 (hf l hl.2.1)
    refine ⟨n, (member?_eq_some_iff_found hc).2 ⟨j, k, hk, hhead', fun h => absurd h hs⟩,
      by omega, fun hd => ?_⟩
    obtain rfl : j = i := by omega
    obtain rfl : l = k := Option.some.inj (hl.1.symm.trans hk.1)
    exact ⟨l, hhead, hhead'⟩

/-- If what comes first at a level for a query also comes first for another, the other finds the
same member or a nearer one. -/
theorem exists_nearer_or_same (hc : q'.check = .ok ()) (hs : ¬ q'.Star)
    (hh : ∀ l m, (q.found S l).head? = some m → (q'.found S l).head? = some m)
    (hm : S.member? q owner = .ok (some m)) :
    ∃ n, S.member? q' owner = .ok (some n) ∧ n.depth ≤ m.depth ∧ (n.depth = m.depth → n = m) := by
  have hf (l : Level) (hl : q.found S l ≠ []) : q'.found S l ≠ [] := by
    obtain ⟨m, ms, hms⟩ := List.exists_cons_of_ne_nil hl
    have hhead := hh l m (by rw [hms]; rfl)
    intro hnil
    rw [hnil] at hhead
    cases hhead
  obtain ⟨n, hn, hle, hsame⟩ := exists_nearer hc hs hf hm
  refine ⟨n, hn, hle, fun hd => ?_⟩
  obtain ⟨l, hl, hl'⟩ := hsame hd
  exact Option.some.inj (hl'.symm.trans (hh l m hl))

/-! ### Modes -/

section

variable {role : Role} {name : String} {expected : Option Ty} {strict loose : Mode}

/-- With the usual relations, a mode that needs no type where the other needs none accepts what the
other accepts. -/
theorem accepts_of_looser (h : loose.requiresType = true → strict.requiresType = true)
    (d : Declaration)
    (hd : Query.accepts S { role, name, expected, mode := strict } d = true) :
    Query.accepts S { role, name, expected, mode := loose } d = true := by
  cases expected with
  | none => rfl
  | some t =>
    have hd : (Relation.default strict role).accepts S d.ty t = true := hd
    show (Relation.default loose role).accepts S d.ty t = true
    by_cases hs : strict.requiresType = true
    · have hexact : Relation.default strict role = .exact := if_pos hs
      rw [hexact] at hd
      exact Relation.accepts_of_exact _ hd
    · have hsame : Relation.default loose role = Relation.default strict role := by
        unfold Relation.default
        rw [if_neg hs, if_neg (mt h hs)]
      rwa [hsame]

/-- A query that is well formed in the stricter mode is well formed in the looser one. -/
theorem check_of_looser (h : loose.requiresType = true → strict.requiresType = true)
    (hc : Query.check { role, name, expected, mode := strict } = .ok ()) :
    Query.check { role, name, expected, mode := loose } = .ok () := by
  refine Query.check_of_typed fun hl => ?_
  cases expected with
  | some t => rfl
  | none =>
    unfold Query.check at hc
    rw [if_pos (by simpa using h hl)] at hc
    cases hc

/-- A mode without conventions finds no nearer member than a mode that is as loose about types. -/
theorem exists_nearer_of_exact (hn : name ≠ "*") (hs : strict.usesConventions = false)
    (h : loose.requiresType = true → strict.requiresType = true)
    (hm : S.member? { role, name, expected, mode := strict } owner = .ok (some m)) :
    ∃ n, S.member? { role, name, expected, mode := loose } owner = .ok (some n) ∧
      n.depth ≤ m.depth ∧ (n.depth = m.depth → n = m) := by
  have hc := check_of_looser h (member?_eq_ok_some_iff.1 hm).1
  have hstar : ¬ Query.Star { role, name, expected, mode := loose } := fun hstar => hn hstar.1
  refine exists_nearer_or_same hc hstar (fun l m hl => ?_) hm
  exact Query.head?_found_of_exact (q := { role, name, expected, mode := strict }) hs rfl rfl hstar
    (accepts_of_looser h) hl

/-- **Looser modes find nearer members.**  With the usual relations, what is found by the exact name
and type is found, or something nearer is, if either may be looser, and so on if both may.  At the
same level the exact name finds the same member in both modes. -/
theorem looser_modes_find_nearer_members (hn : name ≠ "*") :
    let find (mode : Mode) := S.member? { role, name, expected, mode } owner
    (∀ m, find .known = .ok (some m) →
      (∃ n, find .named = .ok (some n) ∧ n.depth ≤ m.depth ∧ (n.depth = m.depth → n = m)) ∧
        ∃ n, find .typed = .ok (some n) ∧ n.depth ≤ m.depth ∧ (n.depth = m.depth → n = m)) ∧
    (∀ m, find .named = .ok (some m) →
      ∃ n, find .auto = .ok (some n) ∧ n.depth ≤ m.depth ∧ (n.depth = m.depth → n = m)) ∧
    ∀ m, find .typed = .ok (some m) → ∃ n, find .auto = .ok (some n) ∧ n.depth ≤ m.depth := by
  intro find
  refine ⟨fun m hm => ⟨?_, ?_⟩, fun m hm => ?_, fun m hm => ?_⟩
  · exact exists_nearer_of_exact hn rfl (fun _ => rfl) hm
  · exact exists_nearer_of_exact hn rfl (fun _ => rfl) hm
  · exact exists_nearer_of_exact hn rfl nofun hm
  · have hc : Query.check { role, name, expected, mode := .auto } = .ok () :=
      check_of_looser nofun (member?_eq_ok_some_iff.1 hm).1
    have hstar (mode : Mode) : ¬ Query.Star { role, name, expected, mode } :=
      fun hstar => hn hstar.1
    -- Both modes go by convention, so they try the same candidates.
    have hf (l : Level) (hl : Query.found S { role, name, expected, mode := .typed } l ≠ []) :
        Query.found S { role, name, expected, mode := .auto } l ≠ [] :=
      Query.found_ne_nil_of_accepts (q := { role, name, expected, mode := .typed })
        rfl rfl (hstar .typed) (hstar .auto) (accepts_of_looser nofun) hl
    obtain ⟨n, hfind, hle, -⟩ := exists_nearer hc (hstar .auto) hf hm
    exact ⟨n, hfind, hle⟩

/-- A text two levels up, and in front of it an optional text, which is good enough without the
exact type. -/
theorem looser_modes_find_nearer_members_in_chain :
    let find (mode : Mode) := Sample.schema.member?
      { role := .field, name := "label", expected := some .text, mode } Sample.third.ty
    ∃ m, find .known = .ok (some m) ∧ m.depth = 2 ∧
      (∃ n, find .named = .ok (some n) ∧ n.depth ≤ 2 ∧ n.depth = 1) ∧
        ∃ n, find .typed = .ok (some n) ∧ n.depth ≤ 2 ∧ (n.depth = 2 → n = m) := by
  intro find
  obtain ⟨_, hm, m, rfl, hd⟩ : ∃ a, find .known = .ok a ∧ ∃ m ∈ a, m.depth = 2 := by
    decide +kernel
  have hone : (find .named).toOption.join.map Member.depth = some 1 := by decide +kernel
  obtain ⟨⟨n, hn, hle, -⟩, htyped⟩ := (looser_modes_find_nearer_members (by decide)).1 m hm
  rw [hd] at hle htyped
  refine ⟨m, hm, hd, ⟨n, hn, hle, ?_⟩, htyped⟩
  rw [show find .named = .ok (some n) from hn] at hone
  exact Option.some.inj hone

end

end Schema
end BeanPath
