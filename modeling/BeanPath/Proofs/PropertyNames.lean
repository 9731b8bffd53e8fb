import BeanPath.Accessor.Definition
import BeanPath.Proofs.Labels
import BeanPath.Proofs.Spellings

/-!
# From accessor names back to the property

By convention a property `p` has the getters `p`, `get_p`, `is_p` and `has_p` and the setters `p`,
`set_p`, `set_is_p` and `set_has_p`.  A definition that names only one of them derives the name of
the property by taking the first of a list of words off.  One of these words begins with another, so
each candidate has to get past the words that are tried before its own (`Stage.strip_of_mismatch`)
up to the one that it was made with (`Stage.strip_append`).
-/

namespace BeanPath

/-! ### Taking words off -/

namespace Stage

variable {b name : String} {bs : List String}

/-- The first of the words is taken off in front of a name. -/
theorem strip_append (bs : List String) (h : name ≠ "") : strip (b :: bs) (b ++ name) = name := by
  have hlen : 0 < name.length := Nat.pos_of_ne_zero fun h0 => h (String.length_eq_zero_iff.1 h0)
  have hcond :
      (b.toList.isPrefixOf (b ++ name).toList && b.length < (b ++ name).length) = true := by
    rw [Bool.and_eq_true, List.isPrefixOf_iff_prefix, String.toList_append, String.length_append,
      decide_eq_true_eq]
    exact ⟨List.prefix_append _ _, by omega⟩
  unfold strip
  rw [List.findSome?_cons, if_pos hcond, String.toList_append, ← String.length_toList,
    List.drop_left, String.ofList_toList]
  rfl

/-- A word that the name does not begin with is passed over. -/
theorem strip_cons_of_mismatch (h : ¬ b.toList <+: name.toList) :
    strip (b :: bs) name = strip bs name := by
  have hcond : ¬ (b.toList.isPrefixOf name.toList && b.length < name.length) = true := by
    rw [Bool.and_eq_true, List.isPrefixOf_iff_prefix]
    exact fun hb => h hb.1
  unfold strip
  rw [List.findSome?_cons, if_neg hcond]

/-- A name that begins with none of the words stays as it is. -/
theorem strip_of_mismatch (h : ∀ b ∈ bs, ¬ b.toList <+: name.toList) : strip bs name = name := by
  induction bs with
  | nil => rfl
  | cons b bs ih =>
    obtain ⟨hb, hbs⟩ := List.forall_mem_cons.1 h
    rw [strip_cons_of_mismatch hb, ih hbs]

/-- A stage with a segment in the path of one role alone. -/
def only (role : Role) (s : Segment) : Stage :=
  match role with
  | .field => ⟨some s, none, none⟩
  | .getter => ⟨none, some s, none⟩
  | .setter => ⟨none, none, some s⟩

end Stage

/-- A definition that gives the path of one role alone. -/
def Definition.only (role : Role) (path : String) : Definition :=
  match role with
  | .field => { field := path }
  | .getter => { getter := path }
  | .setter => { setter := path }

/-! ### Conventional names -/

namespace Spelling

/-- Small letters, digits and low lines, at least one. -/
structure Plain (name : String) : Prop where
  ne_empty : name ≠ ""
  chars : ∀ c ∈ name.toList, c.isLower = true ∨ c.isDigit = true ∨ c = '_'

instance (name : String) : Decidable (Plain name) :=
  decidable_of_iff
    (name ≠ "" ∧ (name.toList.all fun c => c.isLower || c.isDigit || c == '_') = true)
    ⟨fun ⟨hne, hall⟩ => ⟨hne, by simpa [or_assoc] using hall⟩,
      fun h => ⟨h.ne_empty, by simpa [or_assoc] using h.chars⟩⟩

variable {name : String} {role : Role} {c : Candidate}

/-- A plain name has its words apart already. -/
theorem Plain.snake (h : Plain name) : snake name = name := by
  refine snake_of_not_isUpper fun c hc => ?_
  rcases h.chars c hc with hl | hd | rfl
  · exact (small_of (.inl hl)).1
  · exact (small_of (.inr hd)).1
  · decide

/-- A plain name behind a plain word is a plain name. -/
theorem Plain.append {affix : String} (ha : Plain affix) (h : Plain name) :
    Plain (affix ++ name) := by
  refine ⟨fun he => h.ne_empty (String.append_eq_empty_iff.1 he).2, fun c hc => ?_⟩
  rw [String.toList_append] at hc
  exact (List.mem_append.1 hc).elim (ha.chars c) (h.chars c)

/-- No character of a plain name means anything in a path. -/
theorem Plain.not_special (h : Plain name) : ∀ c ∈ name.toList, c ∉ Path.specials := by
  have hspecial : ∀ s ∈ Path.specials, ¬ (s.isLower = true ∨ s.isDigit = true ∨ s = '_') := by
    simp [Path.specials]
  exact fun c hc hs => hspecial c hs (h.chars c hc)

/-- Adding candidates brings in no others. -/
theorem mem_of_mem_foldl_addCandidate {cs new : List Candidate}
    (h : c ∈ new.foldl addCandidate cs) : c ∈ cs ∨ c ∈ new := by
  induction new generalizing cs with
  | nil => exact .inl h
  | cons d new ih =>
    rcases ih h with h | h
    · unfold addCandidate at h
      split at h
      · exact .inl h
      · rcases List.mem_append.1 h with h | h
        · exact .inl h
        · exact .inr (List.mem_cons.2 (.inl (List.mem_singleton.1 h)))
    · exact .inr (List.mem_cons_of_mem d h)

/-- The candidates for a plain name by convention: the name, and the name behind a word. -/
theorem name_of_mem_candidates (h : Plain name)
    (hc : c ∈ candidates role .auto name) :
    c.name = name ∨ ∃ affix ∈ (affixes role).map Prod.fst, c.name = affix ++ name := by
  rcases mem_of_mem_foldl_addCandidate hc with hc | hc
  · cases hc
  · have hconv : Mode.auto.usesConventions = true := rfl
    unfold spellings at hc
    rw [if_pos hconv, h.snake] at hc
    rcases List.mem_cons.1 hc with rfl | hc
    · exact .inl rfl
    · rcases List.mem_cons.1 hc with rfl | hc
      · exact .inl rfl
      · obtain ⟨a, ha, rfl⟩ := List.mem_map.1 hc
        exact .inr ⟨a.1, List.mem_map_of_mem ha, rfl⟩

/-- The customary words are plain. -/
theorem plain_affix : ∀ affix ∈ (affixes role).map Prod.fst, Plain affix := by
  have hall : ((affixes role).map Prod.fst).all (fun affix => decide (Plain affix)) = true := by
    cases role <;> decide
  exact fun affix h => of_decide_eq_true (List.all_eq_true.1 hall affix h)

/-- The candidates for a plain name are plain. -/
theorem Plain.of_mem_candidates (h : Plain name) (hc : c ∈ candidates role .auto name) :
    Plain c.name := by
  rcases name_of_mem_candidates h hc with hn | ⟨affix, ha, hn⟩
  · rwa [hn]
  · rw [hn]
    exact (plain_affix affix ha).append h

end Spelling

/-- A plain name is a path with one stage. -/
theorem Definition.stages_only {name : String} (role : Role) (h : Spelling.Plain name) :
    (Definition.only role name).stages =
      .ok [Stage.only role ⟨⟨name, none, false, 0⟩, [], none⟩] := by
  have hstar : name ≠ "*" := by
    rintro rfl
    exact absurd (h.chars '*' (by decide)) (by decide)
  have hskip : Name.skip ⟨name, none, false, 0⟩ = false := by simp [Name.skip, h.ne_empty]
  have hpath : stream name = .ok (some [⟨⟨name, none, false, 0⟩, [], none⟩]) := by
    have hseg : (Path.segments name).mapM id = .ok [_] :=
      Path.mapM_id_eq_ok_iff.2 (Path.segments_of_plain h.not_special hstar)
    unfold stream
    rw [if_neg hstar, hseg]
    simp [hskip]
  have hnone : stream "*" = .ok none := rfl
  cases role <;>
    (unfold stages Definition.only; dsimp only; rw [hpath, hnone]; rfl)

/-! ### The way back -/

section

variable {p : String} {c : Candidate}

/-- From each candidate for a getter the way back is to the name of the property. -/
theorem strip_getter_candidate (hp : Spelling.Plain p)
    (hb : ∀ b ∈ ["get_", "is_", "has_"], ¬ b.toList <+: p.toList)
    (hc : c ∈ Spelling.candidates .getter .auto p) :
    Stage.strip ["get_", "is_", "has_"] c.name = p := by
  rcases Spelling.name_of_mem_candidates hp hc with hn | ⟨affix, ha, hn⟩
  · rw [hn, Stage.strip_of_mismatch hb]
  · rw [hn]
    simp only [Spelling.affixes, List.map_cons, List.map_nil, List.mem_cons, List.not_mem_nil,
      or_false] at ha
    rcases ha with rfl | rfl | rfl
    · exact Stage.strip_append _ hp.ne_empty
    · rw [Stage.strip_cons_of_mismatch (by simp)]
      exact Stage.strip_append _ hp.ne_empty
    · rw [Stage.strip_cons_of_mismatch (by simp), Stage.strip_cons_of_mismatch (by simp)]
      exact Stage.strip_append _ hp.ne_empty

/-- From each candidate for a setter the way back is to the name of the property. -/
theorem strip_setter_candidate (hp : Spelling.Plain p)
    (hb : ∀ b ∈ ["set_", "is_", "has_"], ¬ b.toList <+: p.toList)
    (hc : c ∈ Spelling.candidates .setter .auto p) :
    Stage.strip ["set_is_", "set_has_", "set_"] c.name = p := by
  simp only [List.forall_mem_cons, List.not_mem_nil, false_implies, implies_true, and_true] at hb
  obtain ⟨hset, his, hhas⟩ := hb
  rcases Spelling.name_of_mem_candidates hp hc with hn | ⟨affix, ha, hn⟩
  · -- The longer words begin with the shortest one.
    have hlong (b : String) (h : "set_".toList <+: b.toList) : ¬ b.toList <+: p.toList :=
      fun hb => hset (h.trans hb)
    rw [hn, Stage.strip_of_mismatch]
    simp only [List.forall_mem_cons]
    exact ⟨hlong _ (by decide), hlong _ (by decide), hset, nofun⟩
  · -- Behind the shortest word, a longer one would have to go on in the property.
    have hbehind (b w : String) (hw : w.toList = "set_".toList ++ b.toList)
        (h : ¬ b.toList <+: p.toList) : ¬ w.toList <+: ("set_" ++ p).toList := by
      rwa [hw, String.toList_append, List.prefix_append_right_inj]
    rw [hn]
    simp only [Spelling.affixes, List.map_cons, List.map_nil, List.mem_cons, List.not_mem_nil,
      or_false] at ha
    rcases ha with rfl | rfl | rfl
    · rw [Stage.strip_cons_of_mismatch (hbehind "is_" _ (by decide) his),
        Stage.strip_cons_of_mismatch (hbehind "has_" _ (by decide) hhas)]
      exact Stage.strip_append _ hp.ne_empty
    · exact Stage.strip_append _ hp.ne_empty
    · rw [Stage.strip_cons_of_mismatch (by simp)]
      exact Stage.strip_append _ hp.ne_empty

/-- **Derived names undo the conventions.**  Of a property with a plain name that does not begin
with one of the customary words itself, every getter and every setter by convention leads back to
the property, in a definition and at any stage where it is the only name. -/
theorem derived_names_undo_the_conventions (hne : p ≠ "")
    (hp : ∀ c ∈ p.toList, c.isLower = true ∨ c.isDigit = true ∨ c = '_') :
    ((∀ b ∈ ["get_", "is_", "has_"], ¬ b.toList <+: p.toList) →
      ∀ c ∈ Spelling.candidates .getter .auto p,
        (∀ s : Segment, s.base.text = c.name →
          (⟨none, some s, none⟩ : Stage).property? = some p) ∧
        ∃ stage, ({ getter := c.name } : Definition).stages = .ok [stage] ∧
          stage.property? = some p) ∧
    ((∀ b ∈ ["set_", "is_", "has_"], ¬ b.toList <+: p.toList) →
      ∀ c ∈ Spelling.candidates .setter .auto p,
        (∀ s : Segment, s.base.text = c.name →
          (⟨none, none, some s⟩ : Stage).property? = some p) ∧
        ∃ stage, ({ setter := c.name } : Definition).stages = .ok [stage] ∧
          stage.property? = some p) := by
  have hplain : Spelling.Plain p := ⟨hne, hp⟩
  constructor
  · intro hb c hc
    have hderived (s : Segment) (hs : s.base.text = c.name) :
        (Stage.only .getter s).property? = some p := by
      show some (Stage.strip _ s.base.text) = some p
      rw [hs, strip_getter_candidate hplain hb hc]
    exact ⟨hderived, _, Definition.stages_only .getter (hplain.of_mem_candidates hc),
      hderived _ rfl⟩
  · intro hb c hc
    have hderived (s : Segment) (hs : s.base.text = c.name) :
        (Stage.only .setter s).property? = some p := by
      show some (Stage.strip _ s.base.text) = some p
      rw [hs, strip_setter_candidate hplain hb hc]
    exact ⟨hderived, _, Definition.stages_only .setter (hplain.of_mem_candidates hc),
      hderived _ rfl⟩

/-- A property that begins like one of the customary words and has another one inside. -/
theorem derived_names_undo_the_conventions_for_issue :
    (∀ name ∈ ["issue_get_2", "get_issue_get_2", "is_issue_get_2", "has_issue_get_2"],
      ∃ stage, ({ getter := name } : Definition).stages = .ok [stage] ∧
        stage.property? = some "issue_get_2") ∧
    ∀ name ∈ ["issue_get_2", "set_issue_get_2", "set_is_issue_get_2", "set_has_issue_get_2"],
      ∃ stage, ({ setter := name } : Definition).stages = .ok [stage] ∧
        stage.property? = some "issue_get_2" := by
  obtain ⟨hgetter, hsetter⟩ :=
    derived_names_undo_the_conventions (p := "issue_get_2") (by decide) (by simp)
  have hgetters : (Spelling.candidates .getter .auto "issue_get_2").map Candidate.name =
      ["issue_get_2", "get_issue_get_2", "is_issue_get_2", "has_issue_get_2"] := by decide
  have hsetters : (Spelling.candidates .setter .auto "issue_get_2").map Candidate.name =
      ["issue_get_2", "set_issue_get_2", "set_is_issue_get_2", "set_has_issue_get_2"] := by decide
  rw [← hgetters, ← hsetters]
  constructor
  · intro name hn
    obtain ⟨c, hc, rfl⟩ := List.mem_map.1 hn
    exact (hgetter (by decide) c hc).2
  · intro name hn
    obtain ⟨c, hc, rfl⟩ := List.mem_map.1 hn
    exact (hsetter (by decide) c hc).2

-- A property that begins with a customary word may lose it behind another one.
example : Stage.strip ["set_is_", "set_has_", "set_"] "set_is_open" = "open" := by decide

end

end BeanPath
