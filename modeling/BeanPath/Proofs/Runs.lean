import Mathlib.Data.List.TakeWhile
import BeanPath.Path.Parser
import BeanPath.Proofs.Updates

/-!
# Runs of characters in a path

A name in a path is a run of glyphs: a glyph is a character as itself or with a backslash in front,
and a run ends where a glyph without a backslash is one of the characters that end it.  Scanning,
splitting a qualifier off and unescaping walk the characters each on their own; on what a list of
glyphs spells all three do what the list says (`Path.splitRun_spell`, `Path.splitQualifier_spell`,
`Path.unescape_spell`).  So a run can be read exactly if it is a list of glyphs without an ending
one among them, and no equals sign has only white space in front of it (`Path.readRun_eq_ok_iff`).
-/

namespace BeanPath

namespace Text

/-- Trimming leaves nothing of white space, and something of every other text. -/
theorem trim_eq_nil_iff {cs : List Char} : trim cs = [] ↔ ∀ c ∈ cs, isBlank c = true := by
  unfold trim trimLeft
  rw [List.reverse_eq_nil_iff, List.dropWhile_eq_nil_iff]
  constructor
  · intro h
    refine List.dropWhile_eq_nil_iff.1 ?_
    -- What is left starts with a character that is not white, if anything is left.
    cases hd : cs.dropWhile isBlank with
    | nil => rfl
    | cons c ds =>
      have hc := List.head_dropWhile_not isBlank (l := cs) (by simp [hd])
      have hb := h c (by simp [hd])
      simp [hd, hb] at hc
  · intro h c hc
    exact h c ((List.dropWhile_suffix _).subset (List.mem_reverse.1 hc))

/-- A text without white space at either end is left as it is. -/
theorem trim_of_ends {cs : List Char} (hh : ∀ c ∈ cs.head?, isBlank c = false)
    (hl : ∀ c ∈ cs.getLast?, isBlank c = false) : trim cs = cs := by
  have hleft {ds : List Char} (hd : ∀ c ∈ ds.head?, isBlank c = false) : trimLeft ds = ds := by
    cases ds with
    | nil => rfl
    | cons d ds => exact trimLeft_of_head (hd d rfl)
  unfold trim
  rw [hleft hh, hleft (by rwa [List.head?_reverse]), List.reverse_reverse]

/-- What is trimmed from the left does not start with white space. -/
theorem head?_trimLeft (cs : List Char) : ∀ c ∈ (trimLeft cs).head?, isBlank c = false := by
  intro c hc
  have h := List.head?_dropWhile_not isBlank cs
  unfold trimLeft at hc
  rw [Option.mem_def.1 hc] at h
  exact h

/-- Trimming once is enough. -/
theorem trim_trim (cs : List Char) : trim (trim cs) = trim cs := by
  refine trim_of_ends (fun c hc => head?_trimLeft cs c ?_) (fun c hc => ?_)
  · -- What is trimmed from the end leaves the front alone.
    obtain ⟨dropped, hd⟩ : trimLeft (trimLeft cs).reverse <:+ (trimLeft cs).reverse :=
      List.dropWhile_suffix _
    have hfront : trimLeft cs = trim cs ++ dropped.reverse := by
      rw [← List.reverse_reverse (trimLeft cs), ← hd, List.reverse_append]
      rfl
    rw [hfront, Option.mem_def, List.head?_append, Option.mem_def.1 hc, Option.some_or]
  · rw [trim, List.getLast?_reverse] at hc
    exact head?_trimLeft _ c hc

/-- A trimmed text is left as it is by another trimming. -/
theorem trimmed_trimmed (s : String) : trimmed (trimmed s) = trimmed s := by
  rw [trimmed, trimmed, String.toList_ofList, trim_trim]

end Text

namespace Path

/-! ### Spots and glyphs -/

/-- Where a name stands in a path: as a base, as a base in parentheses, or in a bracket group. -/
inductive Spot where
  | base | enclosed | item
  deriving DecidableEq, Repr

/-- The characters that end a name without a backslash in front of them. -/
def Spot.ends : Spot → Char → Bool
  | base => endsBase
  | enclosed => (· == ')')
  | item => endsItem

/-- A character as it stands in a path: as itself, or with a backslash in front. -/
inductive Glyph where
  | plain (c : Char) (h : c ≠ '\\')
  | escaped (c : Char)

namespace Glyph

/-- The character. -/
def char : Glyph → Char
  | plain c _ | escaped c => c

/-- The characters that stand for it in a path. -/
def spelling : Glyph → List Char
  | plain c _ => [c]
  | escaped c => ['\\', c]

/-- Whether it has no backslash in front and the character is of a class. -/
def plainly (p : Char → Bool) : Glyph → Bool
  | plain c _ => p c
  | escaped _ => false

@[simp] theorem plainly_plain (p : Char → Bool) (c : Char) (hc : c ≠ '\\') :
    (plain c hc).plainly p = p c := rfl

@[simp] theorem plainly_escaped (p : Char → Bool) (c : Char) :
    (escaped c).plainly p = false := rfl

/-- An equals sign without a backslash. -/
def equals : Glyph := plain '=' (by decide)

/-- An equals sign that is not escaped is just one glyph. -/
theorem eq_equals_of_plainly {g : Glyph} (h : g.plainly (· == '=') = true) : g = equals := by
  cases g with
  | plain c hc => cases beq_iff_eq.1 h; rfl
  | escaped c => cases h

end Glyph

variable {ends : Char → Bool} {g : Glyph} {gs qs ts : List Glyph} {c : Char} {cs rest : List Char}

/-- The characters of glyphs in a path. -/
def spell (gs : List Glyph) : List Char := gs.flatMap Glyph.spelling

@[simp] theorem spell_nil : spell [] = [] := rfl

@[simp] theorem spell_cons : spell (g :: gs) = g.spelling ++ spell gs := rfl

@[simp] theorem spell_append : spell (qs ++ ts) = spell qs ++ spell ts := List.flatMap_append

/-- The characters that glyphs stand for. -/
def letters (gs : List Glyph) : List Char := gs.map Glyph.char

/-- The rest of a path at a character that ends a run, or at the end. -/
def Stops (ends : Char → Bool) (rest : List Char) : Prop :=
  ∀ c ∈ rest.head?, ends c = true ∧ c ≠ '\\'

/-- Every run ends at the end of the path. -/
theorem stops_nil : Stops ends [] := by simp [Stops]

/-- A run ends at a character that ends it, as long as that is not the backslash of an escaped
one. -/
theorem stops_cons : Stops ends (c :: cs) ↔ ends c = true ∧ c ≠ '\\' := by
  simp [Stops]

/-! ### Scanning and unescaping -/

/-- A scan stops at an ending character and goes over any other one, if it is no backslash. -/
theorem splitRun_cons (hc : c ≠ '\\') :
    splitRun ends (c :: cs) =
      if ends c then ([], c :: cs) else (c :: (splitRun ends cs).1, (splitRun ends cs).2) := by
  rw [splitRun]
  · exact fun h => (hc h).elim
  · exact fun _ _ h => (hc h).elim

/-- Whether a backslash is left at the end does not depend on other characters. -/
theorem dangling_cons (hc : c ≠ '\\') : dangling (c :: cs) = dangling cs := by
  rw [dangling]
  · exact fun h => (hc h).elim
  · exact fun _ _ h => (hc h).elim

/-- Only backslashes are dropped. -/
theorem unescape_cons (hc : c ≠ '\\') : Name.unescape (c :: cs) = c :: Name.unescape cs := by
  rw [Name.unescape]
  · exact fun h => (hc h).elim
  · exact fun _ _ h => (hc h).elim

/-- A qualifier ends at the first equals sign without a backslash in front. -/
theorem splitQualifier_cons (hc : c ≠ '\\') :
    Name.splitQualifier (c :: cs) =
      if c = '=' then some ([], cs)
      else (Name.splitQualifier cs).map fun (q, t) => (c :: q, t) := by
  rw [Name.splitQualifier]
  · exact fun h => (hc h).elim
  · exact fun _ _ h => (hc h).elim

/-- Scanning takes the glyphs in front of one that ends the run. -/
theorem splitRun_spell (hg : ∀ g ∈ gs, g.plainly ends = false) (hr : Stops ends rest) :
    splitRun ends (spell gs ++ rest) = (spell gs, rest) := by
  induction gs with
  | nil =>
    cases rest with
    | nil => rfl
    | cons c rest =>
      obtain ⟨he, hc⟩ := stops_cons.1 hr
      rw [spell_nil, List.nil_append, splitRun_cons hc, if_pos he]
  | cons g gs ih =>
    obtain ⟨hg, hgs⟩ := List.forall_mem_cons.1 hg
    cases g with
    | plain c hc =>
      show splitRun ends (c :: (spell gs ++ rest)) = _
      rw [splitRun_cons hc, if_neg (show ¬ ends c = true by simpa using hg), ih hgs]
      rfl
    | escaped c =>
      show splitRun ends ('\\' :: c :: (spell gs ++ rest)) = _
      rw [splitRun, ih hgs]
      rfl

/-- In what glyphs spell, every backslash has a character behind it. -/
theorem dangling_spell (gs : List Glyph) : dangling (spell gs) = false := by
  induction gs with
  | nil => rfl
  | cons g gs ih =>
    cases g with
    | plain c hc => exact (dangling_cons hc).trans ih
    | escaped c => exact ih

/-- A character that a scan reads on its own is no backslash. -/
theorem ne_backslash (h₁ : c = '\\' → cs = [] → False)
    (h₂ : ∀ d ds, c = '\\' → cs = d :: ds → False) : c ≠ '\\' := by
  rintro rfl
  cases cs with
  | nil => exact h₁ rfl rfl
  | cons d ds => exact h₂ d ds rfl rfl

/-- What scanning takes is spelled by glyphs that do not end the run, unless a backslash is left. -/
theorem exists_glyphs (h : dangling (splitRun ends cs).1 = false) :
    ∃ gs, (splitRun ends cs).1 = spell gs ∧ (∀ g ∈ gs, g.plainly ends = false) ∧
      Stops ends (splitRun ends cs).2 := by
  fun_induction splitRun ends cs with
  | case1 => exact ⟨[], rfl, List.forall_mem_nil _, stops_nil⟩
  | case2 => cases h
  | case3 c cs ih =>
    obtain ⟨gs, hs, hg, hr⟩ := ih h
    exact ⟨.escaped c :: gs, by rw [hs]; rfl, List.forall_mem_cons.2 ⟨rfl, hg⟩, hr⟩
  | case4 c cs h₁ h₂ he =>
    exact ⟨[], rfl, List.forall_mem_nil _, stops_cons.2 ⟨he, ne_backslash h₁ h₂⟩⟩
  | case5 c cs h₁ h₂ he ih =>
    have hc : c ≠ '\\' := ne_backslash h₁ h₂
    obtain ⟨gs, hs, hg, hr⟩ := ih (by rwa [dangling_cons hc] at h)
    refine ⟨.plain c hc :: gs, by rw [hs]; rfl, List.forall_mem_cons.2 ⟨?_, hg⟩, hr⟩
    simpa using he

/-- Unescaping leaves the characters that the glyphs stand for. -/
theorem unescape_spell (gs : List Glyph) : Name.unescape (spell gs) = letters gs := by
  induction gs with
  | nil => rfl
  | cons g gs ih =>
    cases g with
    | plain c hc => exact (unescape_cons hc).trans (congrArg _ ih)
    | escaped c => exact congrArg _ ih

/-! ### Names -/

/-- Splits glyphs at the first equals sign without a backslash. -/
def cut : List Glyph → Option (List Glyph × List Glyph)
  | [] => none
  | g :: gs =>
    if g.plainly (· == '=') then some ([], gs) else (cut gs).map fun (q, t) => (g :: q, t)

/-- The qualifier is split off between two glyphs, never between a backslash and its character. -/
theorem splitQualifier_spell (gs : List Glyph) :
    Name.splitQualifier (spell gs) = (cut gs).map fun (q, t) => (spell q, spell t) := by
  induction gs with
  | nil => rfl
  | cons g gs ih =>
    cases g with
    | plain c hc =>
      show Name.splitQualifier (c :: spell gs) = _
      rw [splitQualifier_cons hc, cut]
      by_cases he : c = '='
      · subst he
        rfl
      · rw [if_neg he, if_neg (by simpa using he), ih, Option.map_map,
          Option.map_map]
        rfl
    | escaped c =>
      show Name.splitQualifier ('\\' :: c :: spell gs) = _
      rw [Name.splitQualifier, ih, cut, if_neg (by simp), Option.map_map, Option.map_map]
      rfl

/-- No equals sign without a backslash has nothing but white space in front of it. -/
def Named (gs : List Glyph) : Prop :=
  ∀ blank rest, gs = blank ++ Glyph.equals :: rest →
    ∃ g ∈ blank, g.plainly Text.isBlank = false

/-- What is cut at an equals sign is put together again with one. -/
theorem eq_of_cut (h : cut gs = some (qs, ts)) : gs = qs ++ Glyph.equals :: ts := by
  induction gs generalizing qs with
  | nil => cases h
  | cons g gs ih =>
    rw [cut] at h
    split at h
    · next he =>
      cases h
      rw [Glyph.eq_equals_of_plainly he]
      rfl
    · obtain ⟨⟨q, t⟩, hq, h⟩ := Option.map_eq_some_iff.1 h
      cases h
      rw [ih hq]
      rfl

/-- Glyphs with an equals sign among them are cut there or earlier. -/
theorem exists_cut (blank rest : List Glyph) :
    ∃ q t, cut (blank ++ Glyph.equals :: rest) = some (q, t) ∧ q ⊆ blank := by
  induction blank with
  | nil => exact ⟨[], rest, rfl, List.nil_subset _⟩
  | cons g blank ih =>
    rw [List.cons_append, cut]
    split
    · exact ⟨[], _, rfl, List.nil_subset _⟩
    · obtain ⟨q, t, hq, hs⟩ := ih
      exact ⟨g :: q, t, by rw [hq]; rfl, List.cons_subset_cons g hs⟩

/-- Glyphs without an equals sign are not cut; escaped ones do not count. -/
theorem cut_of_plainly (h : ∀ g ∈ gs, g.plainly (· == '=') = false) : cut gs = none := by
  induction gs with
  | nil => rfl
  | cons g gs ih =>
    obtain ⟨hg, hgs⟩ := List.forall_mem_cons.1 h
    rw [cut, hg, ih hgs]
    rfl

/-- Glyphs are cut at the first equals sign. -/
theorem cut_append (h : ∀ g ∈ qs, g.plainly (· == '=') = false) :
    cut (qs ++ Glyph.equals :: ts) = some (qs, ts) := by
  induction qs with
  | nil => rfl
  | cons g qs ih =>
    obtain ⟨hg, hqs⟩ := List.forall_mem_cons.1 h
    rw [List.cons_append, cut, hg, ih hqs]
    rfl

/-- It is enough to look at the first equals sign. -/
theorem named_iff :
    Named gs ↔ ∀ q t, cut gs = some (q, t) → ∃ g ∈ q, g.plainly Text.isBlank = false := by
  constructor
  · exact fun h q t hq => h q t (eq_of_cut hq)
  · rintro h blank rest rfl
    obtain ⟨q, t, hq, hs⟩ := exists_cut blank rest
    obtain ⟨g, hg, hb⟩ := h q t hq
    exact ⟨g, hs hg, hb⟩

/-- The name that glyphs make at a byte position: the text after the first equals sign, with what is
in front of it as the qualifier, or else the whole text. -/
def nameOf (offset : Nat) (gs : List Glyph) : Name :=
  match cut gs with
  | none => ⟨String.ofList (letters gs), none, spell gs == ['*'], offset⟩
  | some (q, t) =>
    ⟨String.ofList (letters t), some (String.ofList (Name.unescape (Text.trim (spell q)))),
      spell t == ['*'], offset⟩

/-- Glyphs spell nothing but white space if all of them are blanks without a backslash. -/
theorem forall_blank_iff :
    (∀ c ∈ spell gs, Text.isBlank c = true) ↔ ∀ g ∈ gs, g.plainly Text.isBlank = true := by
  induction gs with
  | nil => simp
  | cons g gs ih =>
    rw [spell_cons, List.forall_mem_append, List.forall_mem_cons, ih]
    refine and_congr_left fun _ => ?_
    cases g with
    | plain c hc => simp [Glyph.spelling]
    | escaped c => simp [Glyph.spelling, show Text.isBlank '\\' = false by decide]

/-- What glyphs spell is read as the name they make, unless the qualifier is empty. -/
theorem read_spell_eq_ok_iff {offset : Nat} {n : Name} :
    Name.read offset (spell gs) = .ok n ↔ Named gs ∧ n = nameOf offset gs := by
  rw [named_iff]
  unfold Name.read nameOf
  rw [splitQualifier_spell]
  cases hc : cut gs with
  | none =>
    rw [unescape_spell]
    simp only [Option.map_none, reduceCtorEq, false_implies, implies_true, true_and,
      Except.ok.injEq]
    exact eq_comm
  | some p =>
    obtain ⟨q, t⟩ := p
    have hq : (Text.trim (spell q)).isEmpty = false ↔ ∃ g ∈ q, g.plainly Text.isBlank = false := by
      rw [← Bool.not_eq_true, List.isEmpty_iff, Text.trim_eq_nil_iff, forall_blank_iff]
      simp
    simp only [Option.map_some, unescape_spell]
    split
    · next he =>
      simp only [reduceCtorEq, Option.some.injEq, Prod.mk.injEq, false_iff]
      rintro ⟨h, -⟩
      rw [hq.2 (h q t ⟨rfl, rfl⟩)] at he
      cases he
    · next he =>
      rw [Bool.not_eq_true, hq] at he
      rw [Except.ok.injEq]
      refine ⟨fun h => ⟨fun q' t' h' => ?_, h.symm⟩, fun h => h.2.symm⟩
      cases h'
      exact he

/-! ### Runs -/

/-- A raw name: glyphs none of which ends it, and no equals sign with only white space in front. -/
structure Run (s : Spot) where
  glyphs : List Glyph
  free : ∀ g ∈ glyphs, g.plainly s.ends = false
  named : Named glyphs

namespace Run

variable {s : Spot}

/-- The characters of a raw name. -/
def spelling (r : Run s) : List Char := spell r.glyphs

/-- The name at a byte position. -/
def name (offset : Nat) (r : Run s) : Name := nameOf offset r.glyphs

end Run

/-- A run is taken off exactly as far as glyphs go that do not end it. -/
theorem takeRun_eq_ok_iff {c next : Cursor} {raw : List Char} :
    takeRun ends c = .ok (raw, next) ↔
      ∃ gs, raw = spell gs ∧ (∀ g ∈ gs, g.plainly ends = false) ∧ Stops ends next.rest ∧
        c.rest = raw ++ next.rest ∧ next.offset = c.offset + byteLength raw := by
  constructor
  · intro h
    unfold takeRun at h
    dsimp only at h
    split at h
    · cases h
    · next hd =>
      obtain ⟨gs, hs, hg, hr⟩ := exists_glyphs (Bool.eq_false_iff.2 hd)
      cases h
      exact ⟨gs, hs, hg, hr, (splitRun_append ends c.rest).symm, rfl⟩
  · rintro ⟨gs, rfl, hg, hr, hc, ho⟩
    unfold takeRun
    rw [hc, splitRun_spell hg hr]
    dsimp only
    rw [dangling_spell, if_neg Bool.false_ne_true, ← ho]

/-- **A name can be read exactly if a raw name stands there**, up to where it has to end. -/
theorem readRun_eq_ok_iff {s : Spot} {c next : Cursor} {n : Name} :
    readRun s.ends c = .ok (n, next) ↔
      ∃ r : Run s, n = r.name c.offset ∧ Stops s.ends next.rest ∧
        c.rest = r.spelling ++ next.rest ∧ next.offset = c.offset + byteLength r.spelling := by
  unfold readRun
  rw [bind_eq_ok_iff]
  constructor
  · rintro ⟨⟨raw, next'⟩, ht, h⟩
    obtain ⟨gs, rfl, hg, hr, hc, ho⟩ := takeRun_eq_ok_iff.1 ht
    obtain ⟨n', hn, h⟩ := bind_eq_ok_iff.1 h
    cases pure_eq_ok_iff.1 h
    obtain ⟨hnamed, rfl⟩ := read_spell_eq_ok_iff.1 hn
    exact ⟨⟨gs, hg, hnamed⟩, rfl, hr, hc, ho⟩
  · rintro ⟨r, rfl, hr, hc, ho⟩
    refine ⟨(r.spelling, next), takeRun_eq_ok_iff.2 ⟨r.glyphs, rfl, r.free, hr, hc, ho⟩, ?_⟩
    dsimp only
    rw [Run.spelling, read_spell_eq_ok_iff.2 ⟨r.named, rfl⟩]
    rfl

end Path
end BeanPath
