import Mathlib.Data.List.DropRight
import BeanPath.Proofs.Grammar

/-!
# Qualifiers with escaped characters

Every name of a path that can be read stands somewhere in it, as a raw name
(`Path.Expression.placed`).  Its qualifier is trimmed as it is written and unescaped after that.
White space in front has no part in this if it is escaped, because of the backslash; at the end the
white space of an escaped character is trimmed and its backslash stays behind, with nothing to
escape (`Path.unescape_trim_escaped`).  So the qualifier is what stands in front of the equals sign
without the white space around it that is not escaped, as long as this does not end in an escaped
white space (`Path.unescape_trim`), and in that case the last character of it is lost.
-/

namespace BeanPath

namespace Text

/-- Trimming takes the white space off around what starts and ends with something else. -/
theorem trim_between {lead cs tail : List Char} (hl : ∀ c ∈ lead, isBlank c = true)
    (ht : ∀ c ∈ tail, isBlank c = true) (hh : ∀ c ∈ cs.head?, isBlank c = false)
    (he : ∀ c ∈ cs.getLast?, isBlank c = false) : trim (lead ++ (cs ++ tail)) = cs := by
  have hleft {bs ds : List Char} (hb : ∀ c ∈ bs, isBlank c = true) :
      trimLeft (bs ++ ds) = trimLeft ds := List.dropWhile_append_of_pos hb
  cases cs with
  | nil => exact trim_eq_nil_iff.2 (List.forall_mem_append.2 ⟨hl, ht⟩)
  | cons c cs =>
    have htail : ∀ c ∈ tail.reverse, isBlank c = true := fun c hc => ht c (List.mem_reverse.1 hc)
    have hself := trim_of_ends hh he
    unfold trim at hself ⊢
    rw [trimLeft_of_head (hh c rfl)] at hself
    rw [hleft hl, List.cons_append, trimLeft_of_head (hh c rfl), ← List.cons_append,
      List.reverse_append, hleft htail, hself]

end Text

namespace Path

/-! ### Where names stand -/

/-- A name stands in a text as a raw name, up to where that has to end. -/
def Placed (text : List Char) (n : Name) : Prop :=
  ∃ (s : Spot) (r : Run s) (before after : List Char),
    text = before ++ (r.spelling ++ after) ∧ Stops s.ends after ∧ n = r.name (byteLength before)

section

variable {ν : Spot → Type} (W : Writing ν)

/-- A name that is written anywhere in a text stands there. -/
theorem placed_name {s : Spot} (a : ν s) (before : List Char) {after : List Char}
    (ha : Stops s.ends after) :
    Placed (before ++ (W.chars a ++ after)) (W.name (byteLength before) a) := by
  obtain ⟨r, hr, hn⟩ := W.exists_run a
  exact ⟨s, r, before, after, by rw [hr], ha, (hn _).symm⟩

mutual

/-- The names of an item in brackets stand in what it spells, those of its own groups included. -/
theorem Item.placed (i : Item (ν .item)) (before : List Char) {after : List Char}
    (ha : Stops endsItem after) :
    ∀ n ∈ i.names W (byteLength before), Placed (before ++ (i.spelling W ++ after)) n := by
  match i with
  | .mk a gs =>
    have hgs := gs.placed (before ++ W.chars a) after
    rw [byteLength_append, List.append_assoc] at hgs
    rw [Item.names, Item.spelling, List.append_assoc]
    refine List.forall_mem_cons.2 ⟨placed_name W a before (stops_groups W gs ha), fun n hn => ?_⟩
    obtain ⟨group, hg, hn⟩ := List.mem_flatten.1 hn
    exact hgs group hg n hn

/-- The names of nested groups stand in what these spell. -/
theorem Groups.placed (gs : Groups (ν .item)) (before after : List Char) :
    ∀ group ∈ gs.names W (byteLength before), ∀ n ∈ group,
      Placed (before ++ (gs.spelling W ++ after)) n := by
  match gs with
  | .nil => exact List.forall_mem_nil _
  | .cons is gs =>
    have hclose : Stops endsItem (']' :: (gs.spelling W ++ after)) := stops_of_mark (by decide) rfl
    have his := is.placed (before ++ ['[']) hclose
    have hgs := gs.placed (before ++ ['['] ++ is.spelling W ++ [']']) after
    simp only [byteLength_append, List.append_assoc, ← Nat.add_assoc] at his hgs
    rw [Groups.names, Groups.spelling_cons_append]
    exact List.forall_mem_cons.2 ⟨his, hgs⟩

/-- The names of items with commas between them stand in what these spell. -/
theorem Items.placed (is : Items (ν .item)) (before : List Char) {after : List Char}
    (ha : Stops endsItem after) :
    ∀ n ∈ is.names W (byteLength before), Placed (before ++ (is.spelling W ++ after)) n := by
  match is with
  | .last i => exact i.placed before ha
  | .cons i is =>
    have hcomma : Stops endsItem (',' :: (is.spelling W ++ after)) := stops_of_mark (by decide) rfl
    have hi := i.placed before hcomma
    have his := is.placed (before ++ i.spelling W ++ [',']) ha
    simp only [byteLength_append, List.append_assoc] at his
    rw [Items.names, Items.spelling, List.append_assoc, List.cons_append]
    exact List.forall_mem_append.2 ⟨hi, his⟩

end

/-- The name in front of the groups of a part stands there, with or without parentheses around
it. -/
theorem Base.placed (b : Base ν) (before : List Char) {after : List Char}
    (ha : ∀ c ∈ after.head?, c ∈ ['[', '.', ',']) :
    Placed (before ++ (b.spelling W ++ after)) (b.name W (byteLength before)) := by
  match b with
  | .plain a =>
    refine placed_name W a before fun c hc => ?_
    have h := ha c hc
    simp only [List.mem_cons, List.not_mem_nil, or_false] at h
    rcases h with rfl | rfl | rfl <;> decide
  | .enclosed a =>
    have hclose : Stops Spot.enclosed.ends (')' :: after) := stops_of_mark (by decide) rfl
    have h := placed_name W a (before ++ ['(']) hclose
    rw [byteLength_append, List.append_assoc] at h
    rw [Base.spelling, List.cons_append, List.append_assoc]
    exact h

/-- The names of a part stand in what it spells: its own name and those of its groups. -/
theorem Part.placed (p : Part ν) (before : List Char) {after : List Char}
    (ha : ∀ c ∈ after.head?, c ∈ ['.', ',']) (separator : Option Separator) :
    ∀ n ∈ (p.segment W (byteLength before) separator).steps,
      Placed (before ++ (p.spelling W ++ after)) n := by
  have hbase := p.base.placed W before (head?_groups_append W p.groups ha)
  have hgroups := p.groups.placed W (before ++ p.base.spelling W) after
  rw [byteLength_append, List.append_assoc] at hgroups
  rw [Part.spelling, List.append_assoc]
  refine List.forall_mem_cons.2 ⟨hbase, fun n hn => ?_⟩
  obtain ⟨group, hg, hn⟩ := List.mem_flatten.1 hn
  exact hgroups group hg n hn

/-- The names of an expression stand in what it spells. -/
theorem Expression.placed (e : Expression ν) (before : List Char) :
    ∀ n ∈ (e.segments W (byteLength before)).flatMap Segment.steps,
      Placed (before ++ e.spelling W) n := by
  induction e generalizing before with
  | last p =>
    have hend : ∀ c ∈ ([] : List Char).head?, c ∈ ['.', ','] := nofun
    have h := p.placed W before hend none
    rw [List.append_nil] at h
    rw [Expression.segments, List.flatMap_singleton]
    exact h
  | cons p s e ih =>
    have hs : ∀ c ∈ (s.char :: e.spelling W).head?, c ∈ ['.', ','] := by
      rintro c ⟨⟩
      cases s <;> decide
    have hone : byteLength [s.char] = 1 := by cases s <;> rfl
    have he := ih (before ++ (p.spelling W ++ [s.char]))
    simp only [byteLength_append, hone, List.append_assoc, ← Nat.add_assoc] at he
    rw [Expression.segments, Expression.spelling, List.flatMap_cons]
    exact List.forall_mem_append.2 ⟨p.placed W before hs (some s), he⟩

end

/-! ### Trimming and unescaping -/

/-- Whether there is a backslash in front. -/
def Glyph.isEscaped : Glyph → Bool
  | plain _ _ => false
  | escaped _ => true

/-- Glyphs without the white space at either end that is not escaped. -/
def bare (gs : List Glyph) : List Glyph :=
  (gs.dropWhile (·.plainly Text.isBlank)).rdropWhile (·.plainly Text.isBlank)

/-- Behind the last glyph but white space, an escaped white space. -/
def EndsInEscapedBlank (gs : List Glyph) : Prop :=
  ∃ front c, bare gs = front ++ [.escaped c] ∧ Text.isBlank c = true

variable {gs front : List Glyph} {c : Char}

/-- Around what is left without white space there is nothing but white space that is not escaped. -/
theorem exists_bare (gs : List Glyph) :
    ∃ lead tail, gs = lead ++ (bare gs ++ tail) ∧ (∀ g ∈ lead, g.plainly Text.isBlank = true) ∧
      ∀ g ∈ tail, g.plainly Text.isBlank = true := by
  refine ⟨gs.takeWhile (·.plainly Text.isBlank), (gs.dropWhile (·.plainly Text.isBlank)).rtakeWhile
    (·.plainly Text.isBlank), ?_, fun g => List.mem_takeWhile_imp, fun g => List.mem_rtakeWhile_imp⟩
  rw [bare, List.rdropWhile_append_rtakeWhile, List.takeWhile_append_dropWhile]

/-- What is left without white space does not start with white space, unless it is escaped. -/
theorem head?_bare (gs : List Glyph) :
    ∀ g ∈ (bare gs).head?, g.plainly Text.isBlank = false := by
  intro g hg
  have hne : bare gs ≠ [] := fun h => by rw [h] at hg; cases hg
  obtain ⟨tail, ht⟩ : bare gs <+: gs.dropWhile (·.plainly Text.isBlank) :=
    List.rdropWhile_prefix _ _
  have hhead := List.head?_dropWhile_not (·.plainly Text.isBlank) gs
  rw [← ht, List.head?_append, Option.mem_def.1 hg] at hhead
  exact hhead

/-- What is left without white space does not end with white space, unless it is escaped. -/
theorem getLast?_bare (gs : List Glyph) :
    ∀ g ∈ (bare gs).getLast?, g.plainly Text.isBlank = false := by
  intro g hg
  obtain ⟨hne, rfl⟩ := List.mem_getLast?_eq_getLast hg
  exact Bool.eq_false_iff.2 (List.rdropWhile_last_not _ _ hne)

/-- A backslash is no white space, so escaped glyphs start with none. -/
theorem head?_spell (h : ∀ g ∈ gs.head?, g.plainly Text.isBlank = false) :
    ∀ c ∈ (spell gs).head?, Text.isBlank c = false := by
  cases gs with
  | nil => exact nofun
  | cons g gs =>
    have hg := h g rfl
    cases g with
    | plain c hc => rintro _ ⟨⟩; exact hg
    | escaped c => rintro _ ⟨⟩; decide

/-- Glyphs whose last one stands for no white space do not end with it as they are written. -/
theorem getLast?_spell (h : ∀ g ∈ gs.getLast?, Text.isBlank g.char = false) :
    ∀ c ∈ (spell gs).getLast?, Text.isBlank c = false := by
  rcases List.eq_nil_or_concat' gs with rfl | ⟨front, g, rfl⟩
  · exact nofun
  · have hg := h g (by simp)
    rw [spell_append]
    cases g with
    | plain c hc => simpa [Glyph.spelling, Glyph.char] using hg
    | escaped c => simpa [Glyph.spelling, Glyph.char] using hg

/-- A backslash with nothing behind it means nothing. -/
theorem unescape_spell_dangling (gs : List Glyph) :
    Name.unescape (spell gs ++ ['\\']) = letters gs := by
  induction gs with
  | nil => rfl
  | cons g gs ih =>
    cases g with
    | plain c hc => exact (unescape_cons hc).trans (congrArg _ ih)
    | escaped c => exact congrArg _ ih

/-- Without an escaped white space at the end, trimming what is written takes off what trimming the
glyphs takes off. -/
theorem unescape_trim (h : ¬ EndsInEscapedBlank gs) :
    Name.unescape (Text.trim (spell gs)) = letters (bare gs) := by
  obtain ⟨lead, tail, hgs, hl, ht⟩ := exists_bare gs
  have hend : ∀ g ∈ (bare gs).getLast?, Text.isBlank g.char = false := by
    intro g hg
    have hplain := getLast?_bare gs g hg
    obtain ⟨front, hf⟩ := List.getLast?_eq_some_iff.1 hg
    cases g with
    | plain c hc => exact hplain
    | escaped c => exact Bool.eq_false_iff.2 fun hb => h ⟨front, c, hf, hb⟩
  have htrim := Text.trim_between (forall_blank_iff.2 hl) (forall_blank_iff.2 ht)
    (head?_spell (head?_bare gs)) (getLast?_spell hend)
  rw [← spell_append, ← spell_append, ← hgs] at htrim
  rw [htrim, unescape_spell]

/-- An escaped white space at the end is trimmed, and its backslash with it. -/
theorem unescape_trim_escaped (h : bare gs = front ++ [.escaped c]) (hc : Text.isBlank c = true) :
    Name.unescape (Text.trim (spell gs)) = letters front := by
  obtain ⟨lead, tail, hgs, hl, ht⟩ := exists_bare gs
  have hspell : spell gs = spell lead ++ ((spell front ++ ['\\']) ++ (c :: spell tail)) := by
    rw [hgs, h]
    simp [Glyph.spelling]
  have hblank : ∀ d ∈ c :: spell tail, Text.isBlank d = true :=
    List.forall_mem_cons.2 ⟨hc, forall_blank_iff.2 ht⟩
  have hhead : ∀ d ∈ (spell front ++ ['\\']).head?, Text.isBlank d = false := by
    have hb := head?_bare gs
    rw [h] at hb
    have hs := head?_spell hb
    rw [spell_append, List.head?_append] at hs
    rw [List.head?_append]
    exact hs
  have hlast : ∀ d ∈ (spell front ++ ['\\']).getLast?, Text.isBlank d = false := by
    simp
    decide
  rw [hspell, Text.trim_between (forall_blank_iff.2 hl) hblank hhead hlast,
    unescape_spell_dangling]

/-! ### Qualifiers -/

/-- What the qualifier is that a raw name gives.  Without an equals sign there is none.  With one it
is what stands in front of the first, unescaped and without the white space around it that is not
escaped; so it is not empty and all escaped characters are part of it.  If an escaped white space
stands at the end, it is that without the last character. -/
def Qualified (gs : List Glyph) (qualifier : Option String) : Prop :=
  match cut gs with
  | none => qualifier = none
  | some (q, _) =>
    ∃ text, qualifier = some (String.ofList text) ∧
      (¬ EndsInEscapedBlank q →
        text = letters (bare q) ∧ text ≠ [] ∧ (letters (q.filter Glyph.isEscaped)).Sublist text) ∧
      ∀ front c, bare q = front ++ [.escaped c] → Text.isBlank c = true → text = letters front

/-- Something is left without white space if there is a glyph that is none. -/
theorem bare_ne_nil (h : ∃ g ∈ gs, g.plainly Text.isBlank = false) : bare gs ≠ [] := by
  intro hnil
  obtain ⟨lead, tail, hgs, hl, ht⟩ := exists_bare gs
  obtain ⟨g, hg, hb⟩ := h
  rw [hgs, hnil, List.nil_append] at hg
  rcases List.mem_append.1 hg with hg | hg
  · rw [hl g hg] at hb
    cases hb
  · rw [ht g hg] at hb
    cases hb

/-- What is escaped is not among the white space around. -/
theorem filter_isEscaped_sublist (gs : List Glyph) :
    (gs.filter Glyph.isEscaped).Sublist (bare gs) := by
  have hnone {blank : List Glyph} (hb : ∀ g ∈ blank, g.plainly Text.isBlank = true) :
      blank.filter Glyph.isEscaped = [] := by
    refine List.filter_eq_nil_iff.2 fun g hg he => ?_
    have hblank := hb g hg
    cases g with
    | plain c hc => cases he
    | escaped c => cases hblank
  obtain ⟨lead, tail, hgs, hl, ht⟩ := exists_bare gs
  conv => lhs; rw [hgs]
  rw [List.filter_append, List.filter_append, hnone hl, hnone ht, List.nil_append, List.append_nil]
  exact List.filter_sublist

/-- The qualifier of the name that a raw name gives is what is written in front of its equals
sign. -/
theorem Run.qualified {s : Spot} (r : Run s) (offset : Nat) :
    Qualified r.glyphs (r.name offset).qualifier := by
  have hnamed := named_iff.1 r.named
  unfold Qualified Run.name nameOf
  cases hc : cut r.glyphs with
  | none => rfl
  | some p =>
    obtain ⟨q, t⟩ := p
    refine ⟨Name.unescape (Text.trim (spell q)), rfl, fun he => ?_, fun front c => ?_⟩
    · have hne := bare_ne_nil (hnamed q t hc)
      rw [unescape_trim he]
      exact ⟨rfl, mt List.map_eq_nil_iff.1 hne, (filter_isEscaped_sublist q).map Glyph.char⟩
    · exact unescape_trim_escaped

/-- **Qualifiers keep what is escaped**, but for an escaped white space at their end. -/
theorem qualifiers_keep_what_is_escaped {path : String} {names : List Name}
    (h : steps path = .ok names) :
    ∀ n ∈ names, ∃ (s : Spot) (r : Run s) (before after : List Char),
      path.toList = before ++ (r.spelling ++ after) ∧ Stops s.ends after ∧
        n = r.name (byteLength before) ∧ Qualified r.glyphs n.qualifier := by
  obtain ⟨e, he, rfl⟩ := exists_expression_of_steps h
  intro n hn
  obtain ⟨s, r, before, after, hpath, hstops, rfl⟩ := e.placed Run.writing [] n hn
  exact ⟨s, r, before, after, by rw [← he]; exact hpath, hstops, rfl, r.qualified _⟩

/-- Qualifiers in parentheses and in brackets, with escaped white space inside and in front and with
an equals sign that is escaped. -/
theorem qualifiers_keep_what_is_escaped_everywhere :
    ∃ names, steps "( a\\ b =x)[\\ c\\==y]" = .ok names ∧
      names.map Name.qualifier = [some "a b", some " c="] ∧
      ∀ n ∈ names, ∃ (s : Spot) (r : Run s) (before after : List Char),
        "( a\\ b =x)[\\ c\\==y]".toList = before ++ (r.spelling ++ after) ∧ Stops s.ends after ∧
          n = r.name (byteLength before) ∧ Qualified r.glyphs n.qualifier := by
  have hsteps : steps "( a\\ b =x)[\\ c\\==y]" =
      .ok [⟨"x", some "a b", false, 1⟩, ⟨"y", some " c=", false, 11⟩] := by decide +kernel
  exact ⟨_, hsteps, rfl, qualifiers_keep_what_is_escaped hsteps⟩

/-- An escaped white space is lost at the end of a qualifier, and the qualifier may be empty
then. -/
theorem escaped_blank_leaves_an_empty_qualifier :
    steps "\\ =x" = .ok [⟨"x", some "", false, 0⟩] ∧
      steps "a\\ =x" = .ok [⟨"x", some "a", false, 0⟩] := by
  decide +kernel

end Path
end BeanPath
