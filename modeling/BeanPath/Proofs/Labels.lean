import BeanPath.Proofs.Grammar

/-!
# Spelling names

A label is what a name says: any text or the wildcard, and perhaps a qualifier.  It is spelled with
a backslash in front of every character that means something in a path and in front of a text that
would be the wildcard otherwise, so what is spelled is a run of glyphs in which only the equals sign
behind the qualifier is plain among those characters (`Path.Label.glyphs`).  That run ends nowhere
early, is cut at the right place and is unescaped to the label, so parsing undoes spelling, wherever
the label stands (`Path.spelled_segments`).
-/

namespace BeanPath
namespace Path

/-- The characters that mean something in a path. -/
def specials : List Char := ['\\', '.', ',', '(', ')', '[', ']', '=']

/-- Text with a backslash in front of every character that means something. -/
def escape (text : String) : List Char :=
  text.toList.flatMap fun c => if c ∈ specials then ['\\', c] else [c]

/-! ### Labels -/

/-- The name of a type, with no white space around it. -/
structure Qualifier where
  text : String
  ne_empty : text ≠ ""
  head : ∀ c ∈ text.toList.head?, Text.isBlank c = false
  last : ∀ c ∈ text.toList.getLast?, Text.isBlank c = false

/-- The wildcard or a text. -/
inductive Word where
  | star
  | text (s : String)
  deriving DecidableEq, Repr

namespace Word

/-- The text of a word. -/
def string : Word → String
  | star => "*"
  | text s => s

/-- The characters of a word in a path: a text that looks like the wildcard has a backslash. -/
def chars : Word → List Char
  | star => ['*']
  | text s => if s = "*" then ['\\', '*'] else escape s

end Word

/-- A word that may be qualified. -/
structure Label where
  qualifier : Option Qualifier
  word : Word

namespace Label

/-- The characters of a label in a path. -/
def chars (l : Label) : List Char :=
  match l.qualifier with
  | none => l.word.chars
  | some q => escape q.text ++ '=' :: l.word.chars

/-- The name that a label is at a byte position. -/
def name (offset : Nat) (l : Label) : Name :=
  ⟨l.word.string, l.qualifier.map Qualifier.text, l.word == .star, offset⟩

end Label

/-! ### The glyphs of a label -/

/-- A character that is escaped if it means something. -/
def Glyph.of (c : Char) : Glyph :=
  if h : c ∈ specials then .escaped c else .plain c (by rintro rfl; exact h (by decide))

/-- Escaping leaves the character. -/
theorem Glyph.char_of (c : Char) : (Glyph.of c).char = c := by
  unfold Glyph.of
  split <;> rfl

/-- A character is spelled with a backslash just if it means something. -/
theorem Glyph.spelling_of (c : Char) :
    (Glyph.of c).spelling = if c ∈ specials then ['\\', c] else [c] := by
  unfold Glyph.of
  split <;> rfl

/-- No character that means something is left plain. -/
theorem Glyph.plainly_of {p : Char → Bool} (hp : ∀ c, p c = true → c ∈ specials) (c : Char) :
    (Glyph.of c).plainly p = false := by
  unfold Glyph.of
  split
  · rfl
  · next h => exact Bool.eq_false_iff.2 fun hc => h (hp c hc)

/-- The glyphs of an escaped text. -/
def glyphs (s : String) : List Glyph := s.toList.map Glyph.of

/-- The glyphs of a text spell the escaped text. -/
theorem spell_glyphs (s : String) : spell (glyphs s) = escape s := by
  unfold spell glyphs escape
  rw [List.flatMap_map]
  exact congrArg (List.flatMap · _) (funext Glyph.spelling_of)

/-- The glyphs of a text stand for the text. -/
theorem letters_glyphs (s : String) : letters (glyphs s) = s.toList := by
  unfold letters glyphs
  rw [List.map_map]
  exact (List.map_congr_left fun c _ => Glyph.char_of c).trans (List.map_id _)

/-- Among the glyphs of a text, none that means something is plain. -/
theorem plainly_glyphs {p : Char → Bool} (hp : ∀ c, p c = true → c ∈ specials) (s : String) :
    ∀ g ∈ glyphs s, g.plainly p = false := by
  intro g hg
  obtain ⟨c, -, rfl⟩ := List.mem_map.1 hg
  exact Glyph.plainly_of hp c

/-- There is no white space around an escaped qualifier either. -/
theorem Qualifier.trim_escape (q : Qualifier) : Text.trim (escape q.text) = escape q.text := by
  obtain ⟨text, -, hh, hl⟩ := q
  unfold escape
  apply Text.trim_of_ends
  · cases hc : text.toList with
    | nil => nofun
    | cons c cs =>
      rw [List.flatMap_cons]
      split
      · rintro _ ⟨⟩
        decide
      · rintro _ ⟨⟩
        exact hh c (by rw [hc]; rfl)
  · rcases List.eq_nil_or_concat text.toList with hc | ⟨cs, c, hc⟩
    · rw [hc]
      nofun
    · have hb := hl c (by simp [hc])
      rw [hc, List.concat_eq_append, List.flatMap_append, List.flatMap_singleton]
      split <;> simpa using hb

/-- Every character that ends a name somewhere is one that is escaped. -/
theorem special_of_ends {s : Spot} (c : Char) (h : s.ends c = true) : c ∈ specials := by
  cases s with
  | base =>
    have hs : ['.', ',', '(', ')', '[', ']'] ⊆ specials := by decide
    exact hs (List.contains_iff_mem.1 h)
  | enclosed =>
    rw [beq_iff_eq.1 h]
    decide
  | item =>
    have hs : [',', '[', ']'] ⊆ specials := by decide
    exact hs (List.contains_iff_mem.1 h)

/-- The equals sign is one of the characters that are escaped. -/
theorem special_of_equals (c : Char) (h : (c == '=') = true) : c ∈ specials := by
  rw [beq_iff_eq.1 h]
  decide

namespace Word

/-- The glyphs of a word. -/
def glyphs : Word → List Glyph
  | star => [.plain '*' (by decide)]
  | text s => if s = "*" then [.escaped '*'] else Path.glyphs s

/-- The glyphs of a word spell the word. -/
theorem spell_glyphs (w : Word) : spell w.glyphs = w.chars := by
  cases w with
  | star => rfl
  | text s =>
    rw [glyphs, chars]
    split
    · rfl
    · exact Path.spell_glyphs s

/-- The glyphs of a word stand for its text. -/
theorem letters_glyphs (w : Word) : letters w.glyphs = w.string.toList := by
  cases w with
  | star => rfl
  | text s =>
    rw [glyphs]
    split
    · next h => rw [h]; rfl
    · exact Path.letters_glyphs s

/-- Among the glyphs of a word, none that means something is plain; the star of the wildcard ends
nothing. -/
theorem plainly_glyphs {p : Char → Bool} (hp : ∀ c, p c = true → c ∈ specials) (w : Word) :
    ∀ g ∈ w.glyphs, g.plainly p = false := by
  cases w with
  | star =>
    refine List.forall_mem_singleton.2 (Bool.eq_false_iff.2 fun h => ?_)
    exact absurd (hp _ h) (by decide)
  | text s =>
    rw [glyphs]
    split
    · exact List.forall_mem_singleton.2 rfl
    · exact Path.plainly_glyphs hp s

/-- Only the wildcard is spelled like the wildcard. -/
theorem spell_glyphs_eq_star (w : Word) : (spell w.glyphs == ['*']) = (w == .star) := by
  cases w with
  | star => rfl
  | text s =>
    rw [show (text s == star) = false from rfl, beq_eq_false_iff_ne]
    intro h
    -- Taking the backslashes out shows the text, and a text that is a star is spelled with one.
    have hs : s.toList = ['*'] := by
      rw [show s = (text s).string from rfl, ← letters_glyphs, ← unescape_spell, h]
      rfl
    have hstar : s = "*" := String.toList_inj.1 hs
    rw [spell_glyphs, chars, if_pos hstar] at h
    cases h

end Word

namespace Label

/-- The glyphs of a label. -/
def glyphs (l : Label) : List Glyph :=
  match l.qualifier with
  | none => l.word.glyphs
  | some q => Path.glyphs q.text ++ Glyph.equals :: l.word.glyphs

/-- The glyphs of a label spell the label, with a plain equals sign behind the qualifier. -/
theorem spell_glyphs (l : Label) : spell l.glyphs = l.chars := by
  obtain ⟨_ | q, w⟩ := l
  · exact w.spell_glyphs
  · show spell (Path.glyphs q.text ++ Glyph.equals :: w.glyphs) = _
    rw [spell_append, spell_cons, Path.spell_glyphs, w.spell_glyphs]
    rfl

/-- No glyph of a label ends it early, wherever it stands. -/
theorem free_glyphs (l : Label) (s : Spot) : ∀ g ∈ l.glyphs, g.plainly s.ends = false := by
  obtain ⟨_ | q, w⟩ := l
  · exact w.plainly_glyphs special_of_ends
  · refine List.forall_mem_append.2 ⟨Path.plainly_glyphs special_of_ends _, ?_⟩
    exact List.forall_mem_cons.2 ⟨by cases s <;> decide, w.plainly_glyphs special_of_ends⟩

/-- A label is cut between its qualifier and its word, and not at all without a qualifier. -/
theorem cut_glyphs (l : Label) :
    cut l.glyphs = l.qualifier.map fun q => (Path.glyphs q.text, l.word.glyphs) := by
  obtain ⟨_ | q, w⟩ := l
  · exact cut_of_plainly (w.plainly_glyphs special_of_equals)
  · exact cut_append (Path.plainly_glyphs special_of_equals _)

/-- The qualifier of a label is not blank, also where it is escaped. -/
theorem named_glyphs (l : Label) : Named l.glyphs := by
  rw [named_iff, cut_glyphs]
  rintro q t hq
  obtain ⟨⟨text, hne, hh, _⟩, -, h⟩ := Option.map_eq_some_iff.1 hq
  obtain ⟨rfl, rfl⟩ := Prod.mk.inj h
  obtain ⟨c, cs, hc⟩ := List.exists_cons_of_ne_nil (mt String.toList_eq_nil_iff.1 hne)
  refine ⟨Glyph.of c, List.mem_map_of_mem (by simp [hc]), ?_⟩
  have hb := hh c (by simp [hc])
  unfold Glyph.of
  split
  · rfl
  · exact hb

/-- The glyphs of a label make the name of the label. -/
theorem nameOf_glyphs (l : Label) (offset : Nat) : nameOf offset l.glyphs = l.name offset := by
  unfold nameOf
  rw [cut_glyphs]
  obtain ⟨_ | q, w⟩ := l
  · show (⟨String.ofList (letters w.glyphs), none, spell w.glyphs == ['*'], offset⟩ : Name) = _
    rw [w.letters_glyphs, w.spell_glyphs_eq_star, String.ofList_toList]
    rfl
  · dsimp only [Option.map_some]
    rw [w.letters_glyphs, w.spell_glyphs_eq_star, String.ofList_toList, Path.spell_glyphs,
      q.trim_escape, ← Path.spell_glyphs, unescape_spell, Path.letters_glyphs,
      String.ofList_toList]
    rfl

/-- A label is written as a raw name. -/
def run (s : Spot) (l : Label) : Run s := ⟨l.glyphs, l.free_glyphs s, l.named_glyphs⟩

/-- Labels are written with backslashes. -/
def writing : Writing fun _ => Label :=
  ⟨chars, name, fun {s} l => ⟨l.run s, l.spell_glyphs, fun offset => l.nameOf_glyphs offset⟩⟩

end Label

/-- A text in which no character means anything is escaped as itself. -/
theorem escape_of_plain {text : String} (h : ∀ c ∈ text.toList, c ∉ specials) :
    escape text = text.toList := by
  unfold escape
  generalize text.toList = cs at h
  induction cs with
  | nil => rfl
  | cons c cs ih =>
    obtain ⟨hc, h⟩ := List.forall_mem_cons.1 h
    rw [List.flatMap_cons, if_neg hc, ih h]
    rfl

/-- A text in which no character means anything is the path of one segment. -/
theorem segments_of_plain {text : String} (h : ∀ c ∈ text.toList, c ∉ specials)
    (hs : text ≠ "*") : segments text = [.ok ⟨⟨text, none, false, 0⟩, [], none⟩] := by
  let e : Expression fun _ => Label := .last ⟨.plain ⟨none, .text text⟩, .nil⟩
  have hspelling : e.spelling Label.writing = text.toList := by
    show (if text = "*" then ['\\', '*'] else escape text) ++ [] = text.toList
    rw [if_neg hs, escape_of_plain h, List.append_nil]
  have hseg := e.segments_spelling Label.writing
  rwa [hspelling, String.ofList_toList] at hseg

/-- **Parsing undoes spelling**: of whatever labels an expression is made, what it spells is read as
its segments, with the texts, qualifiers and wildcards of the labels. -/
theorem spelled_segments (e : Expression fun _ => Label) :
    segments (String.ofList (e.spelling Label.writing)) = (e.segments Label.writing 0).map .ok :=
  e.segments_spelling Label.writing

-- A text with a dot, a group of the wildcard, and a text that looks like the wildcard.
example :
    (Expression.cons ⟨.plain ⟨none, .text "a.b"⟩, .cons (.last (.mk ⟨none, .star⟩ .nil)) .nil⟩ .dot
      (.last ⟨.plain ⟨none, .text "*"⟩, .nil⟩) : Expression fun _ => Label).spelling Label.writing =
        "a\\.b[*].\\*".toList := by
  decide

end Path
end BeanPath
