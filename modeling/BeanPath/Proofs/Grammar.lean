import BeanPath.Proofs.Runs

/-!
# The grammar of paths, and what is read

The grammar as data: an expression is a tree of parts, groups and items with names at the leaves.
The names may be raw, or anything that is written as a raw name (`Path.Writing`); the characters of
a tree and the names in it are functions of the tree.

Reading what a tree spells gives the names of the tree.  The reader of items has no stack of groups,
only the positions of the open brackets, so the lemma about items is about the reading up to the
character behind them, with the open brackets as they were (`Path.Items.readItems_spelling`).  In
turn a tree is found behind everything that can be read, by induction on the number of characters:
when a nested group has been found, what it spells is known to be read, and the reading goes on
behind it (`Path.exists_items`, `Path.exists_groups`).  So the paths that are accepted are those of
the grammar, and what is read are their names (`Path.steps_eq_ok_iff`).
-/

namespace BeanPath
namespace Path

/-! ### Trees of the grammar -/

mutual

/-- A name and the groups nested behind it. -/
inductive Item (ν : Type) where
  | mk (name : ν) (groups : Groups ν)

/-- Bracket groups in a row. -/
inductive Groups (ν : Type) where
  | nil
  | cons (group : Items ν) (groups : Groups ν)

/-- The items of a group, at least one. -/
inductive Items (ν : Type) where
  | last (item : Item ν)
  | cons (item : Item ν) (items : Items ν)

end

/-- A base name, in parentheses or not. -/
inductive Base (ν : Spot → Type) where
  | plain (name : ν .base)
  | enclosed (name : ν .enclosed)

/-- A base name and its bracket groups. -/
structure Part (ν : Spot → Type) where
  base : Base ν
  groups : Groups (ν .item)

/-- Parts with a separator between any two. -/
inductive Expression (ν : Spot → Type) where
  | last (part : Part ν)
  | cons (part : Part ν) (separator : Separator) (rest : Expression ν)

/-- A way of writing names: the characters of a name and what is read at a byte position where they
stand.  What is written is a raw name. -/
structure Writing (ν : Spot → Type) where
  chars : {s : Spot} → ν s → List Char
  name : {s : Spot} → Nat → ν s → Name
  exists_run : ∀ {s : Spot} (a : ν s),
    ∃ r : Run s, r.spelling = chars a ∧ ∀ offset, r.name offset = name offset a

/-- Raw names are written as they are. -/
def Run.writing : Writing Run := ⟨Run.spelling, Run.name, fun r => ⟨r, rfl, fun _ => rfl⟩⟩

variable {ν : Spot → Type} (W : Writing ν)

/-! ### Characters of a tree -/

mutual

/-- The characters of an item. -/
def Item.spelling : Item (ν .item) → List Char
  | .mk a gs => W.chars a ++ gs.spelling

/-- The characters of groups, in brackets each. -/
def Groups.spelling : Groups (ν .item) → List Char
  | .nil => []
  | .cons is gs => '[' :: (is.spelling ++ ']' :: gs.spelling)

/-- The characters of items, with commas between them. -/
def Items.spelling : Items (ν .item) → List Char
  | .last i => i.spelling
  | .cons i is => i.spelling ++ ',' :: is.spelling

end

/-- The characters of a base. -/
def Base.spelling : Base ν → List Char
  | .plain a => W.chars a
  | .enclosed a => '(' :: (W.chars a ++ [')'])

/-- The characters of a part. -/
def Part.spelling (p : Part ν) : List Char := p.base.spelling W ++ p.groups.spelling W

/-- The characters of an expression. -/
def Expression.spelling : Expression ν → List Char
  | .last p => p.spelling W
  | .cons p s e => p.spelling W ++ s.char :: e.spelling

/-! ### Names of a tree -/

mutual

/-- The names of an item at a byte position, those of nested groups behind it. -/
def Item.names (offset : Nat) : Item (ν .item) → List Name
  | .mk a gs => W.name offset a :: (gs.names (offset + byteLength (W.chars a))).flatten

/-- The names of each of the groups at a byte position. -/
def Groups.names (offset : Nat) : Groups (ν .item) → List (List Name)
  | .nil => []
  | .cons is gs =>
    is.names (offset + 1) :: gs.names (offset + 1 + byteLength (is.spelling W) + 1)

/-- The names of items at a byte position. -/
def Items.names (offset : Nat) : Items (ν .item) → List Name
  | .last i => i.names offset
  | .cons i is => i.names offset ++ is.names (offset + byteLength (i.spelling W) + 1)

end

/-- The name of a base at a byte position. -/
def Base.name (offset : Nat) : Base ν → Name
  | .plain a => W.name offset a
  | .enclosed a => W.name (offset + 1) a

/-- The segment that a part is at a byte position. -/
def Part.segment (offset : Nat) (p : Part ν) (separator : Option Separator) : Segment :=
  ⟨p.base.name W offset, p.groups.names W (offset + byteLength (p.base.spelling W)), separator⟩

/-- The segments of an expression at a byte position. -/
def Expression.segments (offset : Nat) : Expression ν → List Segment
  | .last p => [p.segment W offset none]
  | .cons p s e =>
    p.segment W offset (some s) ::
      e.segments (offset + byteLength (p.spelling W) + 1)

/-- The names of an expression in the order of the text: of every part the base and the names of its
groups. -/
def Expression.names (e : Expression ν) : List Name := (e.segments W 0).flatMap Segment.steps

/-! ### Reading what names write -/

/-- The characters that the grammar is made of. -/
def marks : List Char := ['.', ',', '(', ')', '[', ']']

/-- A backslash is none of the characters of the grammar; it only escapes them. -/
theorem ne_backslash_of_mark {c : Char} (hc : c ∈ marks) : c ≠ '\\' := by
  rintro rfl
  exact absurd hc (by decide)

/-- A character of the grammar that ends runs of a kind also stops one, since nothing can be escaped
by it. -/
theorem stops_of_mark {ends : Char → Bool} {c : Char} {cs : List Char} (hc : c ∈ marks)
    (he : ends c = true) : Stops ends (c :: cs) :=
  stops_cons.2 ⟨he, ne_backslash_of_mark hc⟩

/-- In front of a place where runs stop, what a name writes is read as the name, up to that
place. -/
theorem readRun_chars {s : Spot} (a : ν s) (offset : Nat) {rest : List Char}
    (hr : Stops s.ends rest) :
    readRun s.ends ⟨offset, W.chars a ++ rest⟩ =
      .ok (W.name offset a, ⟨offset + byteLength (W.chars a), rest⟩) := by
  obtain ⟨r, hs, hn⟩ := W.exists_run a
  rw [← hs, ← hn]
  exact readRun_eq_ok_iff.2 ⟨r, rfl, hr, rfl, rfl⟩

/-! ### Reading bracket groups -/

/-- Reading on after an item. -/
def resume (inner : Nat) (outer : List Nat) (offset : Nat) (cs : List Char) :
    Except Mistake (List Name × Cursor) :=
  match afterItem inner outer offset cs with
  | .close last => .ok ([], last)
  | .item i o following => readItems i o following
  | .unclosed position => .error ⟨position, .unclosedBracket⟩

/-- Names in front of those that are read. -/
def ahead (names : List Name) (x : Except Mistake (List Name × Cursor)) :
    Except Mistake (List Name × Cursor) :=
  x.map fun (more, last) => (names ++ more, last)

theorem ahead_nil (x : Except Mistake (List Name × Cursor)) : ahead [] x = x := by
  cases x <;> rfl

/-- Names that are put in front twice are put in front together. -/
theorem ahead_ahead (ns ms : List Name) (x : Except Mistake (List Name × Cursor)) :
    ahead ns (ahead ms x) = ahead (ns ++ ms) x := by
  cases x <;> simp [ahead, Except.map]

variable {inner : Nat} {outer : List Nat} {offset : Nat} {cs tail : List Char}

/-- A bracket that opens behind an item is remembered as the innermost one. -/
theorem resume_open :
    resume inner outer offset ('[' :: cs) =
      readItems offset (inner :: outer) ⟨offset + 1, cs⟩ := by
  rw [resume, afterItem]

/-- Behind a comma comes another item of the same group. -/
theorem resume_comma :
    resume inner outer offset (',' :: cs) = readItems inner outer ⟨offset + 1, cs⟩ := by
  rw [resume, afterItem]

/-- The bracket that closes a nested group leaves the group around it open, and the reading goes on
as if behind the item that the group belongs to. -/
theorem resume_close {o : Nat} :
    resume inner (o :: outer) offset (']' :: cs) = resume o outer (offset + 1) cs := rfl

/-- The bracket that closes the outermost group ends the reading. -/
theorem resume_last : resume inner [] offset (']' :: cs) = .ok ([], ⟨offset + 1, cs⟩) := rfl

/-- Reading items is reading one name and then reading on behind it. -/
theorem readItems_of_readRun {c next : Cursor} {n : Name} (h : readRun endsItem c = .ok (n, next)) :
    readItems inner outer c = ahead [n] (resume inner outer next.offset next.rest) := by
  rw [readItems, resume]
  split
  · next h' => rw [h] at h'; cases h'
  · next h' =>
    rw [h] at h'
    cases h'
    split
    · next ha => rw [ha]; rfl
    · next ha =>
      rw [ha]
      dsimp only
      split <;> next hr => rw [hr]; rfl
    · next ha => rw [ha]; rfl

/-- What the first of some groups spells stands in brackets in front of all that comes behind. -/
theorem Groups.spelling_cons_append (is : Items (ν .item)) (gs : Groups (ν .item))
    (tail : List Char) :
    (Groups.cons is gs).spelling W ++ tail =
      '[' :: (is.spelling W ++ ']' :: (gs.spelling W ++ tail)) := by
  rw [Groups.spelling, List.cons_append, List.append_assoc, List.cons_append]

/-- An item ends at the groups behind it, or, if there are none, at whatever it would end at without
them. -/
theorem stops_groups (gs : Groups (ν .item)) (ht : Stops endsItem tail) :
    Stops endsItem (gs.spelling W ++ tail) := by
  cases gs with
  | nil => rwa [Groups.spelling, List.nil_append]
  | cons is gs => exact stops_of_mark (by decide) rfl

mutual

/-- Reading what an item spells gives its names, and then the reading goes on behind it. -/
theorem Item.readItems_spelling (i : Item (ν .item)) (inner : Nat) (outer : List Nat)
    (offset : Nat) {tail : List Char} (ht : Stops endsItem tail) :
    readItems inner outer ⟨offset, i.spelling W ++ tail⟩ =
      ahead (i.names W offset)
        (resume inner outer (offset + byteLength (i.spelling W)) tail) := by
  match i with
  | .mk a gs =>
    have hr := readRun_chars W a offset (stops_groups W gs ht)
    rw [Item.spelling, List.append_assoc, readItems_of_readRun hr, gs.resume_spelling, ahead_ahead,
      Item.names, byteLength_append, Nat.add_assoc]
    rfl

/-- Reading on through what groups spell gives the names in them and leaves the same brackets open
as before. -/
theorem Groups.resume_spelling (gs : Groups (ν .item)) (inner : Nat) (outer : List Nat)
    (offset : Nat) (tail : List Char) :
    resume inner outer offset (gs.spelling W ++ tail) =
      ahead (gs.names W offset).flatten
        (resume inner outer (offset + byteLength (gs.spelling W)) tail) := by
  match gs with
  | .nil => exact (ahead_nil _).symm
  | .cons is gs =>
    have ht : Stops endsItem (']' :: (gs.spelling W ++ tail)) := stops_of_mark (by decide) rfl
    rw [Groups.spelling_cons_append, Groups.names, resume_open, is.readItems_spelling _ _ _ ht,
      resume_close, gs.resume_spelling, ahead_ahead, List.flatten_cons]
    congr 2
    simp only [Groups.spelling, byteLength_cons, byteLength_append, Nat.add_assoc]
    rfl

/-- Reading what items spell gives their names, and then the reading goes on behind the last of
them. -/
theorem Items.readItems_spelling (is : Items (ν .item)) (inner : Nat) (outer : List Nat)
    (offset : Nat) {tail : List Char} (ht : Stops endsItem tail) :
    readItems inner outer ⟨offset, is.spelling W ++ tail⟩ =
      ahead (is.names W offset)
        (resume inner outer (offset + byteLength (is.spelling W)) tail) := by
  match is with
  | .last i => exact i.readItems_spelling inner outer offset ht
  | .cons i is =>
    have hc : Stops endsItem (',' :: (is.spelling W ++ tail)) := stops_of_mark (by decide) rfl
    rw [Items.spelling, Items.names, List.append_assoc, List.cons_append,
      i.readItems_spelling _ _ _ hc, resume_comma, is.readItems_spelling _ _ _ ht, ahead_ahead]
    congr 2
    simp only [byteLength_cons, byteLength_append, Nat.add_assoc]
    rfl

end

/-- A group is read up to its closing bracket, with the names of its items and of all groups nested
in them. -/
theorem readItems_group (is : Items (ν .item)) (inner offset : Nat) (tail : List Char) :
    readItems inner [] ⟨offset, is.spelling W ++ ']' :: tail⟩ =
      .ok (is.names W offset, ⟨offset + byteLength (is.spelling W) + 1, tail⟩) := by
  rw [is.readItems_spelling W _ _ _ (stops_of_mark (by decide) rfl), resume_last]
  simp [ahead, Except.map]

/-- An opening bracket makes a group, and other groups may follow. -/
theorem readGroups_open {offset : Nat} {cs : List Char} :
    readGroups ⟨offset, '[' :: cs⟩ =
      (readItems offset [] ⟨offset + 1, cs⟩).bind fun (group, next) =>
        (readGroups next).map fun (groups, last) => (group :: groups, last) := by
  rw [readGroups]
  split
  · next cs' hc =>
    cases hc
    split
    · next h => rw [h]; rfl
    · next h =>
      rw [h]
      dsimp only [Except.bind]
      split <;> next hg => rw [hg]; rfl
  · next h => exact (h cs rfl).elim

/-- Without an opening bracket there are no groups, and the cursor stays. -/
theorem readGroups_none {c : Cursor} (h : c.rest.head? ≠ some '[') :
    readGroups c = .ok ([], c) := by
  rw [readGroups]
  split
  · next cs hc => rw [hc] at h; exact (h rfl).elim
  · rfl

/-- Groups in a row are read one after the other if no further bracket opens behind the last. -/
theorem Groups.readGroups_spelling (gs : Groups (ν .item)) (offset : Nat) {tail : List Char}
    (ht : tail.head? ≠ some '[') :
    readGroups ⟨offset, gs.spelling W ++ tail⟩ =
      .ok (gs.names W offset, ⟨offset + byteLength (gs.spelling W), tail⟩) := by
  match gs with
  | .nil => exact readGroups_none ht
  | .cons is gs =>
    rw [Groups.spelling_cons_append, Groups.names, readGroups_open, readItems_group]
    dsimp only [Except.bind]
    rw [gs.readGroups_spelling _ ht]
    simp only [Groups.spelling, Except.map, byteLength_cons, byteLength_append, Nat.add_assoc]
    rfl

/-! ### Reading bases and separators -/

/-- A base in parentheses is a run that ends at the closing one, which is taken off too. -/
theorem readBase_enclosed_iff {offset : Nat} {cs : List Char} {n : Name} {next : Cursor} :
    readBase ⟨offset, '(' :: cs⟩ = .ok (n, next) ↔
      ∃ o, readRun Spot.enclosed.ends ⟨offset + 1, cs⟩ = .ok (n, ⟨o, ')' :: next.rest⟩) ∧
        next.offset = o + 1 := by
  constructor
  · intro h
    obtain ⟨⟨raw, o, rest⟩, ht, h⟩ := bind_eq_ok_iff.1 h
    dsimp only at h
    split at h
    · obtain ⟨m, hm, h⟩ := bind_eq_ok_iff.1 h
      cases pure_eq_ok_iff.1 h
      exact ⟨o, bind_eq_ok_iff.2 ⟨_, ht, bind_eq_ok_iff.2 ⟨_, hm, rfl⟩⟩, rfl⟩
    · cases h
  · rintro ⟨o, hr, ho⟩
    obtain ⟨⟨raw, next'⟩, ht, h⟩ := bind_eq_ok_iff.1 hr
    obtain ⟨m, hm, h⟩ := bind_eq_ok_iff.1 h
    cases pure_eq_ok_iff.1 h
    exact bind_eq_ok_iff.2 ⟨_, ht, bind_eq_ok_iff.2 ⟨_, hm, by rw [← ho]; rfl⟩⟩

/-- A base without parentheses is a run. -/
theorem readBase_plain {c : Cursor} (h : c.rest.head? ≠ some '(') :
    readBase c = readRun Spot.base.ends c := by
  unfold readBase
  split
  · next cs hc => rw [hc] at h; exact (h rfl).elim
  · rfl

/-- Behind a segment there is nothing, or a separator, or the path is malformed. -/
theorem readSeparator_eq_ok_iff {c : Cursor} {r : Option (Separator × Cursor)} :
    readSeparator c = .ok r ↔
      (c.rest = [] ∧ r = none) ∨
        ∃ s cs, c.rest = s.char :: cs ∧ r = some (s, ⟨c.offset + 1, cs⟩) := by
  constructor
  · intro h
    unfold readSeparator at h
    split at h <;> cases h
    · next hc => exact .inl ⟨hc, rfl⟩
    · next cs hc => exact .inr ⟨.dot, cs, hc, rfl⟩
    · next cs hc => exact .inr ⟨.comma, cs, hc, rfl⟩
  · rintro (⟨hc, rfl⟩ | ⟨s, cs, hc, rfl⟩) <;> unfold readSeparator <;> rw [hc]
    cases s <;> rfl

/-- A base name never starts with a parenthesis, as that would be read as one; escaped, it starts
with a backslash. -/
theorem head?_chars_append (a : ν .base) {rest : List Char} (hr : rest.head? ≠ some '(') :
    (W.chars a ++ rest).head? ≠ some '(' := by
  obtain ⟨r, hs, -⟩ := W.exists_run a
  rw [← hs, Run.spelling]
  intro h
  cases hg : r.glyphs with
  | nil =>
    rw [hg] at h
    exact hr h
  | cons g gs =>
    have hf := r.free g (by simp [hg])
    rw [hg] at h
    cases g with
    | plain c hc => cases h; cases hf
    | escaped c => cases h

/-- A base is read in front of a group, a separator or the end. -/
theorem Base.readBase_spelling (b : Base ν) (offset : Nat) {tail : List Char}
    (ht : ∀ c ∈ tail.head?, c ∈ ['[', '.', ',']) :
    readBase ⟨offset, b.spelling W ++ tail⟩ =
      .ok (b.name W offset, ⟨offset + byteLength (b.spelling W), tail⟩) := by
  match b with
  | .plain a =>
    have hs : Stops endsBase tail := fun c hc => by
      have h := ht c hc
      simp only [List.mem_cons, List.not_mem_nil, or_false] at h
      rcases h with rfl | rfl | rfl <;> decide
    have hp : tail.head? ≠ some '(' := fun h => absurd (ht _ h) (by decide)
    rw [Base.spelling, readBase_plain (head?_chars_append W a hp)]
    exact readRun_chars W a offset hs
  | .enclosed a =>
    rw [Base.spelling, List.cons_append, List.append_assoc]
    refine readBase_enclosed_iff.2 ⟨_, readRun_chars W a _ (stops_of_mark (by decide) rfl), ?_⟩
    simp only [byteLength_cons, byteLength_append, Nat.add_assoc]
    rfl

/-! ### Reading segments -/

/-- Behind a base there is a group, a separator or the end, as long as behind its groups there is a
separator or the end. -/
theorem head?_groups_append (gs : Groups (ν .item)) {tail : List Char}
    (ht : ∀ c ∈ tail.head?, c ∈ ['.', ',']) :
    ∀ c ∈ (gs.spelling W ++ tail).head?, c ∈ ['[', '.', ','] := by
  cases gs with
  | nil => exact fun c hc => List.mem_cons_of_mem _ (ht c hc)
  | cons is gs => rintro c ⟨⟩; exact List.mem_cons_self

/-- A part is read as its segment in front of a separator or the end. -/
theorem Part.readSegment_spelling (p : Part ν) (offset : Nat) {tail : List Char}
    {r : Option (Separator × Cursor)}
    (hr : readSeparator ⟨offset + byteLength (p.spelling W), tail⟩ = .ok r) :
    readSegment ⟨offset, p.spelling W ++ tail⟩ =
      .ok (p.segment W offset (r.map Prod.fst), r.map Prod.snd) := by
  have ht : ∀ c ∈ tail.head?, c ∈ ['.', ','] := by
    obtain ⟨rfl : tail = [], -⟩ | ⟨s, cs, rfl : tail = _, -⟩ := readSeparator_eq_ok_iff.1 hr
    · nofun
    · rintro c ⟨⟩
      cases s <;> decide
  have hb := p.base.readBase_spelling W offset (head?_groups_append W p.groups ht)
  have hn : tail.head? ≠ some '[' := fun h => absurd (ht _ h) (by decide)
  have hg := p.groups.readGroups_spelling W (offset + byteLength (p.base.spelling W)) hn
  rw [Part.spelling, byteLength_append, ← Nat.add_assoc] at hr
  rw [Part.spelling, List.append_assoc, readSegment, hb, bind_ok]
  dsimp only
  rw [hg, bind_ok]
  dsimp only
  rw [hr, bind_ok]
  cases r <;> rfl

/-- A segment without a separator behind it is the last. -/
theorem segmentsFrom_last {c : Cursor} {s : Segment} (h : readSegment c = .ok (s, none)) :
    segmentsFrom c = [.ok s] := by
  rw [segmentsFrom]
  split
  · next h' => cases h.symm.trans h'
  · next h' => cases h.symm.trans h'; rfl
  · next h' => cases h.symm.trans h'

/-- A segment with a separator behind it is followed by the segments from there on. -/
theorem segmentsFrom_next {c next : Cursor} {s : Segment}
    (h : readSegment c = .ok (s, some next)) : segmentsFrom c = .ok s :: segmentsFrom next := by
  rw [segmentsFrom]
  split
  · next h' => cases h.symm.trans h'
  · next h' => cases h.symm.trans h'
  · next h' => cases h.symm.trans h'; rfl

/-- From any position on, an expression is read as its segments at that position. -/
theorem Expression.segmentsFrom_spelling (e : Expression ν) (offset : Nat) :
    segmentsFrom ⟨offset, e.spelling W⟩ = (e.segments W offset).map .ok := by
  induction e generalizing offset with
  | last p =>
    rw [Expression.spelling, ← List.append_nil (p.spelling W)]
    exact segmentsFrom_last
      (p.readSegment_spelling W offset (readSeparator_eq_ok_iff.2 (.inl ⟨rfl, rfl⟩)))
  | cons p s e ih =>
    have h := p.readSegment_spelling W offset
      (readSeparator_eq_ok_iff.2 (.inr ⟨s, e.spelling W, rfl, rfl⟩))
    rw [Expression.spelling, segmentsFrom_next h, ih]
    rfl

/-- **What an expression spells is read as its segments.** -/
theorem Expression.segments_spelling (e : Expression ν) :
    Path.segments (String.ofList (e.spelling W)) = (e.segments W 0).map .ok := by
  rw [Path.segments, String.toList_ofList, e.segmentsFrom_spelling, List.map_map]
  rfl

/-! ### What is read has a tree -/

/-- Groups and, behind them, a bracket that closes the group around them or a comma with more
items. -/
def Resumes (cs : List Char) : Prop :=
  ∃ (gs : Groups (Run .item)) (tail : List Char),
    cs = gs.spelling Run.writing ++ ']' :: tail ∨
      ∃ is : Items (Run .item),
        cs = gs.spelling Run.writing ++ ',' :: (is.spelling Run.writing ++ ']' :: tail)

/-- A group in front leaves the shape as it is. -/
theorem Resumes.group {is : Items (Run .item)} (h : Resumes cs) :
    Resumes ('[' :: (is.spelling Run.writing ++ ']' :: cs)) := by
  obtain ⟨gs, tail, h⟩ := h
  refine ⟨.cons is gs, tail, ?_⟩
  rcases h with rfl | ⟨js, rfl⟩
  · exact .inl (Groups.spelling_cons_append _ is gs _).symm
  · exact .inr ⟨js, (Groups.spelling_cons_append _ is gs _).symm⟩

/-- Putting names in front does not turn a mistake into anything else. -/
theorem ok_of_ahead {ns : List Name} {x : Except Mistake (List Name × Cursor)}
    {r : List Name × Cursor} (h : ahead ns x = .ok r) : ∃ r', x = .ok r' := by
  obtain ⟨r', hx, -⟩ := map_eq_ok_iff.1 h
  exact ⟨r', hx⟩

/-- Items can only be read if the first name can, and if the reading can go on behind it. -/
theorem readRun_of_readItems {c : Cursor} {r : List Name × Cursor}
    (h : readItems inner outer c = .ok r) :
    ∃ n next r', readRun endsItem c = .ok (n, next) ∧
      resume inner outer next.offset next.rest = .ok r' := by
  match hn : readRun endsItem c with
  | .error e =>
    rw [readItems] at h
    split at h
    · cases h
    · next hr => rw [hn] at hr; cases hr
  | .ok (n, next) =>
    rw [readItems_of_readRun hn] at h
    obtain ⟨r', hr⟩ := ok_of_ahead h
    exact ⟨n, next, r', rfl, hr⟩

/-- The reading goes on behind an item only at an opening bracket, a comma or a closing bracket. -/
theorem resume_ok_cases {r : List Name × Cursor} (h : resume inner outer offset cs = .ok r) :
    (∃ ds, cs = '[' :: ds ∧ readItems offset (inner :: outer) ⟨offset + 1, ds⟩ = .ok r) ∨
      (∃ ds, cs = ',' :: ds ∧ readItems inner outer ⟨offset + 1, ds⟩ = .ok r) ∨
      ∃ ds, cs = ']' :: ds := by
  unfold resume at h
  revert h
  fun_cases afterItem inner outer offset cs with
  | case1 => exact fun h => .inl ⟨_, rfl, h⟩
  | case2 => exact fun h => .inr (.inl ⟨_, rfl, h⟩)
  | case3 => exact fun _ => .inr (.inr ⟨_, rfl⟩)
  | case4 => exact fun _ => .inr (.inr ⟨_, rfl⟩)
  | case5 => exact nofun

mutual

/-- Items are read only if there are some in front of a closing bracket. -/
theorem exists_items {inner : Nat} {outer : List Nat} {c : Cursor} {r : List Name × Cursor}
    (h : readItems inner outer c = .ok r) :
    ∃ (is : Items (Run .item)) (tail : List Char),
      c.rest = is.spelling Run.writing ++ ']' :: tail := by
  obtain ⟨n, next, r', hn, hr⟩ := readRun_of_readItems h
  have hlen : next.rest.length ≤ c.rest.length := readRun_rest_length_le hn
  obtain ⟨a, -, -, hc, -⟩ := readRun_eq_ok_iff (s := .item).1 hn
  obtain ⟨gs, tail, ht | ⟨is, ht⟩⟩ := exists_groups hr
  · refine ⟨.last (.mk a gs), tail, ?_⟩
    rw [hc, ht, Items.spelling, Item.spelling, List.append_assoc]
    rfl
  · refine ⟨.cons (.mk a gs) is, tail, ?_⟩
    rw [hc, ht, Items.spelling, Item.spelling, List.append_assoc, List.append_assoc]
    rfl
termination_by 2 * c.rest.length + 1

/-- Reading goes on behind an item only at groups, a comma or a closing bracket. -/
theorem exists_groups {inner : Nat} {outer : List Nat} {offset : Nat} {cs : List Char}
    {r : List Name × Cursor} (h : resume inner outer offset cs = .ok r) : Resumes cs := by
  obtain ⟨ds, hcs, h⟩ | ⟨ds, hcs, h⟩ | ⟨ds, hcs⟩ := resume_ok_cases h
  · have hlt : ds.length < cs.length := by rw [hcs]; exact Nat.lt_succ_self _
    obtain ⟨is, tail, hds : ds = _⟩ := exists_items h
    have hlt' : tail.length < ds.length := by
      rw [hds, List.length_append, List.length_cons]
      omega
    rw [hds, is.readItems_spelling _ _ _ _ (stops_of_mark (by decide) rfl), resume_close] at h
    obtain ⟨r', h⟩ := ok_of_ahead h
    rw [hcs, hds]
    exact (exists_groups h).group
  · have hlt : ds.length < cs.length := by rw [hcs]; exact Nat.lt_succ_self _
    obtain ⟨is, tail, hds : ds = _⟩ := exists_items h
    exact ⟨.nil, tail, .inr ⟨is, by rw [hcs, hds]; rfl⟩⟩
  · exact ⟨.nil, ds, .inl hcs⟩
termination_by 2 * cs.length
-- What is left behind a nested group is shorter than what the group was found in.
decreasing_by all_goals omega

end

/-- What has been read as groups is what some groups spell. -/
theorem exists_of_readGroups {c last : Cursor} {names : List (List Name)}
    (h : readGroups c = .ok (names, last)) :
    ∃ gs : Groups (Run .item), c.rest = gs.spelling Run.writing ++ last.rest := by
  fun_induction readGroups c generalizing names last with
  | case1 => cases h
  | case2 => cases h
  | case3 c cs hc group next hr groups last' hg ih =>
    obtain ⟨is, tail, hcs : cs = _⟩ := exists_items hr
    rw [hcs, readItems_group] at hr
    cases hr
    cases h
    obtain ⟨gs, ht : tail = _⟩ := ih hg
    exact ⟨.cons is gs, by rw [hc, hcs, Groups.spelling_cons_append, ← ht]⟩
  | case4 =>
    cases h
    exact ⟨.nil, rfl⟩

/-- What has been read as a base is what some base spells. -/
theorem exists_of_readBase {c next : Cursor} {n : Name} (h : readBase c = .ok (n, next)) :
    ∃ b : Base Run, c.rest = b.spelling Run.writing ++ next.rest := by
  by_cases hc : c.rest.head? = some '('
  · obtain ⟨cs, hcs⟩ := List.head?_eq_some_iff.1 hc
    obtain ⟨offset, rest⟩ := c
    cases hcs
    obtain ⟨o, hr, -⟩ := readBase_enclosed_iff.1 h
    obtain ⟨a, -, -, ha : cs = _, -⟩ := readRun_eq_ok_iff.1 hr
    exact ⟨.enclosed a, by rw [ha, Base.spelling, List.cons_append, List.append_assoc]; rfl⟩
  · rw [readBase_plain hc] at h
    obtain ⟨a, -, -, ha, -⟩ := readRun_eq_ok_iff.1 h
    exact ⟨.plain a, ha⟩

/-- What has been read as a segment is what some part spells, in front of the end or of a
separator. -/
theorem exists_of_readSegment {c : Cursor} {s : Segment} {next : Option Cursor}
    (h : readSegment c = .ok (s, next)) :
    ∃ (p : Part Run) (rest : List Char), c.rest = p.spelling Run.writing ++ rest ∧
      ((rest = [] ∧ next = none) ∨
        ∃ s cs o, rest = Separator.char s :: cs ∧ next = some ⟨o, cs⟩) := by
  obtain ⟨⟨b, afterBase⟩, hb, h⟩ := bind_eq_ok_iff.1 h
  obtain ⟨⟨gs, afterGroups⟩, hg, h⟩ := bind_eq_ok_iff.1 h
  obtain ⟨r, hr, h⟩ := bind_eq_ok_iff.1 h
  obtain ⟨base, hb⟩ := exists_of_readBase hb
  obtain ⟨groups, hg⟩ := exists_of_readGroups hg
  refine ⟨⟨base, groups⟩, afterGroups.rest, by rw [hb, hg, Part.spelling, List.append_assoc], ?_⟩
  obtain ⟨hc, rfl⟩ | ⟨s, cs, hc, rfl⟩ := readSeparator_eq_ok_iff.1 hr
  · cases h
    exact .inl ⟨hc, rfl⟩
  · cases h
    exact .inr ⟨s, cs, _, hc, rfl⟩

/-- A text that is read to its end without a mistake is what some expression spells. -/
theorem exists_expression {c : Cursor} (h : ∀ x ∈ segmentsFrom c, ∃ s, x = .ok s) :
    ∃ e : Expression Run, e.spelling Run.writing = c.rest := by
  fun_induction segmentsFrom c with
  | case1 c e he =>
    obtain ⟨s, hs⟩ := h _ List.mem_cons_self
    cases hs
  | case2 c s hs =>
    obtain ⟨p, rest, hc, ⟨hr, -⟩ | ⟨_, _, _, -, hn⟩⟩ := exists_of_readSegment hs
    · exact ⟨.last p, by rw [hc, hr, List.append_nil]; rfl⟩
    · cases hn
  | case3 c s next hs ih =>
    obtain ⟨p, rest, hc, ⟨-, hn⟩ | ⟨sep, cs, o, hr, hn⟩⟩ := exists_of_readSegment hs
    · cases hn
    · cases hn
      obtain ⟨e, he⟩ := ih fun x hx => h x (List.mem_cons_of_mem _ hx)
      exact ⟨.cons p sep e, by rw [hc, hr, Expression.spelling, he]⟩

/-! ### Steps -/

/-- A list of results has succeeded if all of them have. -/
theorem mapM_id_eq_ok_iff {ε α : Type} {xs : List (Except ε α)} {as : List α} :
    xs.mapM id = .ok as ↔ xs = as.map .ok := by
  induction xs generalizing as with
  | nil => cases as <;> simp [pure, Except.pure]
  | cons x xs ih =>
    rw [List.mapM_cons, bind_eq_ok_iff]
    constructor
    · rintro ⟨a, hx, h⟩
      obtain ⟨as, hxs, h⟩ := bind_eq_ok_iff.1 h
      cases pure_eq_ok_iff.1 h
      rw [List.map_cons, ← ih.1 hxs]
      exact congrArg (· :: xs) hx
    · intro h
      cases as with
      | nil => cases h
      | cons a as =>
        obtain ⟨rfl, hxs⟩ := List.cons.inj h
        exact ⟨a, rfl, bind_eq_ok_iff.2 ⟨as, ih.2 hxs, rfl⟩⟩

/-- Steps can be read exactly if no segment is malformed, and they are the names of all segments. -/
theorem steps_iff_segments {path : String} {names : List Name} :
    steps path = .ok names ↔
      ∃ ss : List Segment, segments path = ss.map .ok ∧ ss.flatMap Segment.steps = names := by
  unfold steps
  simp only [bind_eq_ok_iff, pure_eq_ok_iff, mapM_id_eq_ok_iff]

/-- A path without a malformed segment is what some expression spells. -/
theorem exists_expression_of_segments {path : String} {ss : List Segment}
    (h : segments path = ss.map .ok) :
    ∃ e : Expression Run, e.spelling Run.writing = path.toList := by
  refine exists_expression (c := ⟨0, path.toList⟩) fun x hx => ?_
  have hm : x.mapError (Malformed.mk path) ∈ ss.map .ok := h ▸ List.mem_map_of_mem hx
  obtain ⟨s, -, hs⟩ := List.mem_map.1 hm
  cases x with
  | error e => cases hs
  | ok s => exact ⟨s, rfl⟩

/-- A path that an expression spells has the segments of the expression. -/
theorem segments_of_spelling {path : String} {e : Expression Run}
    (he : e.spelling Run.writing = path.toList) :
    segments path = (e.segments Run.writing 0).map .ok := by
  have hs := e.segments_spelling Run.writing
  rwa [he, String.ofList_toList] at hs

/-- The steps of a path are the names of an expression that is written like it. -/
theorem exists_expression_of_steps {path : String} {names : List Name}
    (h : steps path = .ok names) :
    ∃ e : Expression Run, e.spelling Run.writing = path.toList ∧ e.names Run.writing = names := by
  obtain ⟨ss, hs, rfl⟩ := steps_iff_segments.1 h
  obtain ⟨e, he⟩ := exists_expression_of_segments hs
  have hss : ss = e.segments Run.writing 0 :=
    List.map_inj_right (fun _ _ => Except.ok.inj) |>.1 (hs.symm.trans (segments_of_spelling he))
  exact ⟨e, he, by rw [hss]; rfl⟩

/-- **The grammar is what is accepted**: the steps of a path can be read exactly if an expression is
written like it, and they are the names of the expression in the order of the text. -/
theorem steps_eq_ok_iff (path : String) (names : List Name) :
    steps path = .ok names ↔
      ∃ e : Expression Run, e.spelling Run.writing = path.toList ∧ e.names Run.writing = names := by
  constructor
  · exact exists_expression_of_steps
  · rintro ⟨e, he, rfl⟩
    exact steps_iff_segments.2 ⟨_, segments_of_spelling he, rfl⟩

end Path
end BeanPath
