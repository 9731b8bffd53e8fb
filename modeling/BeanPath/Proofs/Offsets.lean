import Mathlib.Data.String.Basic
import BeanPath.Proofs.Grammar

/-!
# Positions of names and mistakes

A cursor stands in a path if what it has not read is the path from its position on
(`Path.Cursor.In`).  Every reader moves it over the characters that it takes off, so the cursor
stays in the path and its position is a boundary between characters, and so are the positions of
names and mistakes, which are those of cursors and of brackets passed before.

Names may be empty, and then a name ends where it starts.  There is a delimiter between any two
names, though, so with the position behind the delimiter as the end of a name's stretch, each name
has a stretch of its own, and the stretches follow one another (`Path.Ordered.append`).
-/

namespace BeanPath
namespace Path

variable {path : String}

/-- The length of characters in bytes is the one that the library gives them. -/
theorem byteLength_eq_utf8Len (cs : List Char) : byteLength cs = String.utf8Len cs := by
  induction cs with
  | nil => rfl
  | cons c cs ih => rw [byteLength_cons, String.utf8Len_cons, ih, Nat.add_comm]

/-- A text is as long as its characters. -/
theorem byteLength_toList (s : String) : byteLength s.toList = s.utf8ByteSize :=
  (byteLength_eq_utf8Len _).trans (String.utf8Len_toList s)

/-- No character is shorter than one byte. -/
theorem length_le_byteLength (cs : List Char) : cs.length ≤ byteLength cs := by
  induction cs with
  | nil => exact Nat.le_refl _
  | cons c cs ih =>
    have := c.utf8Size_pos
    rw [List.length_cons, byteLength_cons]
    omega

/-! ### Boundaries -/

/-- A byte position between two characters or at an end of the text. -/
def Boundary (path : String) (i : Nat) : Prop := String.Pos.Raw.IsValid path ⟨i⟩

instance (path : String) (i : Nat) : Decidable (Boundary path i) :=
  inferInstanceAs (Decidable (String.Pos.Raw.IsValid path ⟨i⟩))

/-- A position is a boundary exactly if the text is some characters of that length, followed by
others. -/
theorem boundary_iff {i : Nat} :
    Boundary path i ↔ ∃ before after, path.toList = before ++ after ∧ byteLength before = i := by
  refine String.Pos.Raw.isValid_iff_exists_append.trans ⟨?_, ?_⟩
  · rintro ⟨s, t, rfl, hi⟩
    refine ⟨s.toList, t.toList, String.toList_append, ?_⟩
    rw [byteLength_toList]
    exact (String.Pos.Raw.ext_iff.1 hi).symm
  · rintro ⟨before, after, hp, rfl⟩
    refine ⟨.ofList before, .ofList after, ?_, ?_⟩
    · rw [← String.ofList_append, ← hp, String.ofList_toList]
    · rw [String.rawEndPos_ofList, byteLength_eq_utf8Len]

/-- No boundary lies behind the end of the text. -/
theorem Boundary.le {i : Nat} (h : Boundary path i) : i ≤ path.utf8ByteSize :=
  String.Pos.Raw.IsValid.le_rawEndPos h

/-- The rest of a cursor is the path from its position on. -/
def Cursor.In (path : String) (c : Cursor) : Prop :=
  ∃ before, path.toList = before ++ c.rest ∧ byteLength before = c.offset

/-- The cursor that reading starts with stands in the path. -/
theorem Cursor.start_in (path : String) : (Cursor.mk 0 path.toList).In path := ⟨[], rfl, rfl⟩

variable {c next : Cursor} {lo mid hi : Nat}

/-- A cursor in a path stands at a boundary. -/
theorem Cursor.In.boundary (h : c.In path) : Boundary path c.offset :=
  let ⟨before, hp, ho⟩ := h
  boundary_iff.2 ⟨before, c.rest, hp, ho⟩

/-- A cursor that moves over some characters stays in the path. -/
theorem Cursor.In.move {offset : Nat} {cs rest : List Char}
    (h : (Cursor.mk offset (cs ++ rest)).In path) :
    (Cursor.mk (offset + byteLength cs) rest).In path := by
  obtain ⟨before, hp, ho⟩ := h
  dsimp only at hp ho
  exact ⟨before ++ cs, by rw [hp, List.append_assoc], by rw [byteLength_append, ho]⟩

/-- A cursor that moves over one character stays in the path. -/
theorem Cursor.In.step {offset : Nat} {d : Char} {rest : List Char}
    (h : (Cursor.mk offset (d :: rest)).In path) :
    (Cursor.mk (offset + d.utf8Size) rest).In path := @Cursor.In.move path offset [d] rest h

/-- Delimiters have one byte. -/
theorem Cursor.In.delimiter {offset : Nat} {d : Char} {rest : List Char} (hd : d.utf8Size = 1)
    (h : (Cursor.mk offset (d :: rest)).In path) : (Cursor.mk (offset + 1) rest).In path :=
  hd ▸ h.step

/-! ### Names one behind the other -/

/-- Names at boundaries of the path, each in front of the next, in a stretch of byte positions. -/
structure Ordered (path : String) (lo hi : Nat) (ns : List Name) : Prop where
  le : lo ≤ hi
  boundary : ∀ n ∈ ns, Boundary path n.offset
  within : ∀ n ∈ ns, lo ≤ n.offset ∧ n.offset < hi
  increasing : ns.Pairwise fun n m => n.offset < m.offset

namespace Ordered

variable {ns ms : List Name} {n : Name}

/-- No names at all are in order in every stretch. -/
theorem nil (h : lo ≤ hi) : Ordered path lo hi [] :=
  ⟨h, List.forall_mem_nil _, List.forall_mem_nil _, .nil⟩

/-- A single name is in order in every stretch that reaches from it to some place behind it. -/
theorem singleton (hb : Boundary path n.offset) (hl : lo ≤ n.offset) (hh : n.offset < hi) :
    Ordered path lo hi [n] :=
  ⟨hl.trans hh.le, List.forall_mem_singleton.2 hb, List.forall_mem_singleton.2 ⟨hl, hh⟩,
    List.pairwise_singleton _ _⟩

/-- What follows starts where what is in front ends. -/
theorem append (hn : Ordered path lo mid ns) (hm : Ordered path mid hi ms) :
    Ordered path lo hi (ns ++ ms) where
  le := hn.le.trans hm.le
  boundary := List.forall_mem_append.2 ⟨hn.boundary, hm.boundary⟩
  within := List.forall_mem_append.2
    ⟨fun n h => ⟨(hn.within n h).1, (hn.within n h).2.trans_le hm.le⟩,
      fun m h => ⟨hn.le.trans (hm.within m h).1, (hm.within m h).2⟩⟩
  increasing := List.pairwise_append.2 ⟨hn.increasing, hm.increasing,
    fun n hn' m hm' => (hn.within n hn').2.trans_le (hm.within m hm').1⟩

/-- A stretch may end later than it has to. -/
theorem widen (hn : Ordered path lo mid ns) (h : mid ≤ hi) : Ordered path lo hi ns where
  le := hn.le.trans h
  boundary := hn.boundary
  within := fun n hn' => ⟨(hn.within n hn').1, (hn.within n hn').2.trans_le h⟩
  increasing := hn.increasing

end Ordered

/-! ### What readers yield -/

/-- A mistake is at a boundary of the path, and anything else has a property. -/
def Yields {α : Type} (path : String) (P : α → Prop) : Except Mistake α → Prop
  | .error e => Boundary path e.offset
  | .ok a => P a

/-- A chain of readers yields what its last one does, if that holds for all that the first one
yields. -/
theorem Yields.bind {α β : Type} {P : α → Prop} {Q : β → Prop} {x : Except Mistake α}
    {f : α → Except Mistake β} (hx : Yields path P x) (hf : ∀ a, P a → Yields path Q (f a)) :
    Yields path Q (x >>= f) := by
  cases x with
  | error e => exact hx
  | ok a => exact hf a hx

/-- What has been read has the property that the reader yields. -/
theorem Yields.of_ok {α : Type} {P : α → Prop} {x : Except Mistake α} {a : α}
    (hx : Yields path P x) (h : x = .ok a) : P a := by
  rwa [h] at hx

/-- A mistake that has been made is at a boundary. -/
theorem Yields.of_error {α : Type} {P : α → Prop} {x : Except Mistake α} {e : Mistake}
    (hx : Yields path P x) (h : x = .error e) : Boundary path e.offset := by
  rwa [h] at hx

/-- A backslash at the end is the last character of its run. -/
theorem eq_dropLast_of_dangling {raw : List Char} (h : dangling raw = true) :
    ∃ d, raw = raw.dropLast ++ [d] := by
  have hne : raw ≠ [] := by
    rintro rfl
    cases h
  exact ⟨raw.getLast hne, (List.dropLast_append_getLast hne).symm⟩

/-- Taking off a run moves the cursor forward in the path. The one mistake, a backslash at the end,
is where the backslash stands and not where the run starts. -/
theorem takeRun_yields (ends : Char → Bool) (hc : c.In path) :
    Yields path (fun r => r.2.In path ∧ c.offset ≤ r.2.offset) (takeRun ends c) := by
  obtain ⟨offset, cs⟩ := c
  have hsplit := splitRun_append ends cs
  rw [← hsplit] at hc
  unfold takeRun
  dsimp only
  split
  · next hd =>
    obtain ⟨d, hraw⟩ := eq_dropLast_of_dangling hd
    rw [hraw, List.append_assoc] at hc
    exact hc.move.boundary
  · exact ⟨hc.move, Nat.le_add_right _ _⟩

/-- A name is where its run starts, and so is the mistake of an empty qualifier. -/
theorem read_yields (hb : Boundary path lo) (raw : List Char) :
    Yields path (fun n => n.offset = lo) (Name.read lo raw) := by
  unfold Name.read
  split
  · rfl
  · dsimp only
    split
    · exact hb
    · rfl

/-- A run read as a name moves the cursor forward; the stretch of the name ends behind the delimiter
at which the run stopped. -/
theorem readRun_yields (ends : Char → Bool) (hc : c.In path) :
    Yields path (fun r => r.2.In path ∧ Ordered path c.offset (r.2.offset + 1) [r.1])
      (readRun ends c) := by
  refine (takeRun_yields ends hc).bind fun ⟨raw, next⟩ ⟨hin, hle⟩ => ?_
  -- The run may be empty, so the stretch of the name ends behind the delimiter only.
  refine (read_yields hc.boundary raw).bind fun n hn => ⟨hin, .singleton ?_ hn.ge ?_⟩
  · exact hn ▸ hc.boundary
  · rw [hn]
    exact Nat.lt_succ_of_le hle

/-- What comes after an item is further on, and the open brackets are at boundaries. -/
def AfterItem.Follows (path : String) (offset : Nat) : AfterItem → Prop
  | .close next => next.In path ∧ offset < next.offset
  | .item inner outer next =>
    next.In path ∧ offset < next.offset ∧ ∀ o ∈ inner :: outer, Boundary path o
  | .unclosed position => Boundary path position

/-- What follows a position follows every earlier one. -/
theorem AfterItem.Follows.mono {a : AfterItem} (h : lo ≤ mid) (ha : a.Follows path mid) :
    a.Follows path lo := by
  cases a with
  | close next => exact ⟨ha.1, h.trans_lt ha.2⟩
  | item inner outer next => exact ⟨ha.1, h.trans_lt ha.2.1, ha.2.2⟩
  | unclosed position => exact ha

/-- Looking at what comes after an item moves over at least one delimiter, and every bracket that
stays open is at a boundary. -/
theorem afterItem_follows {inner offset : Nat} {outer : List Nat} {cs : List Char}
    (hc : (Cursor.mk offset cs).In path) (ho : ∀ o ∈ inner :: outer, Boundary path o) :
    (afterItem inner outer offset cs).Follows path offset := by
  fun_induction afterItem inner outer offset cs with
  | case1 inner outer offset cs =>
    exact ⟨hc.delimiter rfl, Nat.lt_succ_self _, List.forall_mem_cons.2 ⟨hc.boundary, ho⟩⟩
  | case2 => exact ⟨hc.delimiter rfl, Nat.lt_succ_self _, ho⟩
  | case3 => exact ⟨hc.delimiter rfl, Nat.lt_succ_self _⟩
  | case4 inner offset cs o os ih =>
    exact (ih (hc.delimiter rfl) (List.forall_mem_cons.1 ho).2).mono (Nat.le_succ _)
  | case5 => exact (List.forall_mem_cons.1 ho).1

/-- Behind an item that has been read comes something further on. -/
theorem follows_of_readRun {inner : Nat} {outer : List Nat} {name : Name} (hc : c.In path)
    (ho : ∀ o ∈ inner :: outer, Boundary path o) (hr : readRun endsItem c = .ok (name, next)) :
    (afterItem inner outer next.offset next.rest).Follows path next.offset :=
  afterItem_follows ((readRun_yields endsItem hc).of_ok hr).1 ho

/-- The items of a group are in order up to the bracket that closes it. -/
theorem readItems_yields {inner : Nat} {outer : List Nat} (hc : c.In path)
    (ho : ∀ o ∈ inner :: outer, Boundary path o) :
    Yields path (fun r => r.2.In path ∧ Ordered path c.offset r.2.offset r.1)
      (readItems inner outer c) := by
  fun_induction readItems inner outer c with
  | case1 inner outer c e hr => exact (readRun_yields endsItem hc).of_error hr
  | case2 inner outer c name next hr last ha =>
    have hlast := follows_of_readRun hc ho hr
    rw [ha] at hlast
    obtain ⟨-, hname⟩ := (readRun_yields endsItem hc).of_ok hr
    exact ⟨hlast.1, hname.widen hlast.2⟩
  | case3 inner outer c name next hr i o following ha e hrec ih =>
    have hitem := follows_of_readRun hc ho hr
    rw [ha] at hitem
    exact (ih hitem.1 hitem.2.2).of_error hrec
  | case4 inner outer c name next hr i o following ha names last hrec ih =>
    have hitem := follows_of_readRun hc ho hr
    rw [ha] at hitem
    obtain ⟨-, hname⟩ := (readRun_yields endsItem hc).of_ok hr
    obtain ⟨hlast, hnames⟩ := (ih hitem.1 hitem.2.2).of_ok hrec
    exact ⟨hlast, (hname.widen hitem.2.1).append hnames⟩
  | case5 inner outer c name next hr position ha =>
    have hopen := follows_of_readRun hc ho hr
    rw [ha] at hopen
    exact hopen

/-- The names of a group are in order behind its opening bracket, where the group itself starts. -/
theorem readGroup_yields {cs : List Char} (hc : c.In path) (h : c.rest = '[' :: cs) :
    Yields path (fun r => r.2.In path ∧ Ordered path (c.offset + 1) r.2.offset r.1)
      (readItems c.offset [] ⟨c.offset + 1, cs⟩) := by
  have hin : (Cursor.mk c.offset ('[' :: cs)).In path := h ▸ hc
  exact readItems_yields (hin.delimiter rfl) (List.forall_mem_singleton.2 hc.boundary)

/-- The names of all groups of a segment are in order. -/
theorem readGroups_yields (hc : c.In path) :
    Yields path (fun r => r.2.In path ∧ Ordered path (c.offset + 1) (r.2.offset + 1) r.1.flatten)
      (readGroups c) := by
  fun_induction readGroups c with
  | case1 c cs hcs e hr => exact (readGroup_yields hc hcs).of_error hr
  | case2 c cs hcs group next hr e hg ih =>
    exact (ih ((readGroup_yields hc hcs).of_ok hr).1).of_error hg
  | case3 c cs hcs group next hr groups last hg ih =>
    obtain ⟨hin, hgroup⟩ := (readGroup_yields hc hcs).of_ok hr
    obtain ⟨hlast, hgroups⟩ := (ih hin).of_ok hg
    exact ⟨hlast, (hgroup.widen (Nat.le_succ _)).append hgroups⟩
  | case4 => exact ⟨hc, .nil (Nat.le_refl _)⟩

/-- The base of a segment is in order with all that comes behind it, in parentheses or not. -/
theorem readBase_yields (hc : c.In path) :
    Yields path (fun r => r.2.In path ∧ Ordered path c.offset (r.2.offset + 1) [r.1])
      (readBase c) := by
  obtain ⟨offset, rest⟩ := c
  unfold readBase
  dsimp only
  split
  · next cs =>
    have hin := hc.delimiter rfl
    refine (takeRun_yields _ hin).bind fun ⟨raw, next, rest⟩ ⟨hnext, hle⟩ => ?_
    dsimp only at hnext hle ⊢
    split
    · refine (read_yields hin.boundary raw).bind fun n hn => ⟨hnext.delimiter rfl, ?_⟩
      refine .singleton (hn ▸ hin.boundary) ?_ ?_ <;> (rw [hn]; dsimp only; omega)
    · exact hc.boundary
  · exact readRun_yields endsBase hc

/-- A separator is one more delimiter that is passed over. -/
theorem readSeparator_yields (hc : c.In path) :
    Yields path (fun r => ∀ p ∈ r, p.2.In path ∧ c.offset < p.2.offset) (readSeparator c) := by
  obtain ⟨offset, rest⟩ := c
  unfold readSeparator
  dsimp only
  split
  · exact nofun
  · rintro _ ⟨⟩
    exact ⟨hc.delimiter rfl, Nat.lt_succ_self _⟩
  · rintro _ ⟨⟩
    exact ⟨hc.delimiter rfl, Nat.lt_succ_self _⟩
  all_goals exact hc.boundary

/-- The names of a segment are in order, in a stretch that ends where the next segment starts if
there is one. -/
theorem readSegment_yields (hc : c.In path) :
    Yields path (fun r => ∃ hi, Ordered path c.offset hi r.1.steps ∧
      ∀ next ∈ r.2, next.In path ∧ next.offset = hi) (readSegment c) := by
  refine (readBase_yields hc).bind fun ⟨base, afterBase⟩ ⟨hbase, hname⟩ => ?_
  refine (readGroups_yields hbase).bind fun ⟨groups, afterGroups⟩ ⟨hgroups, hnames⟩ => ?_
  have hsteps := hname.append hnames
  refine (readSeparator_yields hgroups).bind fun r hr => ?_
  cases r with
  | none => exact ⟨_, hsteps, nofun⟩
  | some p =>
    obtain ⟨hin, hlt⟩ := hr p rfl
    refine ⟨_, hsteps.widen hlt, ?_⟩
    rintro _ ⟨⟩
    exact ⟨hin, rfl⟩

/-! ### Segments one after the other -/

/-- The names of the segments that are read. -/
def namesIn {ε : Type} (xs : List (Except ε Segment)) : List Name :=
  xs.flatMap fun x => (x.toOption.elim [] Segment.steps)

/-- The names of a first segment come before those of the other ones. -/
theorem namesIn_ok_cons {ε : Type} (s : Segment) (xs : List (Except ε Segment)) :
    namesIn (.ok s :: xs) = s.steps ++ namesIn xs := rfl

/-- What mistakes are called has no influence on the names. -/
theorem namesIn_mapError {ε ζ : Type} (f : ε → ζ) (xs : List (Except ε Segment)) :
    namesIn (xs.map (Except.mapError f)) = namesIn xs := by
  unfold namesIn
  rw [List.flatMap_map]
  exact List.flatMap_congr fun x _ => by cases x <;> rfl

/-- The names of all segments are in order from the cursor on, whether or not the last item is a
mistake. -/
theorem segmentsFrom_ordered (hc : c.In path) :
    ∃ hi, Ordered path c.offset hi (namesIn (segmentsFrom c)) := by
  fun_induction segmentsFrom c with
  | case1 c e h => exact ⟨_, .nil (Nat.le_refl _)⟩
  | case2 c s h =>
    obtain ⟨hi, hs, -⟩ := (readSegment_yields hc).of_ok h
    exact ⟨hi, by rwa [namesIn_ok_cons, namesIn, List.flatMap_nil, List.append_nil]⟩
  | case3 c s next h ih =>
    obtain ⟨hi, hs, hnext⟩ := (readSegment_yields hc).of_ok h
    obtain ⟨hin, rfl⟩ := hnext next rfl
    obtain ⟨last, hlast⟩ := ih hin
    exact ⟨last, hs.append hlast⟩

/-- Only the last item of a list is a mistake, and it is at a boundary. -/
theorem eq_last_of_error {k : Nat} {e : Mistake} (hc : c.In path)
    (h : (segmentsFrom c)[k]? = some (.error e)) :
    k + 1 = (segmentsFrom c).length ∧ Boundary path e.offset := by
  fun_induction segmentsFrom c generalizing k with
  | case1 c e' hr =>
    cases k with
    | zero => cases h; exact ⟨rfl, (readSegment_yields hc).of_error hr⟩
    | succ k => cases h
  | case2 c s hr =>
    cases k with
    | zero => cases h
    | succ k => cases h
  | case3 c s next hr ih =>
    obtain ⟨hi, -, hnext⟩ := (readSegment_yields hc).of_ok hr
    cases k with
    | zero => cases h
    | succ k =>
      obtain ⟨hlast, hb⟩ := ih (hnext next rfl).1 h
      exact ⟨congrArg (· + 1) hlast, hb⟩

/-- Every segment but the last takes a separator off. -/
theorem length_segmentsFrom_le (c : Cursor) : (segmentsFrom c).length ≤ c.rest.length + 1 := by
  fun_induction segmentsFrom c with
  | case1 => exact Nat.le_add_left _ _
  | case2 => exact Nat.le_add_left _ _
  | case3 c s next h ih =>
    exact Nat.succ_le_succ (ih.trans (readSegment_rest_length_lt h))

end Path
end BeanPath
