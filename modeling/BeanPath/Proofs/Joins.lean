import BeanPath.Proofs.Grammar

/-!
# Joined paths

Two paths with a separator between them are read one after the other.  A path that can be read is
what an expression spells, and an expression is read in front of a separator as it is at the end,
only that its last segment is ended by the separator (`Path.Expression.segmentsFrom_append`).
Behind the separator the reading starts anew at a later byte position.  Positions are only carried
along, never looked at, so everything that is read there, and the mistake that ends the reading, is
what it is without the first path, later by as many bytes (`Path.segmentsFrom_shift`).
-/

namespace BeanPath

/-- The name at a byte position later by a number of bytes. -/
def Name.shift (d : Nat) (n : Name) : Name := { n with offset := n.offset + d }

/-- The mistake at a byte position later by a number of bytes. -/
def Mistake.shift (d : Nat) (e : Mistake) : Mistake := { e with offset := e.offset + d }

namespace Segment

/-- The segment with all its names later by a number of bytes. -/
def shift (d : Nat) (s : Segment) : Segment :=
  { s with base := s.base.shift d, groups := s.groups.map (List.map (Name.shift d)) }

/-- Segments the last of which is ended by a separator. -/
def endedBy (c : Separator) : List Segment → List Segment
  | [] => []
  | [s] => [{ s with separator := some c }]
  | s :: t :: ss => s :: endedBy c (t :: ss)

/-- Only the last segment is ended anew. -/
theorem endedBy_cons (c : Separator) (s : Segment) {ss : List Segment} (h : ss ≠ []) :
    endedBy c (s :: ss) = s :: endedBy c ss := by
  cases ss with
  | nil => exact absurd rfl h
  | cons t ss => rfl

/-- The steps of a later segment are the same steps, later. -/
theorem steps_shift (d : Nat) (s : Segment) :
    (s.shift d).steps = s.steps.map (Name.shift d) := by
  simp [shift, steps, items, List.map_flatten]

/-- What ends the last segment is no step. -/
theorem flatMap_steps_endedBy (c : Separator) (ss : List Segment) :
    (endedBy c ss).flatMap steps = ss.flatMap steps := by
  fun_induction endedBy c ss with
  | case1 => rfl
  | case2 s => rfl
  | case3 s t ss ih => rw [List.flatMap_cons, List.flatMap_cons, ih]

end Segment

namespace Path

variable {α β : Type} {d : Nat}

/-- The cursor at a byte position later by a number of bytes. -/
def Cursor.shift (d : Nat) (c : Cursor) : Cursor := { c with offset := c.offset + d }

/-- A cursor behind a delimiter may be moved before the delimiter is passed over or after it. -/
theorem Cursor.shift_succ (d offset : Nat) (cs : List Char) :
    (Cursor.mk (offset + 1) cs).shift d = ⟨offset + d + 1, cs⟩ := by
  rw [Cursor.shift, Nat.add_right_comm]

/-- What comes after an item, later by a number of bytes. -/
def AfterItem.shift (d : Nat) : AfterItem → AfterItem
  | .close next => .close (next.shift d)
  | .item inner outer next => .item (inner + d) (outer.map (· + d)) (next.shift d)
  | .unclosed inner => .unclosed (inner + d)

/-- What is read, or the mistake, later by a number of bytes. -/
def shifted (d : Nat) (f : α → α) : Except Mistake α → Except Mistake α
  | .ok a => .ok (f a)
  | .error e => .error (e.shift d)

/-- If the rest of a chain gives the same later for what was read later, so does the chain. -/
theorem bind_shifted {f : α → α} {g : β → β} {x : Except Mistake α} {k l : α → Except Mistake β}
    (h : ∀ a, l (f a) = shifted d g (k a)) : shifted d f x >>= l = shifted d g (x >>= k) := by
  cases x with
  | error e => rfl
  | ok a => exact h a

/-! ### Reading from a later position -/

/-- A raw name is read the same at a later position. -/
theorem read_shift (d offset : Nat) (raw : List Char) :
    Name.read (offset + d) raw = shifted d (Name.shift d) (Name.read offset raw) := by
  unfold Name.read
  cases Name.splitQualifier raw with
  | none => rfl
  | some p =>
    obtain ⟨q, t⟩ := p
    dsimp only
    split <;> rfl

/-- A run is taken off at a later position as far as it is here. -/
theorem takeRun_shift (ends : Char → Bool) (d : Nat) (c : Cursor) :
    takeRun ends (c.shift d) = shifted d (Prod.map id (Cursor.shift d)) (takeRun ends c) := by
  unfold takeRun
  dsimp only [Cursor.shift]
  split
  · simp only [shifted, Mistake.shift, Nat.add_right_comm]
  · simp only [shifted, Prod.map, id, Cursor.shift, Nat.add_right_comm]

/-- A run is read as a name at a later position as it is here. -/
theorem readRun_shift (ends : Char → Bool) (d : Nat) (c : Cursor) :
    readRun ends (c.shift d) =
      shifted d (Prod.map (Name.shift d) (Cursor.shift d)) (readRun ends c) := by
  unfold readRun
  rw [takeRun_shift]
  refine bind_shifted fun ⟨raw, next⟩ => ?_
  show (Name.read (c.offset + d) raw >>= fun name => pure (name, next.shift d)) = _
  rw [read_shift]
  exact bind_shifted fun _ => rfl

/-- What comes after an item is the same later; the positions of the open brackets are carried along
with the cursor. -/
theorem afterItem_shift (d inner : Nat) (outer : List Nat) (offset : Nat) (cs : List Char) :
    afterItem (inner + d) (outer.map (· + d)) (offset + d) cs =
      (afterItem inner outer offset cs).shift d := by
  fun_induction afterItem inner outer offset cs with
  | case1 => simp only [afterItem, AfterItem.shift, Cursor.shift, Nat.add_right_comm, List.map_cons]
  | case2 => simp only [afterItem, AfterItem.shift, Cursor.shift, Nat.add_right_comm]
  | case3 =>
    simp only [afterItem, List.map_nil, AfterItem.shift, Cursor.shift, Nat.add_right_comm]
  | case4 inner offset cs o os ih =>
    rw [List.map_cons, afterItem, ← ih, Nat.add_right_comm]
  | case5 inner outer offset cs h₁ h₂ h₃ =>
    rw [afterItem]
    · rfl
    · exact h₁
    · exact h₂
    · exact h₃

/-- Items cannot be read if the first name cannot. -/
theorem readItems_of_error {inner : Nat} {outer : List Nat} {c : Cursor} {e : Mistake}
    (h : readRun endsItem c = .error e) : readItems inner outer c = .error e := by
  rw [readItems]
  split
  · next h' => exact congrArg _ (Except.error.inj (h'.symm.trans h))
  · next h' => cases h.symm.trans h'

/-- Putting a name in front of others and moving all of them may be done in either order. -/
theorem ahead_shifted (n : Name) (x : Except Mistake (List Name × Cursor)) :
    ahead [n.shift d] (shifted d (Prod.map (List.map (Name.shift d)) (Cursor.shift d)) x) =
      shifted d (Prod.map (List.map (Name.shift d)) (Cursor.shift d)) (ahead [n] x) := by
  cases x <;> rfl

/-- The items of a group are read at a later position as they are here. The induction is on what is
left to read, since the open brackets change on the way. -/
theorem readItems_shift (d inner : Nat) (outer : List Nat) (c : Cursor) :
    readItems (inner + d) (outer.map (· + d)) (c.shift d) =
      shifted d (Prod.map (List.map (Name.shift d)) (Cursor.shift d))
        (readItems inner outer c) := by
  induction hl : c.rest.length using Nat.strong_induction_on generalizing inner outer c with
  | _ length ih =>
    have hshift := readRun_shift endsItem d c
    cases hr : readRun endsItem c with
    | error e =>
      rw [hr] at hshift
      rw [readItems_of_error hr, readItems_of_error hshift]
      rfl
    | ok r =>
      obtain ⟨n, next⟩ := r
      rw [hr] at hshift
      rw [readItems_of_readRun hr, readItems_of_readRun hshift, ← ahead_shifted]
      refine congrArg _ ?_
      have ha := afterItem_shift d inner outer next.offset next.rest
      unfold resume
      rw [show (Cursor.shift d next).offset = next.offset + d from rfl,
        show (Cursor.shift d next).rest = next.rest from rfl, ha]
      cases hitem : afterItem inner outer next.offset next.rest with
      | close last => rfl
      | unclosed position => rfl
      | item i o following =>
        have hlt := afterItem_item_length_lt hitem
        have hle := readRun_rest_length_le hr
        exact ih _ (by omega) i o following rfl

/-- Groups are read at a later position as they are here. -/
theorem readGroups_shift (d : Nat) (c : Cursor) :
    readGroups (c.shift d) =
      shifted d (Prod.map (List.map (List.map (Name.shift d))) (Cursor.shift d))
        (readGroups c) := by
  induction hl : c.rest.length using Nat.strong_induction_on generalizing c with
  | _ length ih =>
    obtain ⟨offset, rest⟩ := c
    by_cases hc : rest.head? = some '['
    · obtain ⟨cs, rfl⟩ := List.head?_eq_some_iff.1 hc
      show readGroups ⟨offset + d, '[' :: cs⟩ = _
      rw [readGroups_open, readGroups_open]
      have hitems := readItems_shift d offset [] ⟨offset + 1, cs⟩
      rw [Cursor.shift_succ] at hitems
      rw [show readItems (offset + d) [] ⟨offset + d + 1, cs⟩ = _ from hitems]
      cases hr : readItems offset [] ⟨offset + 1, cs⟩ with
      | error e => rfl
      | ok r =>
        obtain ⟨group, next⟩ := r
        have hlt := readItems_rest_length_lt hr
        have ih := ih next.rest.length (by rw [← hl]; exact Nat.lt_succ_of_lt hlt) next rfl
        show (readGroups (next.shift d)).map _ = shifted d _ ((readGroups next).map _)
        rw [ih]
        cases readGroups next <;> rfl
    · rw [readGroups_none (c := ⟨offset, rest⟩) hc,
        readGroups_none (c := Cursor.shift d ⟨offset, rest⟩) hc]
      rfl

/-- A base is read at a later position as it is here. -/
theorem readBase_shift (d : Nat) (c : Cursor) :
    readBase (c.shift d) = shifted d (Prod.map (Name.shift d) (Cursor.shift d)) (readBase c) := by
  obtain ⟨offset, rest⟩ := c
  by_cases hc : rest.head? = some '('
  · obtain ⟨cs, rfl⟩ := List.head?_eq_some_iff.1 hc
    have ht := takeRun_shift (· == ')') d ⟨offset + 1, cs⟩
    rw [Cursor.shift_succ] at ht
    show (takeRun (· == ')') ⟨offset + d + 1, cs⟩ >>= _) =
      shifted d _ (takeRun (· == ')') ⟨offset + 1, cs⟩ >>= _)
    rw [ht]
    refine bind_shifted fun ⟨raw, next⟩ => ?_
    obtain ⟨o, rest⟩ := next
    dsimp only [Prod.map, id, Cursor.shift]
    split
    · rw [Nat.add_right_comm offset d 1, read_shift]
      refine bind_shifted fun _ => ?_
      simp only [shifted, Prod.map, Cursor.shift, Nat.add_right_comm, pure, Except.pure]
    · rfl
  · rw [readBase_plain (c := ⟨offset, rest⟩) hc,
      readBase_plain (c := Cursor.shift d ⟨offset, rest⟩) hc]
    exact readRun_shift _ d _

/-- A separator is read at a later position as it is here. -/
theorem readSeparator_shift (d : Nat) (c : Cursor) :
    readSeparator (c.shift d) =
      shifted d (Option.map (Prod.map id (Cursor.shift d))) (readSeparator c) := by
  obtain ⟨offset, rest⟩ := c
  unfold readSeparator
  dsimp only [Cursor.shift]
  split <;>
    simp only [shifted, Mistake.shift, Option.map, Prod.map, id, Cursor.shift, Nat.add_right_comm]

/-- A segment is read at a later position as it is here. -/
theorem readSegment_shift (d : Nat) (c : Cursor) :
    readSegment (c.shift d) =
      shifted d (Prod.map (Segment.shift d) (Option.map (Cursor.shift d))) (readSegment c) := by
  unfold readSegment
  rw [readBase_shift]
  refine bind_shifted fun ⟨base, afterBase⟩ => ?_
  dsimp only [Prod.map]
  rw [readGroups_shift]
  refine bind_shifted fun ⟨groups, afterGroups⟩ => ?_
  dsimp only [Prod.map]
  rw [readSeparator_shift]
  refine bind_shifted fun r => ?_
  cases r <;> rfl

/-- A mistake in the next segment ends the list with it. -/
theorem segmentsFrom_error {c : Cursor} {e : Mistake} (h : readSegment c = .error e) :
    segmentsFrom c = [.error e] := by
  rw [segmentsFrom]
  split
  · next h' => cases h.symm.trans h'; rfl
  · next h' => cases h.symm.trans h'
  · next h' => cases h.symm.trans h'

/-- **Reading from a later position** gives the same segments later, or the same mistake. -/
theorem segmentsFrom_shift (d : Nat) (c : Cursor) :
    segmentsFrom (c.shift d) = (segmentsFrom c).map (shifted d (Segment.shift d)) := by
  induction hl : c.rest.length using Nat.strong_induction_on generalizing c with
  | _ length ih =>
    have hshift := readSegment_shift d c
    match hr : readSegment c with
    | .error e =>
      rw [hr] at hshift
      rw [segmentsFrom_error hr, segmentsFrom_error hshift]
      rfl
    | .ok (s, none) =>
      rw [hr] at hshift
      rw [segmentsFrom_last hr, segmentsFrom_last hshift]
      rfl
    | .ok (s, some next) =>
      have hlt := readSegment_rest_length_lt hr
      rw [hr] at hshift
      rw [segmentsFrom_next hr, segmentsFrom_next hshift, ih _ (hl ▸ hlt) next rfl]
      rfl

/-! ### Reading what is joined -/

/-- Two paths with a separator between them. -/
def join (p : String) (c : Separator) (q : String) : String := p ++ String.singleton c.char ++ q

/-- The number of bytes in front of the second of two joined paths. -/
def joinOffset (p : String) : Nat := byteLength p.toList + 1

/-- What is read of the second of two joined paths, as it is read in the whole. -/
def inJoin (p : String) (c : Separator) (q : String) :
    Except Malformed Segment → Except Malformed Segment
  | .ok s => .ok (s.shift (joinOffset p))
  | .error e => .error ⟨join p c q, e.mistake.shift (joinOffset p)⟩

/-- Every expression has a segment. -/
theorem Expression.segments_ne_nil {ν : Spot → Type} (W : Writing ν) (e : Expression ν)
    (offset : Nat) : e.segments W offset ≠ [] := by
  cases e <;> exact List.cons_ne_nil _ _

/-- **In front of a separator an expression is read as at the end**, and the reading goes on. -/
theorem Expression.segmentsFrom_append {ν : Spot → Type} (W : Writing ν) (e : Expression ν)
    (offset : Nat) (c : Separator) (cs : List Char) :
    segmentsFrom ⟨offset, e.spelling W ++ c.char :: cs⟩ =
      (Segment.endedBy c (e.segments W offset)).map .ok ++
        segmentsFrom ⟨offset + byteLength (e.spelling W) + 1, cs⟩ := by
  induction e generalizing offset with
  | last p =>
    have h := p.readSegment_spelling W offset
      (readSeparator_eq_ok_iff.2 (.inr ⟨c, cs, rfl, rfl⟩))
    exact segmentsFrom_next h
  | cons p s e ih =>
    have h := p.readSegment_spelling W offset
      (readSeparator_eq_ok_iff.2 (.inr ⟨s, e.spelling W ++ c.char :: cs, rfl, rfl⟩))
    have hs : s.char.utf8Size = 1 := by cases s <;> rfl
    have hlater : offset + byteLength (p.spelling W) + 1 + byteLength (e.spelling W) =
        offset + byteLength ((Expression.cons p s e).spelling W) := by
      simp only [Expression.spelling, byteLength_append, byteLength_cons, hs]
      omega
    rw [← hlater, Expression.segments, Segment.endedBy_cons c _ (e.segments_ne_nil W _),
      List.map_cons, List.cons_append, ← ih, Expression.spelling, List.append_assoc,
      List.cons_append, segmentsFrom_next h]
    rfl

/-- The characters of joined paths are those of both, with the separator between them. -/
theorem toList_join (p : String) (c : Separator) (q : String) :
    (join p c q).toList = p.toList ++ c.char :: q.toList := by
  simp [join]

/-- The segments of a path in front of a separator, and those of another path behind it. -/
theorem segmentsFrom_join {p : String} {ss : List Segment} (hp : segments p = ss.map .ok)
    (c : Separator) (q : String) :
    segmentsFrom ⟨0, (join p c q).toList⟩ =
      (Segment.endedBy c ss).map .ok ++
        (segmentsFrom ⟨0, q.toList⟩).map
          (shifted (joinOffset p) (Segment.shift (joinOffset p))) := by
  obtain ⟨e, he⟩ := exists_expression_of_segments hp
  have hss : ss = e.segments Run.writing 0 := by
    have hs := e.segments_spelling Run.writing
    rw [he, String.ofList_toList, hp] at hs
    exact List.map_inj_right (fun _ _ => Except.ok.inj) |>.1 hs
  have hq := segmentsFrom_shift (joinOffset p) ⟨0, q.toList⟩
  rw [toList_join, ← he, e.segmentsFrom_append, ← hss, ← hq, he, Nat.zero_add]
  rw [Cursor.shift, joinOffset, Nat.zero_add]

/-- The segments of joined paths are those of the first, with the separator at its end, and then
what is read of the second, later. -/
theorem segments_join {p : String} {ss : List Segment} (hp : segments p = ss.map .ok)
    (c : Separator) (q : String) :
    segments (join p c q) = (Segment.endedBy c ss).map .ok ++ (segments q).map (inJoin p c q) := by
  unfold segments
  rw [segmentsFrom_join hp, List.map_append, List.map_map, List.map_map, List.map_map]
  refine congrArg₂ _ rfl (List.map_congr_left fun x _ => ?_)
  cases x <;> rfl

/-- The steps of the second path, or its mistake, come out the same in the whole, later by the bytes
in front. -/
theorem mapM_inJoin (p : String) (c : Separator) (q : String)
    (xs : List (Except Malformed Segment)) :
    (xs.map (inJoin p c q)).mapM id = match xs.mapM id with
      | .ok ss => .ok (ss.map (Segment.shift (joinOffset p)))
      | .error e => .error ⟨join p c q, e.mistake.shift (joinOffset p)⟩ := by
  induction xs with
  | nil => rfl
  | cons x xs ih =>
    rw [List.map_cons, List.mapM_cons, List.mapM_cons, ih]
    cases x with
    | error e => rfl
    | ok s => cases xs.mapM id <;> rfl

/-- The steps of a path in front of a separator, and those of another path behind it, or the mistake
in that. -/
theorem steps_join {p : String} {ss : List Segment} (hp : segments p = ss.map .ok)
    (c : Separator) (q : String) :
    steps (join p c q) = match steps q with
      | .ok names => .ok (ss.flatMap Segment.steps ++ names.map (Name.shift (joinOffset p)))
      | .error e => .error ⟨join p c q, e.mistake.shift (joinOffset p)⟩ := by
  have hfront : ((Segment.endedBy c ss).map .ok : List (Except Malformed Segment)).mapM id =
      .ok (Segment.endedBy c ss) := mapM_id_eq_ok_iff.2 rfl
  unfold steps
  rw [segments_join hp, List.mapM_append, hfront, bind_ok, mapM_inJoin]
  cases (segments q).mapM id with
  | error e => rfl
  | ok ts =>
    simp only [bind_ok, pure, Except.pure, List.flatMap_append, Segment.flatMap_steps_endedBy,
      List.flatMap_map, List.map_flatMap, Segment.steps_shift]

/-- **Joined paths are read one after the other.**  If the first can be read, the segments of the
whole are its segments, the last of them ended by the separator, and then what is read of the
second, later by the bytes in front of it: its segments, up to its mistake if it has one.  The
steps of the whole are those of both, or the mistake of the second. -/
theorem joined_paths_are_read_in_turn {p : String} {ss : List Segment}
    (hp : segments p = ss.map .ok) (c : Separator) (q : String) :
    segments (join p c q) = (Segment.endedBy c ss).map .ok ++ (segments q).map (inJoin p c q) ∧
      steps (join p c q) = match steps q with
        | .ok names => .ok (ss.flatMap Segment.steps ++ names.map (Name.shift (joinOffset p)))
        | .error e => .error ⟨join p c q, e.mistake.shift (joinOffset p)⟩ :=
  ⟨segments_join hp c q, steps_join hp c q⟩

/-- The mistake of a path is found behind one with a character of two bytes. -/
theorem joined_paths_are_read_in_turn_to_a_mistake :
    segments "ä[7]" = [⟨⟨"ä", none, false, 0⟩, [[⟨"7", none, false, 3⟩]], none⟩].map .ok ∧
      segments "ä[7],b.c)" =
        [.ok ⟨⟨"ä", none, false, 0⟩, [[⟨"7", none, false, 3⟩]], some .comma⟩,
          .ok ⟨⟨"b", none, false, 6⟩, [], some .dot⟩,
          .error ⟨"ä[7],b.c)", ⟨9, .unmatchedParenthesis⟩⟩] := by
  have hp : segments "ä[7]" =
      [⟨⟨"ä", none, false, 0⟩, [[⟨"7", none, false, 3⟩]], none⟩].map .ok := by decide +kernel
  have hq : segments "b.c)" = [.ok ⟨⟨"b", none, false, 0⟩, [], some .dot⟩,
      .error ⟨"b.c)", ⟨3, .unmatchedParenthesis⟩⟩] := by decide +kernel
  have h := (joined_paths_are_read_in_turn hp .comma "b.c)").1
  rw [hq] at h
  refine ⟨hp, ?_⟩
  exact Eq.trans (congrArg segments (by decide +kernel)) (h.trans (by decide +kernel))

end Path
end BeanPath
