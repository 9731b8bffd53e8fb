import BeanPath.Path.Name
import BeanPath.Failure

/-!
# The grammar of paths

| form | is |
| --- | --- |
| path | segments with a separator between any two |
| segment | a base and bracket groups |
| separator | a dot or a comma |
| base | text in parentheses, or a run without dot, comma, parenthesis and bracket |
| group | items in brackets with a comma between any two |
| item | a run without comma and bracket, followed by nested groups |

A backslash takes the next character with it everywhere.  The names of nested groups are listed
with those of the group around them, in the order of the text.  The characters of a path are read
from the left with their byte position beside them, and every step leaves a shorter rest.
-/

namespace BeanPath

/-- What ends a segment that is not the last one. -/
inductive Separator where
  | dot | comma
  deriving DecidableEq, Repr

/-- The character of a separator. -/
def Separator.char : Separator → Char
  | .dot => '.'
  | .comma => ','

/-- A base name, its bracket groups and the separator behind it. -/
structure Segment where
  base : Name
  groups : List (List Name) := []
  separator : Option Separator := none
  deriving DecidableEq, Repr

namespace Segment

/-- The last bracket group with names in it. -/
def key? (s : Segment) : Option (List Name) := s.groups.reverse.find? fun g => !g.isEmpty

/-- The names of the bracket groups in order. -/
def items (s : Segment) : List Name := s.groups.flatten

/-- The base and the names of the bracket groups in order. -/
def steps (s : Segment) : List Name := s.base :: s.items

end Segment

/-- A malformed path. -/
structure Malformed where
  path : String
  mistake : Mistake
  deriving DecidableEq, Repr

/-- The wording of a malformed path. -/
def Malformed.message (e : Malformed) : String :=
  "invalid path `" ++ e.path ++ "` at offset " ++ toString e.mistake.offset ++ ": "
    ++ e.mistake.cause.reason

/-- A malformed path as an external error. -/
def Malformed.external (e : Malformed) : ExternalError := ⟨.argument, e.message, []⟩

-- Hypotheses that only a termination proof uses count as unused.
set_option linter.unusedVariables false

namespace Path

/-- The unread rest of a path and its byte position. -/
structure Cursor where
  offset : Nat
  rest : List Char
  deriving DecidableEq, Repr

/-- Characters that end the base of a segment. -/
def endsBase (c : Char) : Bool := ['.', ',', '(', ')', '[', ']'].contains c

/-- Characters that end an item of a group. -/
def endsItem (c : Char) : Bool := [',', '[', ']'].contains c

/-- Splits before the first character that ends the run and is not escaped. -/
def splitRun (ends : Char → Bool) : List Char → List Char × List Char
  | [] => ([], [])
  | ['\\'] => (['\\'], [])
  | '\\' :: c :: cs => ('\\' :: c :: (splitRun ends cs).1, (splitRun ends cs).2)
  | c :: cs =>
    if ends c then ([], c :: cs) else (c :: (splitRun ends cs).1, (splitRun ends cs).2)

/-- Splitting a run off loses nothing. -/
theorem splitRun_append (ends : Char → Bool) (cs : List Char) :
    (splitRun ends cs).1 ++ (splitRun ends cs).2 = cs := by
  fun_induction splitRun ends cs with
  | case1 => rfl
  | case2 => rfl
  | case3 c cs ih => simp only [List.cons_append, ih]
  | case4 => rfl
  | case5 c cs _ _ _ ih => simp only [List.cons_append, ih]

/-- What is left behind a run is no longer than the text. -/
theorem splitRun_rest_length_le (ends : Char → Bool) (cs : List Char) :
    (splitRun ends cs).2.length ≤ cs.length := by
  conv => rhs; rw [← splitRun_append ends cs, List.length_append]
  exact Nat.le_add_left _ _

/-- A backslash at the very end, with nothing to escape. -/
def dangling : List Char → Bool
  | [] => false
  | ['\\'] => true
  | '\\' :: _ :: cs => dangling cs
  | _ :: cs => dangling cs

/-- Takes a raw run off. -/
def takeRun (ends : Char → Bool) (c : Cursor) : Except Mistake (List Char × Cursor) :=
  let (raw, rest) := splitRun ends c.rest
  if dangling raw then .error ⟨c.offset + byteLength raw.dropLast, .danglingEscape⟩
  else .ok (raw, ⟨c.offset + byteLength raw, rest⟩)

/-- Reads a run as a name. -/
def readRun (ends : Char → Bool) (c : Cursor) : Except Mistake (Name × Cursor) := do
  let (raw, next) ← takeRun ends c
  let name ← Name.read c.offset raw
  return (name, next)

/-- Taking a run off leaves no more to read. -/
theorem takeRun_rest_length_le {ends : Char → Bool} {c next : Cursor} {raw : List Char}
    (h : takeRun ends c = .ok (raw, next)) : next.rest.length ≤ c.rest.length := by
  unfold takeRun at h
  dsimp only at h
  split at h
  · cases h
  · cases h
    exact splitRun_rest_length_le ends c.rest

/-- Reading a run leaves no more to read. -/
theorem readRun_rest_length_le {ends : Char → Bool} {c next : Cursor} {name : Name}
    (h : readRun ends c = .ok (name, next)) : next.rest.length ≤ c.rest.length := by
  unfold readRun at h
  rcases ht : takeRun ends c with e | ⟨raw, next'⟩
  · rw [ht] at h; cases h
  · rw [ht] at h
    change (Name.read c.offset raw >>= fun name => pure (name, next')) = _ at h
    rcases hn : Name.read c.offset raw with e | name'
    · rw [hn] at h; cases h
    · rw [hn] at h
      cases h
      exact takeRun_rest_length_le ht

/-! ### Bracket groups

The brackets that are open are a list of their positions, the innermost first.  At the end of the
path it is the innermost open bracket that is reported. -/

/-- What comes after an item of a group. -/
inductive AfterItem where
  /-- The bracket that closes the outermost open one. -/
  | close (next : Cursor)
  /-- Another item, inside the given open brackets. -/
  | item (inner : Nat) (outer : List Nat) (next : Cursor)
  /-- Neither, although the bracket at the given position is open. -/
  | unclosed (inner : Nat)

/-- Looks at what comes after an item: a comma or an opening bracket announces another item, and
every closing bracket closes the innermost open one. -/
def afterItem (inner : Nat) (outer : List Nat) (offset : Nat) : List Char → AfterItem
  | '[' :: cs => .item offset (inner :: outer) ⟨offset + 1, cs⟩
  | ',' :: cs => .item inner outer ⟨offset + 1, cs⟩
  | ']' :: cs =>
    match outer with
    | [] => .close ⟨offset + 1, cs⟩
    | o :: os => afterItem o os (offset + 1) cs
  | _ => .unclosed inner

/-- In front of another item there is a comma or a bracket, so less is left to read. -/
theorem afterItem_item_length_lt {inner i : Nat} {outer o : List Nat} {offset : Nat}
    {cs : List Char} {next : Cursor} (h : afterItem inner outer offset cs = .item i o next) :
    next.rest.length < cs.length := by
  fun_induction afterItem inner outer offset cs with
  | case1 => cases h; exact Nat.lt_succ_self _
  | case2 => cases h; exact Nat.lt_succ_self _
  | case3 => cases h
  | case4 _ _ _ _ _ ih => exact Nat.lt_succ_of_lt (ih h)
  | case5 => cases h

/-- The bracket that closes a group is read, so less is left to read. -/
theorem afterItem_close_length_lt {inner : Nat} {outer : List Nat} {offset : Nat}
    {cs : List Char} {next : Cursor} (h : afterItem inner outer offset cs = .close next) :
    next.rest.length < cs.length := by
  fun_induction afterItem inner outer offset cs with
  | case1 => cases h
  | case2 => cases h
  | case3 => cases h; exact Nat.lt_succ_self _
  | case4 _ _ _ _ _ ih => exact Nat.lt_succ_of_lt (ih h)
  | case5 => cases h

/-- Reads items up to the bracket that closes the outermost open one. -/
def readItems (inner : Nat) (outer : List Nat) (c : Cursor) :
    Except Mistake (List Name × Cursor) :=
  match hr : readRun endsItem c with
  | .error e => .error e
  | .ok (name, next) =>
    match ha : afterItem inner outer next.offset next.rest with
    | .close last => .ok ([name], last)
    | .item i o following =>
      match readItems i o following with
      | .error e => .error e
      | .ok (names, last) => .ok (name :: names, last)
    | .unclosed position => .error ⟨position, .unclosedBracket⟩
termination_by c.rest.length
decreasing_by
  exact Nat.lt_of_lt_of_le (afterItem_item_length_lt ha) (readRun_rest_length_le hr)

/-- Reading the items of a group leaves less to read, because the closing bracket is read too. -/
theorem readItems_rest_length_lt {inner : Nat} {outer : List Nat} {c last : Cursor}
    {names : List Name} (h : readItems inner outer c = .ok (names, last)) :
    last.rest.length < c.rest.length := by
  fun_induction readItems inner outer c generalizing names last with
  | case1 => cases h
  | case2 inner outer c name next hr last' ha =>
    cases h
    exact Nat.lt_of_lt_of_le (afterItem_close_length_lt ha) (readRun_rest_length_le hr)
  | case3 => cases h
  | case4 inner outer c name next hr i o following ha names' last' hrec ih =>
    cases h
    exact Nat.lt_trans (ih hrec)
      (Nat.lt_of_lt_of_le (afterItem_item_length_lt ha) (readRun_rest_length_le hr))
  | case5 => cases h

/-- Reads the bracket groups of a segment. -/
def readGroups (c : Cursor) : Except Mistake (List (List Name) × Cursor) :=
  match hc : c.rest with
  | '[' :: cs =>
    match h : readItems c.offset [] ⟨c.offset + 1, cs⟩ with
    | .error e => .error e
    | .ok (group, next) =>
      match readGroups next with
      | .error e => .error e
      | .ok (groups, last) => .ok (group :: groups, last)
  | _ => .ok ([], c)
termination_by c.rest.length
decreasing_by
  rw [hc]
  exact Nat.lt_succ_of_lt (readItems_rest_length_lt h)

/-- Reads the base of a segment. -/
def readBase (c : Cursor) : Except Mistake (Name × Cursor) :=
  match c.rest with
  | '(' :: cs => do
    let (raw, next) ← takeRun (· == ')') ⟨c.offset + 1, cs⟩
    match next.rest with
    | ')' :: rest => do
      let name ← Name.read (c.offset + 1) raw
      return (name, ⟨next.offset + 1, rest⟩)
    | _ => .error ⟨c.offset, .unclosedParenthesis⟩
  | _ => readRun endsBase c

/-- Reads the separator behind a segment, or finds the end of the path. -/
def readSeparator (c : Cursor) : Except Mistake (Option (Separator × Cursor)) :=
  match c.rest with
  | [] => .ok none
  | '.' :: cs => .ok (some (.dot, ⟨c.offset + 1, cs⟩))
  | ',' :: cs => .ok (some (.comma, ⟨c.offset + 1, cs⟩))
  | '(' :: _ => .error ⟨c.offset, .unexpectedParenthesis⟩
  | ')' :: _ => .error ⟨c.offset, .unmatchedParenthesis⟩
  | ']' :: _ => .error ⟨c.offset, .unmatchedBracket⟩
  | _ :: _ => .error ⟨c.offset, .missingSeparator⟩

/-- Reads a segment.  A cursor is returned if a separator promises another one. -/
def readSegment (c : Cursor) : Except Mistake (Segment × Option Cursor) := do
  let (base, afterBase) ← readBase c
  let (groups, afterGroups) ← readGroups afterBase
  match ← readSeparator afterGroups with
  | none => return (⟨base, groups, none⟩, none)
  | some (separator, next) => return (⟨base, groups, some separator⟩, some next)

/-- Reading groups leaves no more to read. There may be none. -/
theorem readGroups_rest_length_le {c last : Cursor} {groups : List (List Name)}
    (h : readGroups c = .ok (groups, last)) : last.rest.length ≤ c.rest.length := by
  fun_induction readGroups c generalizing groups last with
  | case1 => cases h
  | case2 => cases h
  | case3 c cs hc group next hr groups' last' hg ih =>
    cases h
    have hi := readItems_rest_length_lt hr
    have hl := ih hg
    dsimp only at hi
    rw [hc, List.length_cons]
    omega
  | case4 => cases h; exact Nat.le_refl _

/-- Reading a base leaves no more to read. It may be empty. -/
theorem readBase_rest_length_le {c next : Cursor} {name : Name}
    (h : readBase c = .ok (name, next)) : next.rest.length ≤ c.rest.length := by
  unfold readBase at h
  split at h
  · next cs hc =>
    rcases ht : takeRun (· == ')') ⟨c.offset + 1, cs⟩ with e | ⟨raw, after⟩
    · rw [ht] at h; cases h
    · rw [ht] at h
      have hle := takeRun_rest_length_le ht
      dsimp only [bind, Except.bind] at h
      split at h
      · next rest hrest =>
        rcases hn : Name.read (c.offset + 1) raw with e | name'
        · rw [hn] at h; cases h
        · rw [hn] at h
          cases h
          rw [hrest] at hle
          rw [hc]
          simp only [List.length_cons] at hle ⊢
          omega
      · cases h
  · exact readRun_rest_length_le h

/-- A separator that is read leaves less to read. -/
theorem readSeparator_rest_length_lt {c next : Cursor} {separator : Separator}
    (h : readSeparator c = .ok (some (separator, next))) :
    next.rest.length < c.rest.length := by
  unfold readSeparator at h
  split at h <;> cases h <;> next hc => rw [hc]; exact Nat.lt_succ_self _

/-- A segment with a separator behind it leaves less to read, so the segments of a path come to an
end. -/
theorem readSegment_rest_length_lt {c next : Cursor} {s : Segment}
    (h : readSegment c = .ok (s, some next)) : next.rest.length < c.rest.length := by
  unfold readSegment at h
  rcases hb : readBase c with e | ⟨base, afterBase⟩
  · rw [hb] at h; cases h
  rw [hb] at h
  dsimp only [bind, Except.bind] at h
  rcases hg : readGroups afterBase with e | ⟨groups, afterGroups⟩
  · rw [hg] at h; cases h
  rw [hg] at h
  dsimp only at h
  rcases hs : readSeparator afterGroups with e | _ | ⟨separator, after⟩
  · rw [hs] at h; cases h
  · rw [hs] at h; cases h
  · rw [hs] at h
    cases h
    have := readBase_rest_length_le hb
    have := readGroups_rest_length_le hg
    have := readSeparator_rest_length_lt hs
    omega

/-- The segments from a cursor on.  A malformed segment ends the list. -/
def segmentsFrom (c : Cursor) : List (Except Mistake Segment) :=
  match h : readSegment c with
  | .error e => [.error e]
  | .ok (s, none) => [.ok s]
  | .ok (s, some next) => .ok s :: segmentsFrom next
termination_by c.rest.length
decreasing_by exact readSegment_rest_length_lt h

/-- The segments of a path.  If the path is malformed, the last item says so. -/
def segments (path : String) : List (Except Malformed Segment) :=
  (segmentsFrom ⟨0, path.toList⟩).map (Except.mapError (⟨path, ·⟩))

/-- The navigation steps of a path, empty names included. -/
def steps (path : String) : Except Malformed (List Name) := do
  let segments ← (segments path).mapM id
  return segments.flatMap Segment.steps

end Path
end BeanPath
