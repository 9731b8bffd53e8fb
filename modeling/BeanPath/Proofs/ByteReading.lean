import BeanPath.Proofs.Bytes

/-!
# Reading by byte positions

The grammar of paths once more, read with a byte position as the only state.  Escaped characters
are passed over in a scan by the length of the character behind the backslash, and names are cut
out of the path with slices that may fail.  Positions only grow, which is why the reading ends.  The
iteration over the segments keeps where the next segment starts until it is over.
-/

namespace BeanPath

-- Hypotheses that only a termination proof uses count as unused.
set_option linter.unusedVariables false

namespace Path
namespace Bytes

/-- The bytes that end the base of a segment. -/
def baseStops : List UInt8 := ['.', ',', '(', ')', '[', ']'].map ascii

/-- The bytes that end an item of a group. -/
def itemStops : List UInt8 := [',', '[', ']'].map ascii

/-- The position of the first byte of a kind that is not escaped. -/
def findUnescaped (s : String) (target : UInt8) (i : Nat) : Option Nat :=
  match h : byte? s i with
  | none => none
  | some b =>
    if b = ascii '\\' then findUnescaped s target (i + 2)
    else if b = target then some i
    else findUnescaped s target (i + 1)
termination_by s.utf8ByteSize - i
decreasing_by all_goals have := lt_of_byte? h; omega

section

variable {s : String} {target b : UInt8} {i : Nat}

/-- Behind the last byte there is nothing left to find. -/
theorem findUnescaped_none (h : byte? s i = none) : findUnescaped s target i = none := by
  rw [findUnescaped]
  split
  · rfl
  · next h' => cases h.symm.trans h'

/-- One step of the search: it goes two bytes on at a backslash, stops at the byte it looks for and
goes one byte on at every other. -/
theorem findUnescaped_some (h : byte? s i = some b) :
    findUnescaped s target i =
      if b = ascii '\\' then findUnescaped s target (i + 2)
      else if b = target then some i
      else findUnescaped s target (i + 1) := by
  conv => lhs; rw [findUnescaped]
  split
  · next h' => cases h.symm.trans h'
  · next h' => cases h.symm.trans h'; rfl

end

variable (path : String)

/-- Stops with a mistake at a byte position. -/
def mistake (offset : Nat) (cause : Malformation) : Halt := .malformed ⟨path, offset, cause⟩

/-- The position of the first of some bytes that is not escaped, or the end of the path. -/
def scan (stops : List UInt8) (pos : Nat) : Except Halt Nat :=
  match h : byte? path pos with
  | none => .ok pos
  | some b =>
    if b = ascii '\\' then
      if path.utf8ByteSize ≤ pos + 1 then .error (mistake path pos .danglingEscape)
      else
        match slice path (pos + 1) path.utf8ByteSize with
        | .error e => .error e
        | .ok rest => scan stops (pos + 1 + rest.toList.head?.elim 1 Char.utf8Size)
    else if stops.contains b then .ok pos
    else scan stops (pos + 1)
termination_by path.utf8ByteSize - pos
decreasing_by all_goals have := lt_of_byte? h; omega

section

variable {stops : List UInt8} {pos : Nat} {b : UInt8}

/-- A scan that has come to the end of the path stops there. -/
theorem scan_none (h : byte? path pos = none) : scan path stops pos = .ok pos := by
  rw [scan]
  split
  · rfl
  · next h' => cases h.symm.trans h'

/-- One step of a scan: at a backslash it goes on behind the character that follows, or fails if
none does; else it stops at a byte it was told of and goes one byte on at every other. -/
theorem scan_some (h : byte? path pos = some b) :
    scan path stops pos =
      if b = ascii '\\' then
        if path.utf8ByteSize ≤ pos + 1 then .error (mistake path pos .danglingEscape)
        else do
          let rest ← slice path (pos + 1) path.utf8ByteSize
          scan path stops (pos + 1 + rest.toList.head?.elim 1 Char.utf8Size)
      else if stops.contains b then .ok pos
      else scan path stops (pos + 1) := by
  conv => lhs; rw [scan]
  split
  · next h' => cases h.symm.trans h'
  · next h' =>
    cases h.symm.trans h'
    cases slice path (pos + 1) path.utf8ByteSize <;> rfl

end

/-- Reads what stands between two byte positions as a name. -/
def readName (start stop : Nat) : Except Halt Name := do
  let raw ← slice path start stop
  match findUnescaped raw (ascii '=') 0 with
  | none => return ⟨String.ofList (Name.unescape raw.toList), none, raw == "*", start⟩
  | some eq =>
    let q := Text.trim (← slice raw 0 eq).toList
    if q.isEmpty then .error (mistake path start .emptyQualifier)
    else
      let text ← slice raw (eq + 1) raw.utf8ByteSize
      return ⟨String.ofList (Name.unescape text.toList),
        some (String.ofList (Name.unescape q)), text == "*", start⟩

/-- Reads a run as a name. -/
def readRun (stops : List UInt8) (pos : Nat) : Except Halt (Name × Nat) := do
  let stop ← scan path stops pos
  let name ← readName path pos stop
  return (name, stop)

/-- A scan never goes back. -/
theorem le_of_scan {stops : List UInt8} {pos stop : Nat} (h : scan path stops pos = .ok stop) :
    pos ≤ stop := by
  fun_induction scan path stops pos with
  | case1 => cases h; exact Nat.le_refl _
  | case2 => cases h
  | case3 => cases h
  | case4 pos _ rest _ _ ih =>
    have := ih h
    omega
  | case5 => cases h; exact Nat.le_refl _
  | case6 pos b _ _ _ ih => exact (Nat.le_succ _).trans (ih h)

/-- Reading a run never goes back; the run may be empty, though, and then it does not go on
either. -/
theorem le_of_readRun {stops : List UInt8} {pos next : Nat} {name : Name}
    (h : readRun path stops pos = .ok (name, next)) : pos ≤ next := by
  unfold readRun at h
  cases hs : scan path stops pos with
  | error e => rw [hs] at h; cases h
  | ok stop =>
    rw [hs] at h
    change (readName path pos stop >>= fun name => pure (name, stop)) = _ at h
    cases hn : readName path pos stop with
    | error e => rw [hn] at h; cases h
    | ok name =>
      rw [hn] at h
      cases h
      exact le_of_scan path hs

/-- What comes after an item of a group, by its position. -/
inductive AfterItem where
  | close (next : Nat)
  | item (inner : Nat) (outer : List Nat) (next : Nat)
  | unclosed (inner : Nat)

/-- Looks at what comes after an item. -/
def afterItem (inner : Nat) (outer : List Nat) (pos : Nat) : AfterItem :=
  if byte? path pos = some (ascii '[') then .item pos (inner :: outer) (pos + 1)
  else if byte? path pos = some (ascii ',') then .item inner outer (pos + 1)
  else if byte? path pos = some (ascii ']') then
    match outer with
    | [] => .close (pos + 1)
    | o :: os => afterItem o os (pos + 1)
  else .unclosed inner

/-- If another item follows, it starts further on and not behind the end of the path, so there are
fewer bytes left to read. -/
theorem lt_of_afterItem_item {inner i pos next : Nat} {outer o : List Nat}
    (h : afterItem path inner outer pos = .item i o next) :
    pos < next ∧ next ≤ path.utf8ByteSize := by
  fun_induction afterItem path inner outer pos with
  | case1 inner outer pos hb => cases h; exact ⟨Nat.lt_succ_self _, lt_of_byte? hb⟩
  | case2 inner outer pos _ hb => cases h; exact ⟨Nat.lt_succ_self _, lt_of_byte? hb⟩
  | case3 => cases h
  | case4 inner pos _ _ _ o os ih =>
    exact ⟨(Nat.lt_succ_self pos).trans (ih h).1, (ih h).2⟩
  | case5 => cases h

/-- The bracket that closes a group is passed over. -/
theorem lt_of_afterItem_close {inner pos next : Nat} {outer : List Nat}
    (h : afterItem path inner outer pos = .close next) : pos < next := by
  fun_induction afterItem path inner outer pos with
  | case1 => cases h
  | case2 => cases h
  | case3 => cases h; exact Nat.lt_succ_self _
  | case4 inner pos _ _ _ o os ih => exact (Nat.lt_succ_self pos).trans (ih h)
  | case5 => cases h

/-- Reads items up to the bracket that closes the outermost open one. -/
def readItems (inner : Nat) (outer : List Nat) (pos : Nat) : Except Halt (List Name × Nat) :=
  match hr : readRun path itemStops pos with
  | .error e => .error e
  | .ok (name, next) =>
    match ha : afterItem path inner outer next with
    | .close last => .ok ([name], last)
    | .item i o following =>
      match readItems i o following with
      | .error e => .error e
      | .ok (names, last) => .ok (name :: names, last)
    | .unclosed position => .error (mistake path position .unclosedBracket)
termination_by path.utf8ByteSize - pos
decreasing_by
  have := le_of_readRun path hr
  have := lt_of_afterItem_item path ha
  omega

/-- The items of a group take up at least the bracket that closes it, even if every one of them is
empty. -/
theorem lt_of_readItems {inner pos last : Nat} {outer : List Nat} {names : List Name}
    (h : readItems path inner outer pos = .ok (names, last)) : pos < last := by
  fun_induction readItems path inner outer pos generalizing names last with
  | case1 => cases h
  | case2 inner outer pos name next hr last' ha =>
    cases h
    exact (le_of_readRun path hr).trans_lt (lt_of_afterItem_close path ha)
  | case3 => cases h
  | case4 inner outer pos name next hr i o following ha names' last' hrec ih =>
    cases h
    exact (le_of_readRun path hr).trans_lt ((lt_of_afterItem_item path ha).1.trans (ih hrec))
  | case5 => cases h

section

variable {inner pos next : Nat} {outer : List Nat} {name : Name} {e : Halt}

/-- If the first item cannot be read, neither can the group. -/
theorem readItems_error (h : readRun path itemStops pos = .error e) :
    readItems path inner outer pos = .error e := by
  rw [readItems]
  split
  · next h' => rw [h] at h'; cases h'; rfl
  · next h' => cases h.symm.trans h'

/-- Behind an item that could be read, the group goes on as the bytes behind it say: it ends, it has
another item, or it is never closed. -/
theorem readItems_ok (h : readRun path itemStops pos = .ok (name, next)) :
    readItems path inner outer pos =
      match afterItem path inner outer next with
      | .close last => .ok ([name], last)
      | .item i o following =>
        (readItems path i o following).map fun (names, last) => (name :: names, last)
      | .unclosed position => .error (mistake path position .unclosedBracket) := by
  conv => lhs; rw [readItems]
  split
  · next h' => cases h.symm.trans h'
  · next h' =>
    cases h.symm.trans h'
    split
    · next ha => rw [ha]
    · next i o following ha =>
      rw [ha]
      dsimp only
      cases readItems path i o following <;> rfl
    · next ha => rw [ha]

end

/-- Reads the bracket groups of a segment. -/
def readGroups (pos : Nat) : Except Halt (List (List Name) × Nat) :=
  if hb : byte? path pos = some (ascii '[') then
    match h : readItems path pos [] (pos + 1) with
    | .error e => .error e
    | .ok (group, next) =>
      match readGroups next with
      | .error e => .error e
      | .ok (groups, last) => .ok (group :: groups, last)
  else .ok ([], pos)
termination_by path.utf8ByteSize - pos
decreasing_by
  have := lt_of_byte? hb
  have := lt_of_readItems path h
  omega

section

variable {pos : Nat}

/-- Without an opening bracket there is no group. -/
theorem readGroups_none (h : byte? path pos ≠ some (ascii '[')) :
    readGroups path pos = .ok ([], pos) := by
  rw [readGroups, dif_neg h]

/-- An opening bracket starts a group, and others may follow behind the bracket that closes it. -/
theorem readGroups_open (h : byte? path pos = some (ascii '[')) :
    readGroups path pos = do
      let (group, next) ← readItems path pos [] (pos + 1)
      let (groups, last) ← readGroups path next
      return (group :: groups, last) := by
  conv => lhs; rw [readGroups, dif_pos h]
  split
  · next hr => rw [hr]; rfl
  · next group next hr =>
    rw [hr]
    change _ = readGroups path next >>= _
    cases readGroups path next <;> rfl

end

/-- Reads the base of a segment. -/
def readBase (pos : Nat) : Except Halt (Name × Nat) :=
  if byte? path pos = some (ascii '(') then do
    let stop ← scan path [ascii ')'] (pos + 1)
    if byte? path stop = some (ascii ')') then
      let name ← readName path (pos + 1) stop
      return (name, stop + 1)
    else .error (mistake path pos .unclosedParenthesis)
  else readRun path baseStops pos

/-- Reads the separator behind a segment, or finds the end of the path. -/
def readSeparator (pos : Nat) : Except Halt (Option (Separator × Nat)) :=
  match byte? path pos with
  | none => .ok none
  | some b =>
    if b = ascii '.' then .ok (some (.dot, pos + 1))
    else if b = ascii ',' then .ok (some (.comma, pos + 1))
    else if b = ascii '(' then .error (mistake path pos .unexpectedParenthesis)
    else if b = ascii ')' then .error (mistake path pos .unmatchedParenthesis)
    else if b = ascii ']' then .error (mistake path pos .unmatchedBracket)
    else .error (mistake path pos .missingSeparator)

/-- Reads a segment.  A position is returned if a separator promises another one. -/
def readSegment (pos : Nat) : Except Halt (Segment × Option Nat) := do
  let (base, afterBase) ← readBase path pos
  let (groups, afterGroups) ← readGroups path afterBase
  match ← readSeparator path afterGroups with
  | none => return (⟨base, groups, none⟩, none)
  | some (separator, next) => return (⟨base, groups, some separator⟩, some next)

/-- One step of the iteration: an item, or nothing, and where the next segment starts unless the
iteration is over. -/
def next : Option Nat → Option (Except Halt Segment) × Option Nat
  | none => (none, none)
  | some pos =>
    match readSegment path pos with
    | .error e => (some (.error e), none)
    | .ok (s, following) => (some (.ok s), following)

/-- What a step of the iteration gives after a number of other steps. -/
def call (state : Option Nat) : Nat → Option (Except Halt Segment)
  | 0 => (next path state).1
  | k + 1 => call (next path state).2 k

end Bytes
end Path
end BeanPath
