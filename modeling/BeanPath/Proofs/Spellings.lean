import BeanPath.Proofs.Modes

/-!
# One property, two spellings

A property whose name is made of several words is asked for in camel case or in snake case.  The
snake spelling of the camel case is the snake case: behind a small letter or a digit a capital opens
a new word, and a word of two characters always ends in one of these (`Spelling.snake_camelCase`).
So both queries try the same candidates, but for the camel case itself
(`Spelling.filter_candidates_snake`), and where no member has that name, every level has the same
for both (`Query.atLevel_spelled`).
-/

namespace BeanPath

namespace Spelling

/-! ### Words -/

/-- A word of small ASCII letters and digits, with a letter in front. -/
structure Word where
  initial : Char
  rest : List Char
  initial_isLower : initial.isLower = true
  rest_small : ∀ c ∈ rest, c.isLower = true ∨ c.isDigit = true

namespace Word

/-- The characters of a word. -/
def chars (w : Word) : List Char := w.initial :: w.rest

/-- The characters of a word with a capital in front. -/
def capitalized (w : Word) : List Char := w.initial.toUpper :: w.rest

end Word

/-- Words in camel case: all but the first are capitalized. -/
def camelCase : List Word → String
  | [] => ""
  | w :: ws => String.ofList (w.chars ++ ws.flatMap Word.capitalized)

/-- Words in snake case, with low lines between them. -/
def snakeCase (ws : List Word) : String := String.ofList (['_'].intercalate (ws.map Word.chars))

/-- Only the first and the last of the words may be a single letter. -/
def Separable (ws : List Word) : Prop := ∀ w ∈ ws.tail.dropLast, w.rest ≠ []

instance (ws : List Word) : Decidable (Separable ws) := inferInstanceAs (Decidable (∀ w ∈ _, _))

/-! ### Snake spellings -/

variable {c : Char} {cs ds : List Char} {b : Bool}

/-- The small letters of ASCII are in one range. -/
theorem toNat_of_isLower (h : c.isLower = true) : 97 ≤ c.toNat ∧ c.toNat ≤ 122 := by
  have h : (decide (c.val ≥ 'a'.val) && decide (c.val ≤ 'z'.val)) = true := h
  simpa [UInt32.le_iff_toNat_le] using h

/-- The capitals of ASCII are in one range. -/
theorem toNat_of_isUpper (h : c.isUpper = true) : 65 ≤ c.toNat ∧ c.toNat ≤ 90 := by
  have h : decide (c.val ≥ 'A'.val ∧ c.val ≤ 'Z'.val) = true := h
  simpa [UInt32.le_iff_toNat_le] using h

/-- The digits of ASCII are in one range. -/
theorem toNat_of_isDigit (h : c.isDigit = true) : 48 ≤ c.toNat ∧ c.toNat ≤ 57 := by
  simpa [Char.isDigit, UInt32.le_iff_toNat_le] using h

/-- There are 26 small letters, so that facts about them can be checked one by one. -/
theorem exists_of_isLower (h : c.isLower = true) : ∃ n < 26, c = Char.ofNat (97 + n) := by
  obtain ⟨hl, hu⟩ := toNat_of_isLower h
  refine ⟨c.toNat - 97, by omega, ?_⟩
  rw [Nat.add_sub_cancel' hl, Char.ofNat_toNat]

/-- The capital of a small letter counts as one in the text tables. -/
theorem isUpper_toUpper (h : c.isLower = true) : Text.isUpper c.toUpper = true := by
  obtain ⟨n, hn, rfl⟩ := exists_of_isLower h
  revert n
  decide

/-- The capital of a small letter is lowered to that letter. -/
theorem lowered_toUpper (h : c.isLower = true) : Text.lowered c.toUpper = [c] := by
  obtain ⟨n, hn, rfl⟩ := exists_of_isLower h
  revert n
  decide

/-- Small letters and digits are small, and no capitals. -/
theorem small_of (h : c.isLower = true ∨ c.isDigit = true) :
    Text.isUpper c = false ∧ (Text.isLower c || c.isDigit) = true := by
  have hlt : c.toNat < 0x80 := by
    rcases h with h | h
    · have := toNat_of_isLower h
      omega
    · have := toNat_of_isDigit h
      omega
  have hu : c.isUpper = false := by
    rw [← Bool.not_eq_true]
    intro hu
    have hu := toNat_of_isUpper hu
    rcases h with h | h
    · have := toNat_of_isLower h
      omega
    · have := toNat_of_isDigit h
      omega
  unfold Text.isUpper Text.isLower
  rw [if_pos hlt, if_pos hlt]
  exact ⟨hu, by simpa using h⟩

/-- A text without capitals is its own snake spelling. -/
theorem snakeFrom_of_not_isUpper (h : ∀ c ∈ cs, Text.isUpper c = false) :
    snakeFrom b cs = cs := by
  induction cs generalizing b with
  | nil => rfl
  | cons c cs ih =>
    obtain ⟨hc, hcs⟩ := List.forall_mem_cons.1 h
    rw [snakeFrom, if_neg (by rw [hc]; exact Bool.false_ne_true), ih hcs]

/-- Small letters and digits stay, and there is one in front of what follows. -/
theorem snakeFrom_small_append (h : ∀ c ∈ cs, c.isLower = true ∨ c.isDigit = true)
    (hne : cs ≠ []) : snakeFrom b (cs ++ ds) = cs ++ snakeFrom true ds := by
  induction cs generalizing b with
  | nil => exact absurd rfl hne
  | cons c cs ih =>
    obtain ⟨hc, hcs⟩ := List.forall_mem_cons.1 h
    obtain ⟨hu, hs⟩ := small_of hc
    rw [List.cons_append, snakeFrom, if_neg (by rw [hu]; exact Bool.false_ne_true), hs]
    cases cs with
    | nil => rfl
    | cons d cs =>
      rw [ih hcs (List.cons_ne_nil d cs)]
      rfl

namespace Word

/-- A word is made of small letters and digits. -/
theorem chars_small (w : Word) : ∀ c ∈ w.chars, c.isLower = true ∨ c.isDigit = true :=
  List.forall_mem_cons.2 ⟨.inl w.initial_isLower, w.rest_small⟩

/-- Behind a small letter or a digit, a capital opens a new word. -/
theorem snakeFrom_capitalized_append (w : Word) (h : w.rest ≠ []) :
    snakeFrom true (w.capitalized ++ ds) = '_' :: w.chars ++ snakeFrom true ds := by
  rw [capitalized, List.cons_append, snakeFrom, if_pos (isUpper_toUpper w.initial_isLower),
    lowered_toUpper w.initial_isLower, snakeFrom_small_append w.rest_small h]
  rfl

/-- The last word may be a single capital. -/
theorem snakeFrom_capitalized (w : Word) : snakeFrom true w.capitalized = '_' :: w.chars := by
  rw [capitalized, snakeFrom, if_pos (isUpper_toUpper w.initial_isLower),
    lowered_toUpper w.initial_isLower,
    snakeFrom_of_not_isUpper fun c hc => (small_of (w.rest_small c hc)).1]
  rfl

end Word

variable {ws : List Word}

/-- Capitalized words come out with a low line in front of each, if none but the last is a single
letter. -/
theorem snakeFrom_flatMap_capitalized (h : ∀ w ∈ ws.dropLast, w.rest ≠ []) :
    snakeFrom true (ws.flatMap Word.capitalized) = ws.flatMap fun w => '_' :: w.chars := by
  induction ws with
  | nil => rfl
  | cons w ws ih =>
    cases ws with
    | nil => simpa using w.snakeFrom_capitalized
    | cons v ws =>
      obtain ⟨hw, hws⟩ := List.forall_mem_cons.1 (List.dropLast_cons_cons ▸ h)
      rw [List.flatMap_cons, w.snakeFrom_capitalized_append hw, ih hws]
      rfl

/-- Low lines between words are low lines in front of all words but the first. -/
theorem intercalate_chars (w : Word) (ws : List Word) :
    ['_'].intercalate ((w :: ws).map Word.chars) =
      w.chars ++ ws.flatMap fun v => '_' :: v.chars := by
  induction ws generalizing w with
  | nil => simp [List.intercalate]
  | cons v ws ih =>
    rw [List.map_cons, List.map_cons, List.intercalate_cons_cons, ← List.map_cons, ih,
      List.flatMap_cons]
    simp

/-- **The snake spelling of the camel case is the snake case.** -/
theorem snake_camelCase (h : Separable ws) : snake (camelCase ws) = snakeCase ws := by
  cases ws with
  | nil => rfl
  | cons w ws =>
    have hrest : snakeFrom true (ws.flatMap Word.capitalized) = _ := snakeFrom_flatMap_capitalized h
    rw [camelCase, snakeCase, snake, String.toList_ofList, intercalate_chars,
      snakeFrom_small_append w.chars_small (List.cons_ne_nil _ _), hrest]

-- A single letter between two words gives a run of capitals, which is one word.
example : snake "aBC" = "a_bc" := by decide

/-- There are no capitals in snake case. -/
theorem isUpper_of_mem_snakeCase {ws : List Word} :
    ∀ c ∈ (snakeCase ws).toList, Text.isUpper c = false := by
  intro c hc
  cases ws with
  | nil => cases hc
  | cons w ws =>
    rw [snakeCase, String.toList_ofList, intercalate_chars] at hc
    rcases List.mem_append.1 hc with hc | hc
    · exact (small_of (w.chars_small c hc)).1
    · obtain ⟨v, -, hc⟩ := List.mem_flatMap.1 hc
      rcases List.mem_cons.1 hc with rfl | hc
      · decide
      · exact (small_of (v.chars_small c hc)).1

/-- A name without capitals is its own snake spelling. -/
theorem snake_of_not_isUpper {name : String} (h : ∀ c ∈ name.toList, Text.isUpper c = false) :
    snake name = name := by
  rw [snake, snakeFrom_of_not_isUpper h, String.ofList_toList]

/-- What starts with a word is no star. -/
theorem ne_star_of_word {name : String} {w : Word} (h : name.toList = w.chars ++ cs) :
    name ≠ "*" := by
  rintro rfl
  have hc : w.initial = '*' := (List.cons.inj h).1.symm
  have hl := w.initial_isLower
  rw [hc] at hl
  cases hl

/-- No property in camel case is a star. -/
theorem camelCase_ne_star (ws : List Word) : camelCase ws ≠ "*" := by
  cases ws with
  | nil => decide
  | cons w ws => exact ne_star_of_word String.toList_ofList

/-- No property in snake case is a star. -/
theorem snakeCase_ne_star (ws : List Word) : snakeCase ws ≠ "*" := by
  cases ws with
  | nil => decide
  | cons w ws => exact ne_star_of_word (String.toList_ofList.trans (intercalate_chars w ws))

/-! ### Candidates -/

section

variable {keep : Candidate → Bool} (hkeep : ∀ c d, c.name = d.name → keep c = keep d)

include hkeep

/-- A selection by names goes through the repetitions. -/
theorem filter_addCandidate (cs : List Candidate) (c : Candidate) :
    (addCandidate cs c).filter keep =
      if keep c then addCandidate (cs.filter keep) c else cs.filter keep := by
  have hany (hk : keep c = true) :
      (cs.filter keep).any (·.name == c.name) = cs.any (·.name == c.name) := by
    rw [List.any_filter]
    congr 1
    funext d
    cases hd : d.name == c.name with
    | false => rw [Bool.and_false]
    | true => rw [hkeep d c (beq_iff_eq.1 hd), hk, Bool.and_true]
  unfold addCandidate
  by_cases hk : keep c = true
  · rw [if_pos hk, hany hk]
    split
    · rfl
    · rw [List.filter_append, List.filter_cons_of_pos hk, List.filter_nil]
  · rw [if_neg hk]
    split
    · rfl
    · rw [List.filter_append, List.filter_cons_of_neg hk, List.filter_nil, List.append_nil]

/-- Selecting by names may be done before candidates are put together or after it. -/
theorem filter_foldl_addCandidate (cs new : List Candidate) :
    (new.foldl addCandidate cs).filter keep =
      (new.filter keep).foldl addCandidate (cs.filter keep) := by
  induction new generalizing cs with
  | nil => rfl
  | cons c new ih =>
    rw [List.foldl_cons, ih, filter_addCandidate hkeep]
    by_cases hk : keep c = true
    · rw [if_pos hk, List.filter_cons_of_pos hk, List.foldl_cons]
    · rw [if_neg hk, List.filter_cons_of_neg hk]

end

/-- A candidate that is there already is not added again. -/
theorem addCandidate_addCandidate (cs : List Candidate) (c : Candidate) :
    addCandidate (addCandidate cs c) c = addCandidate cs c := by
  have hmem : (addCandidate cs c).any (·.name == c.name) = true := by
    unfold addCandidate
    split
    · next h => exact h
    · simp
  rw [addCandidate, if_pos hmem]

/-- Whether a candidate has another name than the given one. -/
def differs (name : String) (c : Candidate) : Bool := c.name != name

/-- A name and its snake spelling have the same candidates, but for the name itself. -/
theorem filter_candidates_snake {role : Role} {mode : Mode} {name : String}
    (hm : mode.usesConventions = true) (hs : snake (snake name) = snake name) :
    (candidates role mode name).filter (differs name) =
      (candidates role mode (snake name)).filter (differs name) := by
  by_cases hname : snake name = name
  · rw [hname]
  · have hkeep (c d : Candidate) (h : c.name = d.name) : differs name c = differs name d := by
      rw [differs, differs, h]
    have hdrop : ¬ differs name { name } = true := by simp [differs]
    have hk : differs name { name := snake name } = true := by simpa [differs] using hname
    unfold candidates spellings
    rw [if_pos hm, if_pos hm, hs, filter_foldl_addCandidate hkeep, filter_foldl_addCandidate hkeep]
    simp only [List.filter_cons_of_neg hdrop, List.filter_cons_of_pos hk, List.foldl_cons,
      addCandidate_addCandidate]

end Spelling

/-! ### Lookups -/

namespace Query

variable {S : Schema} {q : Query}

/-- The query with another name. -/
def spelled (q : Query) (name : String) : Query := { q with name }

/-- A candidate finds nothing if nothing is declared under its name. -/
theorem candidateOf?_eq_none {b : Bean} {c : Candidate}
    (h : ∀ d ∈ b.declarations q.role, d.name ≠ c.name) : q.candidateOf? b c = none := by
  have hnone : b.declaration? q.role c.name = none :=
    List.find?_eq_none.2 fun d hd => by simpa using h d hd
  unfold candidateOf?
  rw [hnone, Option.filter_none]

/-- A candidate under whose name nothing is declared may be left out. -/
theorem filterMap_candidateOf?_filter {b : Bean} {name : String}
    (h : ∀ d ∈ b.declarations q.role, d.name ≠ name) (cs : List Candidate) :
    (cs.filter (Spelling.differs name)).filterMap (q.candidateOf? b) =
      cs.filterMap (q.candidateOf? b) := by
  rw [List.filterMap_filter]
  congr 1
  funext c
  by_cases hc : c.name = name
  · rw [candidateOf?_eq_none fun d hd => hc ▸ h d hd, ite_self]
  · rw [if_pos (by simpa [Spelling.differs] using hc)]

/-- Where nothing is declared under the name as it is asked for, the snake spelling matches the
same. -/
theorem atLevel_spelled {l : Level} (hm : q.mode.usesConventions = true)
    (hs : Spelling.snake (Spelling.snake q.name) = Spelling.snake q.name) (hq : ¬ q.Star)
    (hq' : ¬ (q.spelled (Spelling.snake q.name)).Star)
    (h : ∀ d ∈ l.bean.declarations q.role, d.name ≠ q.name) :
    (q.spelled (Spelling.snake q.name)).atLevel S l = q.atLevel S l := by
  have hc := @Spelling.filter_candidates_snake q.role q.mode q.name hm hs
  have hf := congrArg (List.filterMap (q.candidateOf? l.bean)) hc
  rw [filterMap_candidateOf?_filter h, filterMap_candidateOf?_filter h] at hf
  have hfound : (q.spelled (Spelling.snake q.name)).found S l = q.found S l := by
    rw [found_eq, found_eq, matching_of_not_star hq, matching_of_not_star hq', hf]
    rfl
  rw [atLevel_of_clear fun hs => absurd hs hq, atLevel_of_clear fun hs => absurd hs hq', hfound]

/-- Two queries that find the same at every level find the same members. -/
theorem everywhere_congr {q' : Query} {ls : List Level}
    (h : ∀ l ∈ ls, q.atLevel S l = q'.atLevel S l) : q.everywhere S ls = q'.everywhere S ls := by
  induction ls with
  | nil => rfl
  | cons l ls ih =>
    obtain ⟨hl, hls⟩ := List.forall_mem_cons.1 h
    rw [everywhere, everywhere, hl, ih hls]

end Query

namespace Schema

variable {S : Schema} {owner : Ty} {role : Role} {mode : Mode} {expected : Option Ty}
  {relation : Option Relation}

/-- **Both spellings of a property find the same**, by convention and unless a member of the role
has the camel case as its own name: the nearest member and all members. -/
theorem spellings_find_the_same {words : List Spelling.Word} (hw : Spelling.Separable words)
    (hm : mode = .auto ∨ mode = .typed) (ht : mode = .typed → expected.isSome = true)
    (hno : ∀ l ∈ S.levels owner, ∀ d ∈ l.bean.declarations role,
      d.name ≠ Spelling.camelCase words) :
    let asked (name : String) : Query := { role, name, expected, mode, relation }
    (∃ found, S.member? (asked (Spelling.camelCase words)) owner = .ok found ∧
      S.member? (asked (Spelling.snakeCase words)) owner = .ok found) ∧
    ∃ all, S.members (asked (Spelling.camelCase words)) owner = .ok all ∧
      S.members (asked (Spelling.snakeCase words)) owner = .ok all := by
  intro asked
  have hconv : mode.usesConventions = true := by
    rcases hm with rfl | rfl <;> rfl
  have htyped (name : String) : (asked name).check = .ok () := by
    refine Query.check_of_typed fun hr => ht ?_
    rcases hm with rfl | rfl
    · cases hr
    · rfl
  have hcamel : ¬ (asked (Spelling.camelCase words)).Star :=
    fun h => Spelling.camelCase_ne_star words h.1
  have hsnake : ¬ (asked (Spelling.snakeCase words)).Star :=
    fun h => Spelling.snakeCase_ne_star words h.1
  have hspell := Spelling.snake_camelCase hw
  have hstay : Spelling.snake (Spelling.snakeCase words) = Spelling.snakeCase words :=
    Spelling.snake_of_not_isUpper Spelling.isUpper_of_mem_snakeCase
  have hlevel (l : Level) (hl : l ∈ S.levels owner) :
      (asked (Spelling.snakeCase words)).atLevel S l =
        (asked (Spelling.camelCase words)).atLevel S l := by
    have h := Query.atLevel_spelled (S := S) (q := asked (Spelling.camelCase words)) (l := l) hconv
    dsimp only [asked, Query.spelled] at h
    rw [hspell] at h
    exact h hstay hcamel hsnake (hno l hl)
  refine ⟨?_, ?_⟩
  · have hsame : S.member? (asked (Spelling.snakeCase words)) owner =
        S.member? (asked (Spelling.camelCase words)) owner := by
      unfold member? nearestMembers
      rw [htyped, htyped, Query.nearest_congr hlevel]
    -- Only a star fails, and neither spelling is one.
    cases hfound : S.member? (asked (Spelling.camelCase words)) owner with
    | ok found => exact ⟨found, rfl, hsame.trans hfound⟩
    | error p => exact absurd ((member?_fails_iff (htyped _)).1 ⟨p, hfound⟩).1 hcamel
  · have hsame : S.members (asked (Spelling.snakeCase words)) owner =
        S.members (asked (Spelling.camelCase words)) owner := by
      unfold members
      rw [htyped, htyped, Query.everywhere_congr hlevel]
    cases hall : S.members (asked (Spelling.camelCase words)) owner with
    | ok all => exact ⟨all, rfl, hsame.trans hall⟩
    | error p => exact absurd ((members_fails_iff (htyped _)).1 ⟨p, hall⟩).1 hcamel

/-- A setter by its three words, with the type of what it takes. -/
theorem spellings_find_the_same_in_naming :
    let words : List Spelling.Word :=
      [⟨'s', ['e', 't'], by decide, by simp⟩, ⟨'i', ['s'], by decide, by simp⟩,
        ⟨'n', ['u', 'm'], by decide, by simp⟩]
    let asked (name : String) : Query :=
      { role := .setter, name, expected := some (.int .i32), mode := .typed }
    Spelling.camelCase words = "setIsNum" ∧ Spelling.snakeCase words = "set_is_num" ∧
      ∃ m, Sample.schema.member? (asked "setIsNum") Sample.naming.ty = .ok (some m) ∧
        Sample.schema.member? (asked "set_is_num") Sample.naming.ty = .ok (some m) := by
  intro words asked
  have hcamel : Spelling.camelCase words = "setIsNum" := by decide
  have hsnake : Spelling.snakeCase words = "set_is_num" := by decide
  have hsame := @spellings_find_the_same Sample.schema Sample.naming.ty .setter .typed
    (some (.int .i32)) none words (by decide) (.inr rfl) (fun _ => rfl) (by decide +kernel)
  obtain ⟨⟨found, h, h'⟩, -⟩ := hsame
  rw [hcamel] at h
  rw [hsnake] at h'
  have hsome : (Sample.schema.member? (asked "set_is_num") Sample.naming.ty).toOption.join.isSome =
      true := by decide +kernel
  rw [show Sample.schema.member? (asked "set_is_num") Sample.naming.ty = .ok found from h'] at hsome
  obtain ⟨m, rfl⟩ := Option.isSome_iff_exists.1 hsome
  exact ⟨hcamel, hsnake, m, h, h'⟩

end Schema
end BeanPath
