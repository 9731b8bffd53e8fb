import BeanPath.Proofs.Bytes
import BeanPath.Ty.ShortName

/-!
# Runs of a type path and their short names

Delimiters part a type path into runs, and pairs of colons part a run into components.  The base
name of a run is its last component, which begins behind the last pair.  Nothing of a run is
remembered behind the delimiter that ends it, so every run is stripped as if it stood alone
(`ShortName.strip_run_append`), and what holds of short names is proved run by run
(`ShortName.run_induction`).

A short name is also written from left to right into one text, which is cut back to a byte position
at every pair of colons.  At all times that text is what is done with and, from the position on, the
part of the current run that stays so far (`ShortName.Draft.Holds`), so the cuts are at boundaries
between characters and take nothing from the runs before.
-/

namespace BeanPath
namespace ShortName

variable {run rest acc cs ds done : List Char} {c d : Char}

/-! ### Pairs of colons -/

/-- No two colons stand side by side. -/
def Unpaired (cs : List Char) : Prop := ¬ [':', ':'] <:+: cs

instance (cs : List Char) : Decidable (Unpaired cs) := inferInstanceAs (Decidable (¬ _))

/-- A text has no pair if it does not start with one and has none further on. -/
theorem unpaired_cons :
    Unpaired (c :: cs) ↔ ¬ (c = ':' ∧ cs.head? = some ':') ∧ Unpaired cs := by
  have hprefix : [':', ':'] <+: c :: cs ↔ c = ':' ∧ cs.head? = some ':' := by
    cases cs with
    | nil => simp [List.cons_prefix_cons]
    | cons d cs => simp [List.cons_prefix_cons, eq_comm]
  rw [Unpaired, List.infix_cons_iff, hprefix, not_or, Unpaired]

theorem unpaired_nil : Unpaired [] := by decide

/-- A text does not start with a pair, as definitions by cases on it say that. -/
theorem not_pair_iff :
    (∀ ds, c = ':' → cs = ':' :: ds → False) ↔ ¬ (c = ':' ∧ cs.head? = some ':') := by
  rw [List.head?_eq_some_iff]
  exact ⟨fun h ⟨hc, ds, hcs⟩ => h ds hc hcs, fun h ds hc hcs => h ⟨hc, ds, hcs⟩⟩

/-- No pair goes across another character. -/
theorem unpaired_append_cons (hd : d ≠ ':') :
    Unpaired (cs ++ d :: ds) ↔ Unpaired cs ∧ Unpaired ds := by
  induction cs with
  | nil =>
    rw [List.nil_append, unpaired_cons]
    exact and_congr_left' ⟨fun _ => unpaired_nil, fun _ h => hd h.1⟩
  | cons c cs ih =>
    have hhead : (cs ++ d :: ds).head? = some ':' ↔ cs.head? = some ':' := by
      cases cs with
      | nil => simp [hd]
      | cons => rfl
    rw [List.cons_append, unpaired_cons, hhead, ih, unpaired_cons, and_assoc]

/-! ### Components of a run -/

/-- The parts of a run between pairs of colons.  Colons are paired from the left. -/
def components : List Char → List (List Char)
  | [] => [[]]
  | ':' :: ':' :: cs => [] :: components cs
  | c :: cs => (components cs).modifyHead (c :: ·)

/-- What follows the last pair of colons of a run. -/
def baseName (run : List Char) : List Char := (components run).getLastD []

/-- A character that does not start a pair belongs to the first component. -/
theorem components_cons (h : ¬ (c = ':' ∧ cs.head? = some ':')) :
    components (c :: cs) = (components cs).modifyHead (c :: ·) := by
  rw [components]
  exact not_pair_iff.2 h

/-- Every run has a component, if only an empty one. -/
theorem components_ne_nil (run : List Char) : components run ≠ [] := by
  fun_induction components run with
  | case1 => exact List.cons_ne_nil _ _
  | case2 => exact List.cons_ne_nil _ _
  | case3 c cs _ ih => simpa using ih

/-- Without a pair a run is its only component. -/
theorem components_of_unpaired (h : Unpaired cs) : components cs = [cs] := by
  induction cs with
  | nil => rfl
  | cons c cs ih =>
    obtain ⟨hc, hcs⟩ := unpaired_cons.1 h
    rw [components_cons hc, ih hcs, List.modifyHead_cons]

/-- A component is split off at the first pair, which is the one that ends it: with one colon behind
the component there is no pair yet. -/
theorem components_append_pair (h : Unpaired (cs ++ [':'])) :
    components (cs ++ ':' :: ':' :: rest) = cs :: components rest := by
  induction cs with
  | nil => rfl
  | cons c cs ih =>
    obtain ⟨hc, hcs⟩ := unpaired_cons.1 h
    have hhead : (cs ++ ':' :: ':' :: rest).head? = (cs ++ [':']).head? := by cases cs <;> rfl
    rw [List.cons_append, components_cons (hhead ▸ hc), ih hcs, List.modifyHead_cons]

/-- Modules, each with a pair of colons behind it, and a name.  Each pair is the first one from
where its module starts. -/
structure Qualified (modules : List (List Char)) (name run : List Char) : Prop where
  spelled : run = modules.flatMap (· ++ [':', ':']) ++ name
  modules_unpaired : ∀ m ∈ modules, Unpaired (m ++ [':'])
  name_unpaired : Unpaired name

/-- The components of a run are its modules and then its name. -/
theorem Qualified.components {modules : List (List Char)} {name : List Char}
    (h : Qualified modules name run) : components run = modules ++ [name] := by
  obtain ⟨rfl, hm, hn⟩ := h
  induction modules with
  | nil => exact components_of_unpaired hn
  | cons m modules ih =>
    obtain ⟨hm, hms⟩ := List.forall_mem_cons.1 hm
    rw [List.flatMap_cons, List.append_assoc, List.append_assoc]
    exact (components_append_pair hm).trans (congrArg (m :: ·) (ih hms))

/-- Every run has a name and its modules. -/
theorem exists_qualified (run : List Char) : ∃ modules name, Qualified modules name run := by
  fun_induction components run with
  | case1 => exact ⟨[], [], rfl, List.forall_mem_nil _, unpaired_nil⟩
  | case2 cs ih =>
    obtain ⟨modules, name, rfl, hm, hn⟩ := ih
    exact ⟨[] :: modules, name, rfl, List.forall_mem_cons.2 ⟨by decide, hm⟩, hn⟩
  | case3 c cs hc ih =>
    have hc := not_pair_iff.1 hc
    obtain ⟨modules, name, rfl, hm, hn⟩ := ih
    -- The character belongs to the first module, or to the name if there is none.
    cases modules with
    | nil => exact ⟨[], c :: name, rfl, hm, unpaired_cons.2 ⟨hc, hn⟩⟩
    | cons m modules =>
      obtain ⟨hm, hms⟩ := List.forall_mem_cons.1 hm
      refine ⟨(c :: m) :: modules, name, rfl, List.forall_mem_cons.2 ⟨?_, hms⟩, hn⟩
      refine unpaired_cons.2 ⟨?_, hm⟩
      cases m <;> exact hc

/-- **The base name of a run** is what follows the last pair of colons if these are paired from the
left: there are modules in front of it, each with a pair behind it that is the first one. -/
theorem baseName_eq_iff {name : List Char} :
    baseName run = name ↔ ∃ modules, Qualified modules name run := by
  have hname {modules : List (List Char)} {name : List Char} (h : Qualified modules name run) :
      baseName run = name := by
    rw [baseName, h.components, List.getLastD_concat]
  constructor
  · rintro rfl
    obtain ⟨modules, name, h⟩ := exists_qualified run
    exact ⟨modules, (hname h).symm ▸ h⟩
  · rintro ⟨modules, h⟩
    exact hname h

/-- There is no pair in a base name. -/
theorem unpaired_baseName (run : List Char) : Unpaired (baseName run) :=
  let ⟨_, h⟩ := baseName_eq_iff.1 (Eq.refl (baseName run))
  h.name_unpaired

/-- A base name is the end of its run. -/
theorem baseName_suffix (run : List Char) : baseName run <:+ run :=
  let ⟨_, h⟩ := baseName_eq_iff.1 (Eq.refl (baseName run))
  ⟨_, h.spelled.symm⟩

/-! ### Runs of a text -/

/-- The longest parts of a text that have no delimiters in them, in their order.  With the
delimiters between them they are the text (`List.splitOnP_spec`). -/
def runs (cs : List Char) : List (List Char) := cs.splitOnP isDelimiter

/-- A text without delimiters. -/
def Undelimited (cs : List Char) : Prop := ∀ c ∈ cs, isDelimiter c = false

/-- Colons do not part a path into runs. -/
theorem ne_colon_of_isDelimiter (hd : isDelimiter d = true) : d ≠ ':' := by
  rintro rfl
  cases hd

/-- Texts are put together from runs and delimiters between them. -/
theorem run_induction {motive : List Char → Prop}
    (last : ∀ run, Undelimited run → motive run)
    (front : ∀ run d rest, Undelimited run → isDelimiter d = true → motive rest →
      motive (run ++ d :: rest)) (cs : List Char) : motive cs := by
  have hall (cs : List Char) : ∀ run, Undelimited run → motive (run ++ cs) := by
    induction cs with
    | nil => exact fun run h => (List.append_nil run).symm ▸ last run h
    | cons c cs ih =>
      intro run h
      cases hc : isDelimiter c with
      | true => exact front run c cs h hc (ih [] (List.forall_mem_nil _))
      | false =>
        rw [List.append_cons]
        exact ih _ (List.forall_mem_append.2 ⟨h, List.forall_mem_singleton.2 hc⟩)
  exact hall cs [] (List.forall_mem_nil _)

/-! ### Stripping run by run -/

/-- At a pair of colons, what the run has so far is dropped. -/
theorem strip_pair : strip acc (':' :: ':' :: cs) = strip [] cs := by rw [strip]

/-- Anywhere else a delimiter closes the run, and other characters are kept. -/
theorem strip_cons (h : ¬ (c = ':' ∧ cs.head? = some ':')) :
    strip acc (c :: cs) =
      if isDelimiter c then acc.reverse ++ c :: strip [] cs else strip (c :: acc) cs := by
  rw [strip]
  exact not_pair_iff.2 h

/-- At a delimiter, what the run has so far stays, and the next run starts empty. -/
theorem strip_delimiter (hd : isDelimiter d = true) :
    strip acc (d :: cs) = acc.reverse ++ d :: strip [] cs := by
  rw [strip_cons fun h => ne_colon_of_isDelimiter hd h.1, if_pos hd]

/-- A delimiter, or the end of the text, closes the current run. -/
theorem strip_of_closed (h : ∀ d ∈ rest.head?, isDelimiter d = true) :
    strip acc rest = acc.reverse ++ strip [] rest := by
  cases rest with
  | nil => simp [strip]
  | cons d rest =>
    have hd := h d rfl
    rw [strip_delimiter hd, strip_delimiter hd]
    rfl

/-- Of a run that a delimiter or the end closes, the last component is left.  What the run had in
front stays only with the first component. -/
theorem strip_append (hrun : Undelimited run) (hrest : ∀ d ∈ rest.head?, isDelimiter d = true) :
    strip acc (run ++ rest) =
      ((components run).modifyHead (acc.reverse ++ ·)).getLastD [] ++ strip [] rest := by
  fun_induction components run generalizing acc with
  | case1 =>
    rw [List.nil_append, strip_of_closed hrest]
    simp
  | case2 cs ih =>
    obtain ⟨-, hcs⟩ := List.forall_mem_cons.1 hrun
    obtain ⟨k, ks, hk⟩ := List.exists_cons_of_ne_nil (components_ne_nil cs)
    rw [List.cons_append, List.cons_append, strip_pair, ih (List.forall_mem_cons.1 hcs).2, hk]
    simp
  | case3 c cs hc ih =>
    obtain ⟨hdelim, hcs⟩ := List.forall_mem_cons.1 hrun
    have hne : ¬ (c = ':' ∧ (cs ++ rest).head? = some ':') := by
      rintro ⟨hcolon, h⟩
      cases cs with
      | nil => exact ne_colon_of_isDelimiter (hrest _ h) rfl
      | cons => exact not_pair_iff.1 hc ⟨hcolon, h⟩
    rw [List.cons_append, strip_cons hne, hdelim, if_neg Bool.false_ne_true, ih hcs,
      List.modifyHead_modifyHead, List.reverse_cons]
    simp [Function.comp_def]

/-- A run that a delimiter or the end closes makes way for its base name. -/
theorem strip_run_append (hrun : Undelimited run)
    (hrest : ∀ d ∈ rest.head?, isDelimiter d = true) :
    strip [] (run ++ rest) = baseName run ++ strip [] rest := by
  obtain ⟨k, ks, hk⟩ := List.exists_cons_of_ne_nil (components_ne_nil run)
  rw [strip_append hrun hrest, baseName, hk]
  rfl

/-- A text that is a single run makes way for its base name. -/
theorem strip_run (h : Undelimited run) : strip [] run = baseName run := by
  have hstrip : strip [] (run ++ []) = baseName run ++ strip [] [] := strip_run_append h nofun
  simpa [strip] using hstrip

/-- The first run of a text makes way for its base name, and what is behind its delimiter is
stripped on its own. -/
theorem strip_run_cons (h : Undelimited run) (hd : isDelimiter d = true) :
    strip [] (run ++ d :: rest) = baseName run ++ d :: strip [] rest := by
  rw [strip_run_append h (by simpa using hd), strip_delimiter hd]
  rfl

/-- There is no delimiter in the base name of a run. -/
theorem undelimited_baseName (h : Undelimited run) : Undelimited (baseName run) :=
  fun c hc => h c ((baseName_suffix run).subset hc)

/-- A run has no delimiters to keep. -/
theorem filter_of_undelimited (h : Undelimited cs) : cs.filter isDelimiter = [] :=
  List.filter_eq_nil_iff.2 fun c hc => Bool.eq_false_iff.1 (h c hc)

/-- Delimiters stay, in the same order. -/
theorem filter_strip (cs : List Char) :
    (strip [] cs).filter isDelimiter = cs.filter isDelimiter := by
  induction cs using run_induction with
  | last run h =>
    rw [strip_run h, filter_of_undelimited h, filter_of_undelimited (undelimited_baseName h)]
  | front run d rest h hd ih =>
    rw [strip_run_cons h hd, List.filter_append, List.filter_append, List.filter_cons_of_pos hd,
      List.filter_cons_of_pos hd, ih, filter_of_undelimited h,
      filter_of_undelimited (undelimited_baseName h)]

/-- Each run makes way for its base name. -/
theorem runs_strip (cs : List Char) : runs (strip [] cs) = (runs cs).map baseName := by
  unfold runs
  induction cs using run_induction with
  | last run h =>
    rw [strip_run h, List.splitOnP_eq_singleton h,
      List.splitOnP_eq_singleton (undelimited_baseName h), List.map_singleton]
  | front run d rest h hd ih =>
    rw [strip_run_cons h hd, List.splitOnP_append_cons_of_forall_mem h d hd,
      List.splitOnP_append_cons_of_forall_mem (undelimited_baseName h) d hd, ih, List.map_cons]

/-- No pair is left, and none comes about by stripping. -/
theorem unpaired_strip (cs : List Char) : Unpaired (strip [] cs) := by
  induction cs using run_induction with
  | last run h =>
    rw [strip_run h]
    exact unpaired_baseName run
  | front run d rest h hd ih =>
    rw [strip_run_cons h hd, unpaired_append_cons (ne_colon_of_isDelimiter hd)]
    exact ⟨unpaired_baseName run, ih⟩

/-- Without pairs there is nothing to strip. -/
theorem strip_of_unpaired (h : Unpaired cs) : strip acc cs = acc.reverse ++ cs := by
  induction cs generalizing acc with
  | nil => simp [strip]
  | cons c cs ih =>
    obtain ⟨hc, hcs⟩ := unpaired_cons.1 h
    rw [strip_cons hc, ih hcs, ih hcs]
    simp

/-! ### Writing with a position to go back to -/

/-- A text that is being written, and the byte position where its last run starts. -/
structure Draft where
  text : String
  start : Nat

/-- Cuts a text back to a byte position, unless it ends before.  This fails inside a character. -/
def cutBack? (s : String) (position : Nat) : Option String :=
  if position ≤ s.utf8ByteSize then (Path.Bytes.slice s 0 position).toOption else some s

/-- Writes a short name character by character.  A pair of colons takes back what the last run has
so far, and a delimiter starts a run behind itself. -/
def Draft.write? : Draft → List Char → Option String
  | draft, [] => some draft.text
  | draft, ':' :: ':' :: cs =>
    (cutBack? draft.text draft.start).bind fun text => Draft.write? ⟨text, draft.start⟩ cs
  | draft, c :: cs =>
    let text := draft.text.push c
    if isDelimiter c then Draft.write? ⟨text, text.utf8ByteSize⟩ cs
    else Draft.write? ⟨text, draft.start⟩ cs

/-- What a draft holds: a text that is done, and a run, last character first. -/
structure Draft.Holds (draft : Draft) (done acc : List Char) : Prop where
  text_eq : draft.text.toList = done ++ acc.reverse
  start_eq : draft.start = byteLength done

namespace Draft.Holds

variable {draft : Draft}

/-- At a pair, the cut back to the start of the run goes through and leaves what is done. -/
theorem exists_cutBack (h : draft.Holds done acc) :
    ∃ text, cutBack? draft.text draft.start = some text ∧
      Holds ⟨text, draft.start⟩ done [] := by
  have hsize : draft.start ≤ draft.text.utf8ByteSize := by
    rw [h.start_eq, ← Path.byteLength_toList, h.text_eq, byteLength_append]
    exact Nat.le_add_right _ _
  have hslice := Path.slice_eq [] done acc.reverse h.text_eq
  rw [byteLength_nil, Nat.zero_add, ← h.start_eq] at hslice
  refine ⟨String.ofList done, ?_, ?_, h.start_eq⟩
  · rw [cutBack?, if_pos hsize, hslice]
    rfl
  · rw [String.toList_ofList, List.reverse_nil, List.append_nil]

/-- A character that is written belongs to the current run. -/
theorem push (h : draft.Holds done acc) (c : Char) :
    Holds ⟨draft.text.push c, draft.start⟩ done (c :: acc) where
  text_eq := by rw [String.toList_push, h.text_eq, List.reverse_cons, List.append_assoc]
  start_eq := h.start_eq

/-- A delimiter that is written ends the current run, which is done with it. -/
theorem close (h : draft.Holds done acc) (c : Char) :
    Holds ⟨draft.text.push c, (draft.text.push c).utf8ByteSize⟩
      (done ++ acc.reverse ++ [c]) [] where
  text_eq := by rw [String.toList_push, h.text_eq, List.reverse_nil, List.append_nil]
  start_eq := by rw [← Path.byteLength_toList, String.toList_push, h.text_eq]

/-- The writing goes through and ends with what the rest of the input strips to. -/
theorem write?_eq (h : draft.Holds done acc) (cs : List Char) :
    draft.write? cs = some (String.ofList (done ++ strip acc cs)) := by
  fun_induction strip acc cs generalizing draft done with
  | case1 acc => rw [Draft.write?, ← h.text_eq, String.ofList_toList]
  | case2 acc cs ih =>
    obtain ⟨text, htext, h⟩ := h.exists_cutBack
    rw [Draft.write?, htext]
    exact ih h
  | case3 acc c cs hc hd ih =>
    rw [Draft.write?]
    · rw [if_pos hd, ih (h.close c)]
      simp
    · exact hc
  | case4 acc c cs hc hd ih =>
    rw [Draft.write?]
    · rw [if_neg hd]
      exact ih (h.push c)
    · exact hc

end Draft.Holds

/-- **Short names shorten every run** of a type path and leave what stands between the runs.
Written from left to right, with cuts back to where the run starts, they come out for every text.
They have the same delimiters, and in place of each run its base name; no pair of colons is left, so
the short name of a short name is the same. -/
theorem short_names_shorten_every_run (path : String) :
    Draft.write? ⟨"", 0⟩ path.toList = some (shortName path) ∧
      (shortName path).toList.filter isDelimiter = path.toList.filter isDelimiter ∧
      runs (shortName path).toList = (runs path.toList).map baseName ∧
      ¬ [':', ':'] <:+: (shortName path).toList ∧
      shortName (shortName path) = shortName path := by
  have hstart : Draft.Holds ⟨"", 0⟩ [] [] := ⟨rfl, rfl⟩
  have hname : (shortName path).toList = strip [] path.toList := String.toList_ofList
  have hpairs : Unpaired (strip [] path.toList) := unpaired_strip _
  refine ⟨?_, ?_, ?_, ?_, ?_⟩
  · rw [hstart.write?_eq, List.nil_append, shortName]
  · rw [hname, filter_strip]
  · rw [hname, runs_strip]
  · rw [hname]
    exact hpairs
  · rw [shortName, hname, strip_of_unpaired hpairs, List.reverse_nil, List.nil_append, shortName]

-- Of three colons the first two are a pair.
example : shortName "[core::option::Option<x:::y>; 3]" = "[Option<:y>; 3]" := by decide +kernel

end ShortName
end BeanPath
