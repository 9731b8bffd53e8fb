import BeanPath.Proofs.ByteReading

/-!
# Progress of the iteration

The readers of bytes give what the readers of characters give at the position of a cursor in the
path, one lemma for each, and a cursor of the readers of characters never leaves the path.  So the
readers of bytes never slice inside a character, although the search for an equals sign steps over
a backslash and one byte and may stop in the middle of the character that is escaped
(`Path.findUnescaped_escaped`).  What is known about positions of names and mistakes holds of the
iteration over the segments, which is read off the list of them call by call (`Path.call_eq`).
-/

namespace BeanPath
namespace Path

open Bytes

variable {path : String} {offset : Nat} {c : Char} {cs rest marks : List Char}

/-! ### Looking for an equals sign -/

/-- The marks that the search for an equals sign looks at have one byte each. -/
theorem ascii_marks : ∀ a ∈ ['\\', '='], a.toNat < 128 := by simp

/-- The search goes over every byte that is not the byte of a mark. -/
theorem findUnescaped_plain {s : String} {i : Nat} {b : UInt8} (hb : byte? s i = some b)
    (hne : b ∉ ['\\', '='].map ascii) :
    findUnescaped s (ascii '=') i = findUnescaped s (ascii '=') (i + 1) := by
  simp only [List.map_cons, List.map_nil, List.mem_cons, List.not_mem_nil, or_false, not_or] at hne
  rw [findUnescaped_some hb, if_neg hne.1, if_neg hne.2]

/-- The step over a backslash and one byte may end inside a character, but none of the bytes there
is that of a mark. -/
theorem findUnescaped_escaped {s : String} {i : Nat}
    (h : (Cursor.mk i ('\\' :: c :: rest)).In s) :
    findUnescaped s (ascii '=') i = findUnescaped s (ascii '=') (i + 1 + c.utf8Size) := by
  have hslash : byte? s i = some (ascii '\\') := (h.byte?_eq_ascii_iff (by decide)).2 rfl
  have hc := h.delimiter (by decide)
  rw [findUnescaped_some hslash, if_pos rfl]
  by_cases hone : c.utf8Size = 1
  · rw [hone]
  · have hmark : c ∉ ['\\', '='] := fun hm => hone (utf8Size_of_lt (ascii_marks c hm))
    have hbytes := hc.bytes_ne ascii_marks hmark
    have hsize := c.utf8Size_pos
    have hskip : findUnescaped s (ascii '=') (i + 2) =
        findUnescaped s (ascii '=') (i + 2 + (c.utf8Size - 1)) := by
      refine skip_bytes (fun _ _ => findUnescaped_plain) fun j hj => ?_
      have hb := hbytes (j + 1) (by omega)
      rwa [show i + 1 + (j + 1) = i + 2 + j by omega] at hb
    rw [hskip]
    congr 1
    omega

/-- The search by bytes finds what the search by characters finds. -/
theorem findUnescaped_eq {s : String} {i : Nat} (h : (Cursor.mk i cs).In s) :
    findUnescaped s (ascii '=') i =
      (Name.splitQualifier cs).map fun p => i + byteLength p.1 := by
  fun_induction Name.splitQualifier cs generalizing i with
  | case1 => exact findUnescaped_none h.byte?_nil
  | case2 =>
    rw [findUnescaped_some ((h.byte?_eq_ascii_iff (by decide)).2 rfl), if_pos rfl]
    refine findUnescaped_none (Option.eq_none_iff_forall_ne_some.2 fun b hb => ?_)
    have hsize : i + 1 = s.utf8ByteSize := h.byteLength_rest
    have := lt_of_byte? hb
    omega
  | case3 c cs ih =>
    rw [findUnescaped_escaped h, ih (h.delimiter (by decide)).step, Option.map_map]
    refine Option.map_congr fun p _ => ?_
    change i + 1 + c.utf8Size + byteLength p.1 = i + (1 + (c.utf8Size + byteLength p.1))
    omega
  | case4 cs _ =>
    rw [findUnescaped_some ((h.byte?_eq_ascii_iff (by decide)).2 rfl), if_neg (by decide),
      if_pos rfl]
    rfl
  | case5 c cs h₁ h₂ heq ih =>
    have hmark : c ∉ ['\\', '='] := by
      simp only [List.mem_cons, List.not_mem_nil, or_false, not_or]
      exact ⟨ne_backslash h₁ h₂, heq⟩
    have hskip := skip_bytes (fun _ _ => findUnescaped_plain) (h.bytes_ne ascii_marks hmark)
    rw [hskip, ih h.step, Option.map_map]
    refine Option.map_congr fun p _ => ?_
    exact Nat.add_assoc _ _ _

/-! ### Reading runs -/

/-- What a reader of characters gives, as a reader of bytes gives it. -/
def located {α β : Type} (path : String) (f : α → β) (x : Except Mistake α) : Except Halt β :=
  (x.map f).mapError fun e => .malformed ⟨path, e⟩

/-- Two readers in a row agree if the first ones do and, for whatever these have read, the second
ones do as well. -/
theorem located_bind {α β γ δ : Type} {f : α → β} {g : γ → δ} {x : Except Mistake α}
    {k : α → Except Mistake γ} {l : β → Except Halt δ}
    (h : ∀ a, x = .ok a → l (f a) = located path g (k a)) :
    located path f x >>= l = located path g (x >>= k) := by
  cases x with
  | error e => rfl
  | ok a => exact h a rfl

variable {ends : Char → Bool}

/-- A scan goes over every byte that is neither that of a backslash nor one to stop at. -/
theorem scan_plain {pos : Nat} {b : UInt8} (hb : byte? path pos = some b)
    (hne : b ∉ ('\\' :: marks).map ascii) :
    scan path (marks.map ascii) pos = scan path (marks.map ascii) (pos + 1) := by
  obtain ⟨hslash, hstop⟩ := not_or.1 (mt List.mem_cons.2 hne)
  rw [scan_some path hb, if_neg hslash, if_neg (mt List.contains_iff_mem.1 hstop)]

/-- A run that starts with characters of its own ends where the run behind them ends. -/
theorem located_takeRun_append (front : List Char)
    (hs : splitRun ends (front ++ cs) = (front ++ (splitRun ends cs).1, (splitRun ends cs).2))
    (hd : dangling (front ++ (splitRun ends cs).1) = dangling (splitRun ends cs).1) :
    located path (fun r => r.2.offset) (takeRun ends ⟨offset, front ++ cs⟩) =
      located path (fun r => r.2.offset) (takeRun ends ⟨offset + byteLength front, cs⟩) := by
  unfold takeRun
  dsimp only
  rw [hs, hd]
  dsimp only
  split
  · next hdangling =>
    have hne : (splitRun ends cs).1 ≠ [] := by
      intro hnil
      rw [hnil] at hdangling
      cases hdangling
    rw [List.dropLast_append_of_ne_nil hne, byteLength_append, Nat.add_assoc]
  · rw [byteLength_append, ← Nat.add_assoc]
    rfl

/-- A scan by bytes ends where the run of characters ends, or fails where that does. -/
theorem scan_eq (hm : ∀ a ∈ marks, a.toNat < 128) (h : (Cursor.mk offset cs).In path) :
    scan path (marks.map ascii) offset =
      located path (fun r => r.2.offset) (takeRun marks.contains ⟨offset, cs⟩) := by
  have hslash {offset : Nat} {cs : List Char} (h : (Cursor.mk offset ('\\' :: cs)).In path) :
      byte? path offset = some (ascii '\\') := (h.byte?_eq_ascii_iff (by decide)).2 rfl
  fun_induction splitRun marks.contains cs generalizing offset with
  | case1 => exact scan_none path h.byte?_nil
  | case2 =>
    have hsize : offset + 1 = path.utf8ByteSize := h.byteLength_rest
    rw [scan_some path (hslash h), if_pos rfl, if_pos hsize.ge]
    rfl
  | case3 c cs ih =>
    have hc := h.delimiter (by decide)
    have hsize : offset + 1 + (c.utf8Size + byteLength cs) = path.utf8ByteSize := hc.byteLength_rest
    have hpos := c.utf8Size_pos
    obtain ⟨before, hp, ho⟩ := hc
    dsimp only at hp ho
    have hslice : slice path (offset + 1) path.utf8ByteSize = .ok (String.ofList (c :: cs)) := by
      rw [← hsize, ← ho]
      exact slice_eq before (c :: cs) [] (hp.trans (by rw [List.append_nil]))
    rw [scan_some path (hslash h), if_pos rfl, if_neg (by omega), hslice]
    change scan path _ (offset + 1 + (String.ofList (c :: cs)).toList.head?.elim 1 _) = _
    rw [String.toList_ofList]
    have hrun := @located_takeRun_append path offset cs marks.contains ['\\', c] rfl rfl
    have hwidth : offset + byteLength ['\\', c] = offset + 1 + c.utf8Size := by
      change offset + (1 + (c.utf8Size + 0)) = _
      omega
    rw [hwidth] at hrun
    exact (ih (h.delimiter (by decide)).step).trans hrun.symm
  | case4 c cs h₁ h₂ he =>
    obtain ⟨b, hb, hbyte⟩ := h.byte?_head
    have hstop : b ∈ marks.map ascii := (mem_ascii_iff hm hb).2 (List.contains_iff_mem.1 he)
    have hne : b ≠ ascii '\\' := mt (eq_ascii_iff (by decide) hb).1 (ne_backslash h₁ h₂)
    rw [scan_some path hbyte, if_neg hne, if_pos (List.contains_iff_mem.2 hstop)]
    unfold takeRun
    rw [splitRun_cons (ne_backslash h₁ h₂), if_pos he]
    rfl
  | case5 c cs h₁ h₂ he ih =>
    have hc := ne_backslash h₁ h₂
    -- A mark is one byte of its own, and no byte of another character looks like one.
    have hmark : c ∉ '\\' :: marks :=
      List.not_mem_cons_of_ne_of_not_mem hc (mt List.contains_iff_mem.2 he)
    have hbytes := h.bytes_ne (List.forall_mem_cons.2 ⟨by decide, hm⟩) hmark
    have hrun := @located_takeRun_append path offset cs marks.contains [c]
      (by rw [List.singleton_append, splitRun_cons hc, if_neg he]; rfl) (dangling_cons hc)
    exact (skip_bytes (fun _ _ => scan_plain) hbytes).trans ((ih h.step).trans hrun.symm)

/-! ### Reading names -/

/-- What is split at an equals sign is put together again with one. -/
theorem eq_append_of_splitQualifier {raw q t : List Char}
    (h : Name.splitQualifier raw = some (q, t)) : raw = q ++ '=' :: t := by
  fun_induction Name.splitQualifier raw generalizing q t with
  | case1 => cases h
  | case2 => cases h
  | case3 c cs ih =>
    obtain ⟨⟨q, t⟩, hq, hqt⟩ := Option.map_eq_some_iff.1 h
    cases hqt
    rw [ih hq]
    rfl
  | case4 => cases h; rfl
  | case5 c cs h₁ h₂ hne ih =>
    obtain ⟨⟨q, t⟩, hq, hqt⟩ := Option.map_eq_some_iff.1 h
    cases hqt
    rw [ih hq]
    rfl

/-- A raw name is sliced in front of its equals sign and behind it. -/
theorem slices_of_splitQualifier {raw q t : List Char}
    (h : Name.splitQualifier raw = some (q, t)) :
    slice (String.ofList raw) 0 (byteLength q) = .ok (String.ofList q) ∧
      slice (String.ofList raw) (byteLength q + 1) (String.ofList raw).utf8ByteSize =
        .ok (String.ofList t) := by
  have hwhole : (String.ofList raw).toList = q ++ '=' :: t :=
    String.toList_ofList.trans (eq_append_of_splitQualifier h)
  have hend : byteLength (q ++ ['=']) + byteLength t = (String.ofList raw).utf8ByteSize := by
    rw [← byteLength_toList, hwhole, ← byteLength_append, List.append_assoc]
    rfl
  have hleft := slice_eq [] q ('=' :: t) hwhole
  have hright := slice_eq (q ++ ['=']) t [] (by rw [hwhole]; simp)
  rw [byteLength_nil, Nat.zero_add] at hleft
  rw [hend, byteLength_append] at hright
  exact ⟨hleft, hright⟩

/-- A raw name is a lone star as a text exactly if it is one as a list of characters. -/
theorem beq_star (cs : List Char) : (String.ofList cs == "*") = (cs == ['*']) := by
  rw [Bool.eq_iff_iff, beq_iff_eq, beq_iff_eq]
  constructor
  · exact fun h => String.toList_ofList.symm.trans (congrArg String.toList h)
  · rintro rfl
    rfl

/-- All slices of a name go from boundary to boundary. -/
theorem readName_eq {raw : List Char} {c next : Cursor} (hc : c.In path)
    (hrest : c.rest = raw ++ next.rest) (hnext : next.offset = c.offset + byteLength raw) :
    readName path c.offset next.offset = located path id (Name.read c.offset raw) := by
  obtain ⟨before, hp, ho⟩ := hc
  rw [hrest] at hp
  rw [hnext, ← ho]
  have hin : (Cursor.mk 0 raw).In (String.ofList raw) := ⟨[], String.toList_ofList, rfl⟩
  have hfind := findUnescaped_eq hin
  unfold readName Name.read
  rw [slice_eq before raw next.rest hp, bind_ok, hfind]
  cases hq : Name.splitQualifier raw with
  | none =>
    dsimp only [Option.map_none]
    rw [String.toList_ofList, beq_star]
    rfl
  | some p =>
    obtain ⟨q, t⟩ := p
    obtain ⟨hleft, hright⟩ := slices_of_splitQualifier hq
    dsimp only [Option.map_some]
    rw [Nat.zero_add, hleft, bind_ok, String.toList_ofList]
    split
    · rfl
    · rw [hright, bind_ok, String.toList_ofList, beq_star]
      rfl

/-- Both readers of runs read the same names and the same mistakes, and stop at the same
position. -/
theorem readRun_eq {c : Cursor} (hm : ∀ a ∈ marks, a.toNat < 128) (hc : c.In path) :
    Bytes.readRun path (marks.map ascii) c.offset =
      located path (Prod.map id Cursor.offset) (Path.readRun marks.contains c) := by
  unfold Bytes.readRun Path.readRun
  rw [scan_eq hm hc]
  refine located_bind fun ⟨raw, next⟩ ht => ?_
  obtain ⟨-, -, -, -, hrest, hnext⟩ := takeRun_eq_ok_iff.1 ht
  dsimp only
  rw [readName_eq hc hrest hnext]
  exact located_bind fun n _ => rfl

/-! ### Reading groups -/

/-- What comes after an item, by its position. -/
def AfterItem.located : AfterItem → Bytes.AfterItem
  | .close next => .close next.offset
  | .item inner outer next => .item inner outer next.offset
  | .unclosed inner => .unclosed inner

/-- Behind an item the byte at the cursor decides, and so does the character there. -/
theorem afterItem_at {inner : Nat} {outer : List Nat} (h : (Cursor.mk offset cs).In path) :
    Bytes.afterItem path inner outer offset =
      if cs.head? = some '[' then .item offset (inner :: outer) (offset + 1)
      else if cs.head? = some ',' then .item inner outer (offset + 1)
      else if cs.head? = some ']' then
        match outer with
        | [] => .close (offset + 1)
        | o :: os => Bytes.afterItem path o os (offset + 1)
      else .unclosed inner := by
  rw [Bytes.afterItem.eq_def]
  cases outer <;>
    simp only [h.byte?_eq_ascii_iff (a := '[') (by decide),
      h.byte?_eq_ascii_iff (a := ',') (by decide), h.byte?_eq_ascii_iff (a := ']') (by decide)]

/-- Both readers see the same behind an item. -/
theorem afterItem_eq {inner : Nat} {outer : List Nat} (h : (Cursor.mk offset cs).In path) :
    Bytes.afterItem path inner outer offset = (Path.afterItem inner outer offset cs).located := by
  have hhead {cs : List Char} {a : Char} (h : ∀ ds, cs = a :: ds → False) :
      cs.head? ≠ some a := fun hc =>
    let ⟨ds, hds⟩ := List.head?_eq_some_iff.1 hc
    h ds hds
  fun_induction Path.afterItem inner outer offset cs with
  | case1 => exact afterItem_at h
  | case2 => exact afterItem_at h
  | case3 => exact afterItem_at h
  | case4 inner offset cs o os ih => exact (afterItem_at h).trans (ih (h.delimiter rfl))
  | case5 inner outer offset cs h₁ h₂ h₃ =>
    rw [afterItem_at h, if_neg (hhead h₁), if_neg (hhead h₂), if_neg (hhead h₃)]
    rfl

/-- Both readers of items of a group agree. -/
theorem readItem_eq {c : Cursor} (hc : c.In path) :
    Bytes.readRun path itemStops c.offset =
      located path (Prod.map id Cursor.offset) (Path.readRun endsItem c) :=
  readRun_eq (by simp : ∀ a ∈ [',', '[', ']'], a.toNat < 128) hc

/-- Behind an item both readers go the same way. -/
theorem readItems_after {inner : Nat} {outer : List Nat} {c next : Cursor} {name : Name}
    (hc : c.In path) (hr : Path.readRun endsItem c = .ok (name, next)) :
    Bytes.readItems path inner outer c.offset =
      match (Path.afterItem inner outer next.offset next.rest).located with
      | .close last => .ok ([name], last)
      | .item i o following =>
        (Bytes.readItems path i o following).map fun (names, last) => (name :: names, last)
      | .unclosed position => .error (mistake path position .unclosedBracket) := by
  obtain ⟨hin, -⟩ := (readRun_yields endsItem hc).of_ok hr
  have hrun := readItem_eq hc
  rw [hr] at hrun
  rw [readItems_ok path hrun, ← afterItem_eq hin]
  rfl

/-- Both readers of groups agree on everything up to the closing bracket. -/
theorem readItems_eq {inner : Nat} {outer : List Nat} {c : Cursor} (hc : c.In path)
    (ho : ∀ o ∈ inner :: outer, Boundary path o) :
    Bytes.readItems path inner outer c.offset =
      located path (Prod.map id Cursor.offset) (Path.readItems inner outer c) := by
  fun_induction Path.readItems inner outer c with
  | case1 inner outer c e hr =>
    have hrun := readItem_eq hc
    rw [hr] at hrun
    exact readItems_error path hrun
  | case2 inner outer c name next hr last ha =>
    rw [readItems_after hc hr, ha]
    rfl
  | case3 inner outer c name next hr i o following ha e hrec ih =>
    have hitem := follows_of_readRun hc ho hr
    rw [ha] at hitem
    rw [readItems_after hc hr, ha]
    dsimp only [AfterItem.located]
    rw [ih hitem.1 hitem.2.2, hrec]
    rfl
  | case4 inner outer c name next hr i o following ha names last hrec ih =>
    have hitem := follows_of_readRun hc ho hr
    rw [ha] at hitem
    rw [readItems_after hc hr, ha]
    dsimp only [AfterItem.located]
    rw [ih hitem.1 hitem.2.2, hrec]
    rfl
  | case5 inner outer c name next hr position ha =>
    rw [readItems_after hc hr, ha]
    rfl

/-- Both readers agree on a group that has just been opened. -/
theorem readGroup_eq {c : Cursor} (hc : c.In path) (h : c.rest = '[' :: cs) :
    Bytes.readItems path c.offset [] (c.offset + 1) =
      located path (Prod.map id Cursor.offset) (Path.readItems c.offset [] ⟨c.offset + 1, cs⟩) := by
  have hin : (Cursor.mk c.offset ('[' :: cs)).In path := h ▸ hc
  exact readItems_eq (hin.delimiter rfl) (List.forall_mem_singleton.2 hc.boundary)

/-- Both readers agree on groups in a row. -/
theorem readGroups_eq {c : Cursor} (hc : c.In path) :
    Bytes.readGroups path c.offset =
      located path (Prod.map id Cursor.offset) (Path.readGroups c) := by
  have hbyte {c : Cursor} (hc : c.In path) :
      byte? path c.offset = some (ascii '[') ↔ c.rest.head? = some '[' :=
    hc.byte?_eq_ascii_iff (by decide)
  fun_induction Path.readGroups c with
  | case1 c cs hcs e hr =>
    rw [Bytes.readGroups_open path ((hbyte hc).2 (by rw [hcs]; rfl)), readGroup_eq hc hcs, hr]
    rfl
  | case2 c cs hcs group next hr e hg ih =>
    have hin := ((readGroup_yields hc hcs).of_ok hr).1
    rw [Bytes.readGroups_open path ((hbyte hc).2 (by rw [hcs]; rfl)), readGroup_eq hc hcs, hr]
    change (Bytes.readGroups path next.offset >>= _) = _
    rw [ih hin, hg]
    rfl
  | case3 c cs hcs group next hr groups last hg ih =>
    have hin := ((readGroup_yields hc hcs).of_ok hr).1
    rw [Bytes.readGroups_open path ((hbyte hc).2 (by rw [hcs]; rfl)), readGroup_eq hc hcs, hr]
    change (Bytes.readGroups path next.offset >>= _) = _
    rw [ih hin, hg]
    rfl
  | case4 c h =>
    refine Bytes.readGroups_none path (mt (hbyte hc).1 fun hhead => ?_)
    obtain ⟨cs, hcs⟩ := List.head?_eq_some_iff.1 hhead
    exact h cs hcs

/-! ### Reading segments -/

/-- Both readers agree on a base in parentheses. -/
theorem readEnclosed_eq {cs : List Char} (h : (Cursor.mk offset ('(' :: cs)).In path) :
    Bytes.readBase path offset =
      located path (Prod.map id Cursor.offset) (Path.readBase ⟨offset, '(' :: cs⟩) := by
  have hin := h.delimiter rfl
  have hends : [')'].contains = fun c : Char => c == ')' := by
    funext c
    rw [List.contains_cons, List.contains_nil, Bool.or_false]
  have hscan := scan_eq (by simp : ∀ a ∈ [')'], a.toNat < 128) hin
  rw [hends] at hscan
  unfold Bytes.readBase Path.readBase
  rw [if_pos ((h.byte?_eq_ascii_iff (by decide)).2 rfl)]
  change scan path ([')'].map ascii) (offset + 1) >>= _ = _
  rw [hscan]
  refine located_bind fun ⟨raw, next, rest⟩ ht => ?_
  obtain ⟨-, -, -, -, hrest, hnext⟩ := takeRun_eq_ok_iff.1 ht
  have hbyte := ((takeRun_yields _ hin).of_ok ht).1.byte?_eq_ascii_iff (a := ')') (by decide)
  dsimp only at hbyte ⊢
  split
  · next hstop =>
    obtain ⟨rest, rfl⟩ := List.head?_eq_some_iff.1 (hbyte.1 hstop)
    have hname := readName_eq hin hrest hnext
    dsimp only at hname
    rw [hname]
    exact located_bind fun n _ => rfl
  · next hstop =>
    split
    · next rest => exact absurd (hbyte.2 rfl) hstop
    · rfl

/-- Both readers of bases agree. -/
theorem readBase_eq {c : Cursor} (hc : c.In path) :
    Bytes.readBase path c.offset =
      located path (Prod.map id Cursor.offset) (Path.readBase c) := by
  by_cases hhead : c.rest.head? = some '('
  · obtain ⟨cs, hcs⟩ := List.head?_eq_some_iff.1 hhead
    obtain ⟨offset, rest⟩ := c
    cases hcs
    exact readEnclosed_eq hc
  · unfold Bytes.readBase
    rw [if_neg (mt (hc.byte?_eq_ascii_iff (by decide)).1 hhead), readBase_plain hhead]
    exact readRun_eq (by simp : ∀ a ∈ ['.', ',', '(', ')', '[', ']'], a.toNat < 128) hc

/-- Both readers agree on what stands behind a segment. -/
theorem readSeparator_eq {c : Cursor} (hc : c.In path) :
    Bytes.readSeparator path c.offset =
      located path (Option.map (Prod.map id Cursor.offset)) (Path.readSeparator c) := by
  obtain ⟨offset, rest⟩ := c
  cases rest with
  | nil =>
    unfold Bytes.readSeparator
    rw [hc.byte?_nil]
    rfl
  | cons c rest =>
    obtain ⟨b, hb, hbyte⟩ := hc.byte?_head
    have hmark {a : Char} (ha : a.toNat < 128) : b = ascii a ↔ c = a := eq_ascii_iff ha hb
    unfold Bytes.readSeparator Path.readSeparator
    rw [hbyte]
    dsimp only
    simp only [hmark (a := '.') (by decide), hmark (a := ',') (by decide),
      hmark (a := '(') (by decide), hmark (a := ')') (by decide), hmark (a := ']') (by decide)]
    split_ifs with hdot hcomma hopen hclose hbracket
    · cases hdot; rfl
    · cases hcomma; rfl
    · cases hopen; rfl
    · cases hclose; rfl
    · cases hbracket; rfl
    · split
      · next h => cases h
      · next h => exact absurd (List.cons.inj h).1 hdot
      · next h => exact absurd (List.cons.inj h).1 hcomma
      · next h => exact absurd (List.cons.inj h).1 hopen
      · next h => exact absurd (List.cons.inj h).1 hclose
      · next h => exact absurd (List.cons.inj h).1 hbracket
      · rfl

/-- Both readers of segments agree, and the next segment starts at the same position. -/
theorem readSegment_eq {c : Cursor} (hc : c.In path) :
    Bytes.readSegment path c.offset =
      located path (Prod.map id (Option.map Cursor.offset)) (Path.readSegment c) := by
  unfold Bytes.readSegment Path.readSegment
  rw [readBase_eq hc]
  refine located_bind fun ⟨base, afterBase⟩ hb => ?_
  have hbase := ((readBase_yields hc).of_ok hb).1
  dsimp only [Prod.map]
  rw [readGroups_eq hbase]
  refine located_bind fun ⟨groups, afterGroups⟩ hg => ?_
  have hgroups := ((readGroups_yields hbase).of_ok hg).1
  dsimp only [Prod.map]
  rw [readSeparator_eq hgroups]
  refine located_bind fun r _ => ?_
  cases r <;> rfl

/-! ### The iteration -/

/-- A step of the iteration gives the segment at its position and moves on to the next one; after a
mistake it is over. -/
theorem next_eq {c : Cursor} (hc : c.In path) :
    Bytes.next path (some c.offset) =
      match Path.readSegment c with
      | .error e => (some (.error (.malformed ⟨path, e⟩)), none)
      | .ok (s, following) => (some (.ok s), following.map Cursor.offset) := by
  rw [Bytes.next, readSegment_eq hc]
  cases Path.readSegment c <;> rfl

/-- Once it is over, the iteration gives nothing any more. -/
theorem call_over (path : String) (k : Nat) : Bytes.call path none k = none := by
  induction k with
  | zero => rfl
  | succ k ih => exact ih

/-- Call after call the iteration gives the items of the list of segments, and nothing behind the
last. -/
theorem call_eq {c : Cursor} (hc : c.In path) (k : Nat) :
    Bytes.call path (some c.offset) k =
      (segmentsFrom c)[k]?.map (Except.mapError fun e => .malformed ⟨path, e⟩) := by
  fun_induction segmentsFrom c generalizing k with
  | case1 c e h =>
    cases k with
    | zero => rw [Bytes.call, next_eq hc, h]; rfl
    | succ k => rw [Bytes.call, next_eq hc, h]; exact call_over path k
  | case2 c s h =>
    cases k with
    | zero => rw [Bytes.call, next_eq hc, h]; rfl
    | succ k => rw [Bytes.call, next_eq hc, h]; exact call_over path k
  | case3 c s next h ih =>
    obtain ⟨hi, -, hin⟩ := (readSegment_yields hc).of_ok h
    cases k with
    | zero => rw [Bytes.call, next_eq hc, h]; rfl
    | succ k => rw [Bytes.call, next_eq hc, h]; exact ih (hin next rfl).1 k

/-- **The iteration over the segments of a path makes progress.**  Call after call it gives the
segments, and nothing from then on; it never slices the path but from boundary to boundary.  There
are at most as many items as bytes and one more, only the last can be a mistake, and names and
mistakes are at boundaries, each name in front of the next. -/
theorem segments_make_progress (path : String) :
    (∀ k, Bytes.call path (some 0) k = (segments path)[k]?.map (Except.mapError .malformed) ∧
      Bytes.call path (some 0) k ≠ some (.error .cut)) ∧
    (segments path).length ≤ path.utf8ByteSize + 1 ∧
    (∀ k e, (segments path)[k]? = some (.error e) →
      k + 1 = (segments path).length ∧ Boundary path e.mistake.offset ∧
        e.mistake.offset ≤ path.utf8ByteSize) ∧
    (∀ n ∈ namesIn (segments path), Boundary path n.offset ∧ n.offset ≤ path.utf8ByteSize) ∧
    (namesIn (segments path)).Pairwise fun n m => n.offset < m.offset := by
  have hstart := Cursor.start_in path
  obtain ⟨hi, hordered⟩ := segmentsFrom_ordered hstart
  refine ⟨fun k => ?_, ?_, fun k e he => ?_, ?_, ?_⟩
  · have hcall : Bytes.call path (some 0) k =
        (segments path)[k]?.map (Except.mapError .malformed) := by
      rw [segments, List.getElem?_map, Option.map_map]
      refine (call_eq hstart k).trans (Option.map_congr fun x _ => ?_)
      cases x <;> rfl
    refine ⟨hcall, fun hcut => ?_⟩
    obtain ⟨x, -, hx⟩ := Option.map_eq_some_iff.1 (hcall.symm.trans hcut)
    cases x <;> cases hx
  · have hlength := length_segmentsFrom_le ⟨0, path.toList⟩
    have hbytes := length_le_byteLength path.toList
    rw [byteLength_toList] at hbytes
    rw [segments, List.length_map]
    exact hlength.trans (Nat.succ_le_succ hbytes)
  · rw [segments, List.getElem?_map] at he
    obtain ⟨x, hx, hxe⟩ := Option.map_eq_some_iff.1 he
    rw [segments, List.length_map]
    cases x with
    | error m =>
      cases hxe
      obtain ⟨hlast, hb⟩ := eq_last_of_error hstart hx
      exact ⟨hlast, hb, hb.le⟩
    | ok s => cases hxe
  · rw [segments, namesIn_mapError]
    exact fun n hn => ⟨hordered.boundary n hn, (hordered.boundary n hn).le⟩
  · rw [segments, namesIn_mapError]
    exact hordered.increasing

end Path
end BeanPath
