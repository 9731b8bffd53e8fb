import BeanPath.Proofs.Composition
import BeanPath.Proofs.Labels
import BeanPath.Proofs.Literals

/-!
# A star in front of a path

An update behind a star changes the items of a sequence one after the other, and an update behind a
position changes the item there.  So the first does what the second does at all positions in turn,
up to the first failure (`Access.star_is_all_positions_in_turn`).  That is an induction on the items
that are still to come (`Update.foldlM_positions`): those in front have been changed by the updates
before, and the next update finds its item behind them.

A position is spelled with digits, which mean nothing else in a path, and is read back as the number
that it is, as long as it is an integer of 64 bits.
-/

namespace BeanPath

open Update

/-- Runs updates one after the other, up to the first that fails.  What the last one gives counts,
and without any there is nothing. -/
def Update.inTurn {σ α : Type} (us : List (Update σ (Option α))) : Update σ (Option α) :=
  us.foldlM (fun _ u => u) none

/-! ### Positions in paths -/

namespace Path

/-- A digit means nothing but itself in a path. -/
theorem not_special_of_isDigit {c : Char} (h : c.isDigit = true) : c ∉ specials := by
  intro hc
  have all : ∀ s ∈ specials, s.isDigit = false := by simp [specials, Char.isDigit]
  rw [all c hc] at h
  cases h

/-- Digits are the path of one step. -/
theorem route_digits {text : String} (h : ∀ c ∈ text.toList, c.isDigit = true) (hne : text ≠ "") :
    route text = .ok [⟨text, none, false, 0⟩] := by
  have hstar : text ≠ "*" := by
    rintro rfl
    exact absurd (h '*' (by decide)) (by decide)
  have hseg := segments_of_plain (fun c hc => not_special_of_isDigit (h c hc)) hstar
  have hsteps : steps text = .ok [⟨text, none, false, 0⟩] := steps_iff_segments.2 ⟨[_], hseg, rfl⟩
  have hskip : Name.skip ⟨text, none, false, 0⟩ = false := by simp [Name.skip, hne]
  unfold route
  rw [hsteps]
  simp [hskip]

/-- A number is spelled with its decimal digits. -/
theorem toList_toString (i : Nat) : (toString i).toList = Nat.toDigits 10 i :=
  String.toList_ofList

/-- The spelling of a number is a path with one name, its digits. -/
theorem route_position (i : Nat) : route (toString i) = .ok [⟨toString i, none, false, 0⟩] := by
  refine route_digits (fun c hc => ?_) fun h => ?_
  · rw [toList_toString] at hc
    exact Nat.isDigit_of_mem_toDigits (by decide) (by decide) hc
  · have hlen := congrArg String.toList h
    rw [toList_toString] at hlen
    exact Nat.toDigits_ne_nil hlen

/-- A position of 64 bits is read back from its digits. -/
theorem readInteger_position {i : Nat} (h : i < 2 ^ 63) :
    readInteger .i64 (toString i) = .ok (i : Int) := by
  obtain ⟨l, hl, hv, hminus⟩ := Numeral.exists_literal_spell .decimal i
  have hspell : Numeral.spell .decimal i = (toString i).toList := by
    rw [toList_toString]
    unfold Numeral.spell
    rw [if_neg (by omega)]
    rfl
  have hgreatest : (i : Int) ≤ IntKind.greatest .i64 := by
    have hlast : IntKind.greatest .i64 = 2 ^ 63 - 1 := by decide
    omega
  have hfits : l.Fits .i64 := by
    refine ⟨?_, fun hm => ?_⟩
    · rw [hv]
      exact IntKind.holds_iff.2 ⟨(IntKind.least_nonpos _).trans (by omega), hgreatest⟩
    · have := hminus hm
      omega
  exact readInteger_eq_ok_iff.2 (Numeral.readLiteral_eq_ok_iff.2 ⟨l, hl.trans hspell, hfits, hv⟩)

end Path

/-! ### Items in turn -/

namespace Update

variable {form : SeqForm} {u : Update Value (Option Value)}
  {step : Nat → Update Value (Option Value)} {n : Nat}

/-- At every position of a sequence of a length, a step does to the item there what an update
does. -/
def Positionwise (form : SeqForm) (n : Nat) (u : Update Value (Option Value))
    (step : Nat → Update Value (Option Value)) : Prop :=
  ∀ (before after : List Value) (v : Value), before.length + (after.length + 1) = n →
    step before.length (.seq form (before ++ v :: after)) =
      u.within v (fun w => .seq form (before ++ w :: after)) (.seq form (before ++ v :: after))

/-- The steps at the positions of the items that are still to come change these one after the
other; the items in front of them have been changed already. -/
theorem foldlM_positions (h : Positionwise form n u step) (before rest : List Value)
    (hn : before.length + rest.length = n) (done : Nat) (previous : Option Value) :
    ((List.range' before.length rest.length).map step).foldlM (fun _ v => v) previous
        (.seq form (before ++ rest)) =
      match eachFrom (fun _ => u) done rest with
      | .ok given rest => .ok (given.getLast?.getD previous) (.seq form (before ++ rest))
      | .error e rest => .error e (.seq form (before ++ rest)) := by
  induction rest generalizing before done previous with
  | nil => rfl
  | cons v rest ih =>
    have hstep := h before rest v hn
    rw [within_apply] at hstep
    rw [List.length_cons, List.range'_succ, List.map_cons, List.foldlM_cons, bind_apply, hstep,
      eachFrom]
    cases u v with
    | error e w => rfl
    | ok given w =>
      -- The changed item joins those in front, and what it gave counts unless another one follows.
      have hlen : (before ++ [w]).length = before.length + 1 := by simp
      have hall : (before ++ [w]).length + rest.length = n := by
        rw [List.length_cons] at hn
        omega
      have hrest := ih (before ++ [w]) hall (done + 1) given
      rw [hlen, List.append_assoc, List.singleton_append] at hrest
      dsimp only
      rw [hrest]
      cases eachFrom (fun _ => u) (done + 1) rest with
      | error e rest => simp
      | ok more rest => simp [List.getLast?_cons]

/-- An update of every item gives what updates at all positions in turn give. -/
theorem inTurn_positions {vs : List Value} (h : Positionwise form vs.length u step) :
    inTurn ((List.range vs.length).map step) (.seq form vs) =
      match each (fun _ => u) vs with
      | .ok given vs => .ok given.getLast?.join (.seq form vs)
      | .error e vs => .error e (.seq form vs) := by
  have hall := foldlM_positions h [] vs (Nat.zero_add _) 0 none
  rw [List.length_nil, ← List.range_eq_range', List.nil_append] at hall
  unfold inTurn each
  rw [hall]
  cases eachFrom (fun _ => u) 0 vs with
  | error e vs => rfl
  | ok given vs =>
    dsimp only
    cases given.getLast? <;> rfl

end Update

namespace Navigator

variable {N : Navigator}

/-- What an update does does not depend on where its names stand in a path. -/
theorem update_map_shift (e : Edit) (ns : List Name) (d : Nat) :
    N.update e (ns.map (Name.shift d)) = N.update e ns := by
  induction ns with
  | nil => rfl
  | cons n ns ih =>
    cases ns with
    | nil =>
      show N.update e [n.shift d] = N.update e [n]
      rw [update_singleton, update_singleton]
      cases e <;> rfl
    | cons m rest =>
      show N.update e (n.shift d :: (m :: rest).map (Name.shift d)) = _
      rw [List.map_cons] at ih ⊢
      simp only [update, ih]
      rfl

/-- Where the names of an update stood in a path does not matter. -/
theorem update_cons_map_shift (e : Edit) (n m : Name) (rest : List Name) (d : Nat) :
    N.update e (n :: (m :: rest).map (Name.shift d)) = N.update e (n :: m :: rest) := by
  have hrest := update_map_shift (N := N) e (m :: rest) d
  rw [List.map_cons] at hrest ⊢
  simp only [update, hrest]

/-- Behind a star, all items are changed up to the first failure, and what the last one gives
counts. -/
theorem update_star {n m : Name} {rest : List Name} (hn : n.wild = true) (e : Edit) (form : SeqForm)
    (vs : List Value) :
    N.update e (n :: m :: rest) (.seq form vs) =
      match Update.each (fun _ => N.update e (m :: rest)) vs with
      | .ok given vs => .ok given.getLast?.join (.seq form vs)
      | .error e vs => .error e (.seq form vs) := by
  have hitems : N.forEach (fun _ => N.update e (m :: rest)) (.seq form vs) =
      (Update.each fun _ => N.update e (m :: rest)).within vs (.seq form) (.seq form vs) := by
    unfold forEach items
    rw [present_apply]
    dsimp only [Value.payload?]
    rw [within_apply, within_apply]
    cases Update.each (fun _ => N.update e (m :: rest)) vs <;> rfl
  simp only [update, hn, if_true, bind_apply, hitems, within_apply]
  cases Update.each (fun _ => N.update e (m :: rest)) vs <;> rfl

/-- Behind a position, the item there is changed. -/
theorem positionwise_update (m : Name) (rest : List Name) (e : Edit) (form : SeqForm) {n : Nat}
    {name : Nat → Name} (hw : ∀ i, (name i).wild = false)
    (hi : ∀ i < n, readInteger .i64 (name i).text = .ok (i : Int)) :
    Positionwise form n (N.update e (m :: rest)) fun i => N.update e (name i :: m :: rest) := by
  intro before after v hn
  have hlt : before.length < (before ++ v :: after).length := by simp
  have hd : N.descend (.seq form (before ++ v :: after)) (name before.length) = _ :=
    descend_seq hlt (hw _) (hi _ (by omega))
  dsimp only
  rw [update_cons_cons e (hw _) .any, Layer.visit_key, hd]
  dsimp only [Focus.update]
  have hv : (before ++ v :: after)[before.length] = v := by simp
  have hset (w : Value) : (before ++ v :: after).set before.length w = before ++ w :: after := by
    simp
  simp only [hv, hset]

end Navigator

namespace Access

variable {A : Access} {q : String} {ms : List Name} {form : SeqForm} {vs : List Value}

/-- Updating along a joined path is updating along the name in front and the names behind. -/
theorem updatePlain_join {p : String} {n m : Name} {rest : List Name}
    (hp : Path.route p = .ok [n]) (hq : Path.route q = .ok (m :: rest)) (e : Edit) :
    A.updatePlain (Path.join p .dot q) e = A.update e (n :: m :: rest) := by
  have hjoin := Path.route_join hp hq .dot
  rw [List.singleton_append] at hjoin
  rw [updatePlain_of_route hjoin, Navigator.update_cons_map_shift]

/-- Behind a star, an update is one behind every position in turn. -/
theorem updatePlain_star (hq : Path.route q = .ok ms) (hm : ms ≠ []) (hn : vs.length ≤ 2 ^ 63)
    (e : Edit) :
    A.updatePlain (Path.join "*" .dot q) e (.seq form vs) =
      inTurn ((List.range vs.length).map fun i => A.updatePlain (Path.join (toString i) .dot q) e)
        (.seq form vs) := by
  obtain ⟨m, rest, rfl⟩ := List.exists_cons_of_ne_nil hm
  have hstar : Path.route "*" = .ok [Name.wildcard] := by decide +kernel
  have hposition (i : Nat) : A.updatePlain (Path.join (toString i) .dot q) e =
      A.update e (⟨toString i, none, false, 0⟩ :: m :: rest) :=
    updatePlain_join (Path.route_position i) hq e
  have hitems : Positionwise form vs.length (A.update e (m :: rest)) fun i =>
      A.update e (⟨toString i, none, false, 0⟩ :: m :: rest) :=
    Navigator.positionwise_update m rest e form (fun _ => rfl) fun i hi =>
      Path.readInteger_position (hi.trans_le hn)
  rw [updatePlain_join hstar hq, Navigator.update_star rfl]
  simp only [hposition]
  exact (inTurn_positions hitems).symm

/-- **A star is all positions in turn.**  Without summaries of failures, writing a value behind a
star, and removing what is there, does to a list or an array what writing it or removing it behind
the positions does, from the first to the last and up to the first failure.  It gives what was there
in the last item, and fails as the first that fails does, with the items in front changed.  (A
position is a number of 64 bits, so a longer list has items that no path leads to.) -/
theorem star_is_all_positions_in_turn (A : Access) (hs : A.style = .unwrapped)
    (hq : Path.route q = .ok ms) (hm : ms ≠ []) (form : SeqForm) (hn : vs.length ≤ 2 ^ 63) :
    (∀ v, A.write (Path.join "*" .dot q) v (.seq form vs) =
      inTurn ((List.range vs.length).map fun i => A.write (Path.join (toString i) .dot q) v)
        (.seq form vs)) ∧
    A.remove (Path.join "*" .dot q) (.seq form vs) =
      inTurn ((List.range vs.length).map fun i => A.remove (Path.join (toString i) .dot q))
        (.seq form vs) := by
  refine ⟨fun v => ?_, ?_⟩
  · simp only [write, reporting_unwrapped hs]
    exact updatePlain_star hq hm hn (.put v)
  · simp only [remove, reporting_unwrapped hs]
    exact updatePlain_star hq hm hn .remove

/-- The first numbers of the rows of a grid: a row without numbers stops the update, and the row in
front of it has been changed. -/
theorem star_is_all_positions_in_turn_in_rows :
    let A : Access := { scope := ⟨Sample.schema, Sample.freshRegistry⟩, style := .unwrapped }
    let row (ns : List Int) : Value := .seq (.list .vec (.int .i32)) (ns.map (.int .i32))
    let grid : List Value → Value := .seq (.list .vec (.list .vec (.int .i32)))
    A.write "*.0" (some (.int .i32 9)) (grid [row [1, 2], row [3]]) =
        .ok (some (.int .i32 3)) (grid [row [9, 2], row [9]]) ∧
      A.write "*.0" (some (.int .i32 9)) (grid [row [1, 2], row [], row [3]]) =
        .error (Problem.outOfBounds 0 0).failure (grid [row [9, 2], row [], row [3]]) ∧
      A.remove "*.0" (grid [row [1, 2], row [3]]) =
        .ok (some (.int .i32 3)) (grid [row [2], row []]) := by
  intro A row grid
  have hq : Path.route "0" = .ok [⟨"0", none, false, 0⟩] := by decide +kernel
  have hjoin : Path.join "*" .dot "0" = "*.0" := by decide +kernel
  have h (rows : List Value) (hn : rows.length ≤ 2 ^ 63) :=
    star_is_all_positions_in_turn A rfl hq (List.cons_ne_nil _ _)
      (.list .vec (.list .vec (.int .i32))) hn
  rw [hjoin] at h
  refine ⟨((h _ (by decide)).1 _).trans ?_, ((h _ (by decide)).1 _).trans ?_,
    (h _ (by decide)).2.trans ?_⟩ <;> decide +kernel

end Access

end BeanPath
