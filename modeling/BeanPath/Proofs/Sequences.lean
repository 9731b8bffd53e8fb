import BeanPath.Proofs.Positions

/-!
# Steps into sequences are operations on lists

For every form of sequences the steps by a name that denotes a number are the operations of one
plain list: the item at a position, the list with another item there (`List.set`) and, where the
length is not fixed, the list without it (`List.eraseIdx`).  The form decides only which values fit
and whether the length is fixed.  A position is a number of 64 bits, so a list of more than `2 ^ 63`
items, if there were one, would have items that no name leads to.

So the forms agree.  What a name does is fixed by the number and the items (`Navigator.ActsAt`
inside and `Navigator.Refuses` outside, one lemma each), and two outcomes that these describe differ
at most in the form that stands around the items.
-/

namespace BeanPath

open Update

namespace SeqForm

variable {form : SeqForm} {vs : List Value} {n : Name} {v : Option Value}

/-! ### Where nothing is changed -/

/-- A write to what is no position fails and changes nothing. -/
theorem putAt_of_misplaced {p : Problem} (hn : n.wild = false) (hi : n.index vs.length = .error p) :
    form.putAt n v vs = .error p.failure vs := by
  refine atomic_of_error ?_
  rw [hn, if_neg Bool.false_ne_true, hi, liftProblem_error, bind_error]

/-- A write of what does not fit fails and changes nothing, also at a position. -/
theorem putAt_of_unfit {f : Fault} {j : Fin vs.length} (hn : n.wild = false)
    (hi : n.index vs.length = .ok j) (hv : Value.fit v form.item? = .error f) :
    form.putAt n v vs = .error f.failure vs := by
  refine atomic_of_error ?_
  rw [hn, if_neg Bool.false_ne_true, hi, hv, liftProblem_ok, bind_ok]
  rfl

/-- Removing what is at no position fails and changes nothing. -/
theorem removeAt_of_misplaced {p : Problem} (hf : form.fixed = false) (hn : n.wild = false)
    (hi : n.index vs.length = .error p) : form.removeAt n vs = .error p.failure vs := by
  refine atomic_of_error ?_
  rw [hf, hn, if_neg Bool.false_ne_true, if_neg Bool.false_ne_true, hi, liftProblem_error,
    bind_error]

/-- Removing an item gives it back and closes the gap. -/
theorem removeAt_of_index {j : Fin vs.length} (hf : form.fixed = false) (hn : n.wild = false)
    (hi : n.index vs.length = .ok j) :
    form.removeAt n vs = .ok (some vs[j]) (vs.eraseIdx j) := by
  refine atomic_eq_ok_iff.2 ?_
  rw [hf, hn, if_neg Bool.false_ne_true, if_neg Bool.false_ne_true, hi, liftProblem_ok, bind_ok]
  rfl

/-! ### Stars and fixed lengths -/

/-- The star is no position. -/
theorem indexOf_star (hn : n.wild = true) :
    form.indexOf vs n = .error (.wildcardIsNoElement (form.ty vs.length)) := if_pos hn

/-- A value that fits is appended by a write to the star, and nothing was there before. -/
theorem putAt_star {w : Value} (hf : form.fixed = false) (hn : n.wild = true)
    (hv : Value.fit v form.item? = .ok w) (hw : ∀ t ∈ form.item?, w.ty = t) :
    form.putAt n v vs = .ok none (vs ++ [w]) := by
  have push : form.push vs w = .ok (vs ++ [w]) :=
    push_eq_ok_iff.2 ⟨Value.fitting_eq_ok_iff.2 ⟨rfl, hw⟩, rfl⟩
  refine atomic_eq_ok_iff.2 ?_
  rw [if_pos hn, if_neg (by simp [hf])]
  exact bind_eq_ok_iff.2 ⟨w, liftFault_eq_ok_iff.2 hv,
    bind_eq_ok_iff.2 ⟨_, liftFault_eq_ok_iff.2 push, rfl⟩⟩

/-- A value that does not fit is not appended. -/
theorem putAt_star_of_unfit {f : Fault} (hf : form.fixed = false) (hn : n.wild = true)
    (hv : Value.fit v form.item? = .error f) : form.putAt n v vs = .error f.failure vs := by
  refine atomic_of_error ?_
  rw [if_pos hn, if_neg (by simp [hf]), hv]
  rfl

/-- Nothing is appended where the length is fixed. -/
theorem putAt_star_of_fixed (hf : form.fixed = true) (hn : n.wild = true) :
    form.putAt n v vs = .error (Fault.fixedSize (form.ty vs.length)).failure vs := by
  refine atomic_of_error ?_
  rw [if_pos hn, if_pos hf]
  rfl

/-- Nothing is removed where the length is fixed, whatever the name. -/
theorem removeAt_of_fixed (hf : form.fixed = true) :
    form.removeAt n vs = .error (Fault.fixedSize (form.ty vs.length)).failure vs := by
  refine atomic_of_error ?_
  rw [if_pos hf]
  rfl

end SeqForm

namespace Navigator

/-! ### Inside and outside -/

/-- The steps by a name are the operations of a list at a position: a value that fits takes the
place of the item there, and without a fixed length the item can be taken out. -/
structure ActsAt (N : Navigator) (form : SeqForm) (vs : List Value) (n : Name) (j : Nat) :
    Prop where
  inside : j < vs.length
  get : N.get (.seq form vs) n = .ok (some ⟨vs[j], false⟩)
  descend : N.descend (.seq form vs) n = .ok (.inPlace ⟨vs[j], fun w => .seq form (vs.set j w)⟩)
  put : ∀ v w, Value.fit v form.item? = .ok w →
    N.put n v (.seq form vs) = .ok (some vs[j]) (.seq form (vs.set j w))
  put_unfit : ∀ v f, Value.fit v form.item? = .error f →
    N.put n v (.seq form vs) = .error f.failure (.seq form vs)
  remove : form.fixed = false →
    N.remove n (.seq form vs) = .ok (some vs[j]) (.seq form (vs.eraseIdx j))

/-- The steps by a name fail, all with one failure, and change nothing. -/
structure Refuses (N : Navigator) (form : SeqForm) (vs : List Value) (n : Name) (f : Failure) :
    Prop where
  get : N.get (.seq form vs) n = .error f
  descend : N.descend (.seq form vs) n = .error f
  put : ∀ v, N.put n v (.seq form vs) = .error f (.seq form vs)
  remove : form.fixed = false → N.remove n (.seq form vs) = .error f (.seq form vs)

variable {N : Navigator} {form : SeqForm} {vs : List Value} {n : Name} {i : Int}

/-- A write to a sequence is one to its items, with the form put around them again. -/
theorem put_seq (n : Name) (v : Option Value) (form : SeqForm) (vs : List Value) :
    N.put n v (.seq form vs) = match form.putAt n v vs with
      | .ok previous vs' => .ok previous (.seq form vs')
      | .error e vs' => .error e (.seq form vs') := by
  simp only [put, present_apply, Value.payload?, items, within_apply]
  cases form.putAt n v vs <;> rfl

/-- Removing from a sequence is removing from its items, with the form put around them again. -/
theorem remove_seq (n : Name) (form : SeqForm) (vs : List Value) :
    N.remove n (.seq form vs) = match form.removeAt n vs with
      | .ok previous vs' => .ok previous (.seq form vs')
      | .error e vs' => .error e (.seq form vs') := by
  simp only [remove, present_apply, Value.payload?, items, within_apply]
  cases form.removeAt n vs <;> rfl

/-- A name that denotes a position inside does what a list does there. -/
theorem actsAt (hform : form.item? ≠ some .any) {j : Nat} (h : n.Denotes j) (hj : j < vs.length)
    (small : j < 2 ^ 63) : N.ActsAt form vs n j := by
  have hr : readInteger .i64 n.text = .ok (j : Int) := h.readInteger_nat rfl (by omega)
  have hi : n.index vs.length = .ok ⟨j, hj⟩ := Name.index_eq_ok_iff.2 hr
  refine ⟨hj, N.get_seq hj h.1 hr, N.descend_seq hj h.1 hr, fun v w hv => ?_, fun v f hv => ?_,
    fun hf => ?_⟩
  · have hw : w.fitting form.item? = .ok w :=
      Value.fitting_eq_ok_iff.2 ⟨rfl, Value.ty_of_fit hform hv⟩
    have hput := (SeqForm.putAt_eq_ok_iff h.1).2 ⟨j, hj, w, hr, hv, hw, rfl, rfl⟩
    rw [put_seq, hput]
  · rw [put_seq, SeqForm.putAt_of_unfit h.1 hi hv]
  · rw [remove_seq, SeqForm.removeAt_of_index hf h.1 hi]
    rfl

/-- A name that denotes a number outside is refused by every step, for the same reason. -/
theorem refuses (h : n.Denotes i) (out : ¬ (0 ≤ i ∧ i < vs.length ∧ i < 2 ^ 63)) :
    N.Refuses form vs n (n.misplaced i vs.length).failure := by
  have hi := h.index_eq_error out
  have hform := form.indexOf_of_misplaced h out
  refine ⟨N.get_seq_of_error hform, N.descend_seq_of_error hform, fun v => ?_, fun hf => ?_⟩
  · rw [put_seq, SeqForm.putAt_of_misplaced h.1 hi]
  · rw [remove_seq, SeqForm.removeAt_of_misplaced hf h.1 hi]

/-- Writing to the star of a sequence appends what fits. -/
theorem put_seq_star {v : Option Value} {w : Value} (hform : form.item? ≠ some .any)
    (hf : form.fixed = false) (hn : n.wild = true) (hv : Value.fit v form.item? = .ok w) :
    N.put n v (.seq form vs) = .ok none (.seq form (vs ++ [w])) := by
  rw [put_seq, SeqForm.putAt_star hf hn hv (Value.ty_of_fit hform hv)]

/-- Writing to the star of a sequence fails on what does not fit and changes nothing. -/
theorem put_seq_star_of_unfit {v : Option Value} {f : Fault} (hf : form.fixed = false)
    (hn : n.wild = true) (hv : Value.fit v form.item? = .error f) :
    N.put n v (.seq form vs) = .error f.failure (.seq form vs) := by
  rw [put_seq, SeqForm.putAt_star_of_unfit hf hn hv]

end Navigator

/-! ### Forms of the same items -/

namespace SeqForm

/-- Two outcomes of a change are the same but for the form around the items that they leave. -/
inductive SameItems (f g : SeqForm) {α : Type} :
    EStateM.Result Failure Value α → EStateM.Result Failure Value α → Prop
  | ok (a : α) (vs : List Value) : SameItems f g (.ok a (.seq f vs)) (.ok a (.seq g vs))
  | error (e : Failure) (vs : List Value) :
      SameItems f g (.error e (.seq f vs)) (.error e (.seq g vs))

/-- Two steps down lead to the same item, and a change of it differs only in the form around. -/
inductive SamePlace (f g : SeqForm) : Except Failure Descent → Except Failure Descent → Prop
  | inPlace (v : Value) (items : Value → List Value) :
      SamePlace f g (.ok (.inPlace ⟨v, fun w => .seq f (items w)⟩))
        (.ok (.inPlace ⟨v, fun w => .seq g (items w)⟩))
  | error (e : Failure) : SamePlace f g (.error e) (.error e)

end SeqForm

namespace Navigator

/-- The steps by a name do the same in two forms of sequences with the same items; a write does so
if the value becomes the same for both. -/
structure Agrees (N : Navigator) (f g : SeqForm) (vs : List Value) (n : Name) : Prop where
  get : N.get (.seq f vs) n = N.get (.seq g vs) n
  descend : f.SamePlace g (N.descend (.seq f vs) n) (N.descend (.seq g vs) n)
  put : ∀ v, Value.fit v f.item? = Value.fit v g.item? →
    f.SameItems g (N.put n v (.seq f vs)) (N.put n v (.seq g vs))
  remove : f.fixed = false → g.fixed = false →
    f.SameItems g (N.remove n (.seq f vs)) (N.remove n (.seq g vs))

variable {N : Navigator} {f g : SeqForm} {vs : List Value} {n : Name}

/-- Two forms that act at the same position agree. -/
theorem ActsAt.agrees {j : Nat} (hf : N.ActsAt f vs n j) (hg : N.ActsAt g vs n j) :
    N.Agrees f g vs n where
  get := hf.get.trans hg.get.symm
  descend := by
    rw [hf.descend, hg.descend]
    exact .inPlace _ _
  put v hv := by
    cases hfit : Value.fit v f.item? with
    | ok w =>
      rw [hf.put v w hfit, hg.put v w (hv.symm.trans hfit)]
      exact .ok _ _
    | error e =>
      rw [hf.put_unfit v e hfit, hg.put_unfit v e (hv.symm.trans hfit)]
      exact .error _ _
  remove hff hgf := by
    rw [hf.remove hff, hg.remove hgf]
    exact .ok _ _

/-- Two forms that refuse a name for the same reason agree. -/
theorem Refuses.agrees {e : Failure} (hf : N.Refuses f vs n e) (hg : N.Refuses g vs n e) :
    N.Agrees f g vs n where
  get := hf.get.trans hg.get.symm
  descend := by
    rw [hf.descend, hg.descend]
    exact .error e
  put v _ := by
    rw [hf.put v, hg.put v]
    exact .error e _
  remove hff hgf := by
    rw [hf.remove hff, hg.remove hgf]
    exact .error e _

/-- Two forms with the same items agree on every name that denotes a number, inside or outside. -/
theorem agrees (hf : f.item? ≠ some .any) (hg : g.item? ≠ some .any) {i : Int}
    (h : n.Denotes i) : N.Agrees f g vs n := by
  by_cases inside : 0 ≤ i ∧ i < vs.length ∧ i < 2 ^ 63
  · obtain ⟨nonneg, lt, small⟩ := inside
    obtain ⟨j, rfl⟩ := Int.eq_ofNat_of_zero_le nonneg
    exact (actsAt hf h (by omega) (by omega)).agrees (actsAt hg h (by omega) (by omega))
  · exact (refuses h inside).agrees (refuses h inside)

/-- Two forms with the same items append the same. -/
theorem sameItems_put_star (hf : f.item? ≠ some .any) (hg : g.item? ≠ some .any)
    (hff : f.fixed = false) (hgf : g.fixed = false) (hn : n.wild = true) {v : Option Value}
    (hv : Value.fit v f.item? = Value.fit v g.item?) :
    f.SameItems g (N.put n v (.seq f vs)) (N.put n v (.seq g vs)) := by
  cases hfit : Value.fit v f.item? with
  | ok w =>
    rw [put_seq_star hf hff hn hfit, put_seq_star hg hgf hn (hv.symm.trans hfit)]
    exact .ok _ _
  | error e =>
    rw [put_seq_star_of_unfit hff hn hfit, put_seq_star_of_unfit hgf hn (hv.symm.trans hfit)]
    exact .error _ _

end Navigator

/-- **Indexed steps are operations on lists.**  In a sequence of any form, a name that denotes a
number inside acts at that position, and one that denotes a number outside is refused and changes
nothing.  A star is not read, and writing to it appends what fits.  Where the length is fixed,
writing to a star and removing anything fail as unsupported.  Two forms with the same items do the
same, as far as the same values fit. -/
theorem indexed_steps_are_list_operations (N : Navigator) {form : SeqForm}
    (hform : form.item? ≠ some .any) (vs : List Value) :
    (∀ n (j : Nat), n.Denotes j → j < vs.length → j < 2 ^ 63 → N.ActsAt form vs n j) ∧
    (∀ n (i : Int), n.Denotes i → ¬ (0 ≤ i ∧ i < vs.length ∧ i < 2 ^ 63) →
      N.Refuses form vs n (n.misplaced i vs.length).failure) ∧
    (∀ star, star.wild = true →
      (∃ f, N.get (.seq form vs) star = .error f ∧ N.descend (.seq form vs) star = .error f) ∧
      (form.fixed = false →
        (∀ v w, Value.fit v form.item? = .ok w →
          N.put star v (.seq form vs) = .ok none (.seq form (vs ++ [w]))) ∧
        ∀ v f, Value.fit v form.item? = .error f →
          N.put star v (.seq form vs) = .error f.failure (.seq form vs))) ∧
    (form.fixed = true → ∃ f, f.kind = .support ∧
      (∀ star v, star.wild = true → N.put star v (.seq form vs) = .error f (.seq form vs)) ∧
      ∀ n, N.remove n (.seq form vs) = .error f (.seq form vs)) ∧
    ∀ other : SeqForm, other.item? ≠ some .any →
      (∀ n (i : Int), n.Denotes i → N.Agrees form other vs n) ∧
      (form.fixed = false → other.fixed = false → ∀ star v, star.wild = true →
        Value.fit v form.item? = Value.fit v other.item? →
        form.SameItems other (N.put star v (.seq form vs)) (N.put star v (.seq other vs))) := by
  refine ⟨fun n j h hj small => N.actsAt hform h hj small, fun n i h out => N.refuses h out,
    fun star hs => ⟨⟨_, N.get_seq_of_error (SeqForm.indexOf_star hs),
      N.descend_seq_of_error (SeqForm.indexOf_star hs)⟩, fun hf => ⟨?_, ?_⟩⟩,
    fun hf => ⟨(Fault.fixedSize (form.ty vs.length)).failure, rfl, fun star v hs => ?_,
      fun n => ?_⟩, fun other hother => ⟨?_, ?_⟩⟩
  · exact fun v w hv => N.put_seq_star hform hf hs hv
  · exact fun v f hv => N.put_seq_star_of_unfit hf hs hv
  · rw [N.put_seq, SeqForm.putAt_star_of_fixed hf hs]
  · rw [N.remove_seq, SeqForm.removeAt_of_fixed hf]
  · exact fun n i h => N.agrees hform hother h
  · exact fun hf hg star v hs hv => N.sameItems_put_star hform hother hf hg hs hv

/-- A list of optional numbers: a position in hexadecimal digits is inside and one below zero is
outside, what is written is put under the layer of the items, and an array of the same items agrees
at both. -/
theorem indexed_steps_are_list_operations_in_rows :
    let N : Navigator := { scope := ⟨Sample.schema, Sample.freshRegistry⟩ }
    let form := SeqForm.list .deque (.option (.int .i32))
    let other := SeqForm.array (.option (.int .i32))
    let vs := [Value.absent (.int .i32), .present (.int .i32 7)]
    let second := Name.literal "0X1"
    form.item? ≠ some .any ∧ second.Denotes 1 ∧
      N.put second (some (.int .i32 8)) (.seq form vs) = .ok (some (.present (.int .i32 7)))
        (.seq form [.absent (.int .i32), .present (.int .i32 8)]) ∧
      N.remove second (.seq form vs) =
        .ok (some (.present (.int .i32 7))) (.seq form [.absent (.int .i32)]) ∧
      N.get (.seq form vs) (Name.literal "-1") = .error (.outOfBounds "-1" 2) ∧
      N.put .wildcard (some (.int .i32 8)) (.seq form vs) = .ok none
        (.seq form [.absent (.int .i32), .present (.int .i32 7), .present (.int .i32 8)]) ∧
      (∃ f, f.kind = .support ∧ N.remove second (.seq other vs) = .error f (.seq other vs)) ∧
      N.Agrees form other vs second ∧ N.Agrees form other vs (Name.literal "-1") := by
  intro N form other vs second
  have second_denotes : second.Denotes 1 :=
    Name.denotes_of_readInteger (k := .i64) rfl (by decide +kernel)
  have below_denotes : (Name.literal "-1").Denotes (-1) :=
    Name.denotes_of_readInteger (k := .i64) rfl (by decide +kernel)
  have typed : form.item? ≠ some .any := by decide
  have other_typed : other.item? ≠ some .any := by decide
  obtain ⟨acts, refuses, star, -, same⟩ := indexed_steps_are_list_operations N typed vs
  obtain ⟨-, -, -, fixed, -⟩ := indexed_steps_are_list_operations N other_typed vs
  have inside := acts second 1 second_denotes (by decide) (by decide)
  have agree := (same other other_typed).1
  have appended := ((star .wildcard rfl).2 rfl).1 (some (.int .i32 8)) _ rfl
  obtain ⟨f, hf, -, removed⟩ := fixed rfl
  exact ⟨typed, second_denotes, inside.put _ _ rfl, inside.remove rfl,
    (refuses _ (-1) below_denotes (by decide)).get, appended, ⟨f, hf, removed second⟩,
    agree _ _ second_denotes, agree _ _ below_denotes⟩

end BeanPath
