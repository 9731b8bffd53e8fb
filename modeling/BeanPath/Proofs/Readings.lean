import BeanPath.Proofs.Lookup
import BeanPath.Proofs.Visits

/-!
# What reading gives

A read follows names one after the other, and at every step it looks through the optional layers.
Where no getter is in the way, it gives what stands at the place that an update would step into
(`Navigator.get_of_descend`).  Access by path only adds the report of a failure to it.
-/

namespace BeanPath

open Update

namespace Navigator

variable {N : Navigator} {n : Name}

/-- Reading a step of a bean of a type does not go through a getter. -/
def NoGetter (N : Navigator) (t : Ty) (n : Name) : Prop :=
  t.core.kind = .bean →
    ∃ expected, N.scope.qualifier? n = .ok expected ∧
      N.member? .getter t.core expected n = .ok none

/-- Reading from a sequence gives an item of it, and no copy. -/
theorem get_of_seq (form : SeqForm) (vs : List Value) :
    N.get (.seq form vs) n = Problem.lift ((form.getAt vs n).map fun v => some ⟨v, false⟩) := by
  show ((liftM (form.getAt vs n) : Except Failure Value) >>=
    fun v => pure (some (Reading.mk v false))) = _
  cases form.getAt vs n <;> rfl

/-- Reading at a position of a sequence gives the item that is there. -/
theorem get_seq {form : SeqForm} {vs : List Value} {i : Nat} (hi : i < vs.length)
    (hn : n.wild = false) (hr : readInteger .i64 n.text = .ok (i : Int)) :
    N.get (.seq form vs) n = .ok (some ⟨vs[i], false⟩) := by
  rw [get_of_seq, SeqForm.getAt_eq_ok_iff.2 ⟨i, hi, hn, hr, rfl⟩]
  rfl

/-- Reading from a map gives the value of the entry that the key finds, if there is one. -/
theorem get_map {form : MapForm} {es : List (Value × Value)} {k : Value} (hn : n.wild = false)
    (hk : N.scope.keyFor form es n = .ok k) :
    N.get (.map form es) n = .ok ((N.scope.schema.entry? form es k).map (⟨·, false⟩)) := by
  have h : N.scope.getUnder form es n = .ok (N.scope.schema.entry? form es k) :=
    Scope.getUnder_eq_ok_iff.2 ⟨k, hn, hk, rfl⟩
  exact bind_eq_ok_iff.2 ⟨_, rfl, bind_eq_ok_iff.2 ⟨_, h, rfl⟩⟩

/-- Reading from a bean reads a property of it. -/
theorem get_bean {b : Value} {path : String} (hb : b.ty = .bean path) :
    N.get b n = N.getProperty b n := by
  obtain ⟨fields, hidden, rfl⟩ := Value.exists_of_ty_bean hb
  rfl

/-- Without a getter in the way, a read gives what stands at the place that a step leads to. -/
theorem get_of_descend {v : Value} {f : Focus} (hg : N.NoGetter v.ty n)
    (hd : N.descend v n = .ok (.inPlace f)) : N.get v n = .ok (some ⟨f.value, false⟩) := by
  obtain ⟨w, g, hw, hd, rfl⟩ := descend_eq_inPlace_iff.1 hd
  rw [get_congr (hw.trans (Value.payload?_payload hw).symm)]
  cases w with
  | seq form vs =>
    obtain ⟨g', hg', hd⟩ := bind_eq_ok_iff.1 hd
    cases hd
    obtain ⟨i, hi, hn, hr, rfl⟩ := SeqForm.placeAt_eq_ok_iff.1 (liftProblem_eq_ok_iff.1 hg')
    exact get_seq hi hn hr
  | map form es =>
    obtain ⟨g', hg', hd⟩ := bind_eq_ok_iff.1 hd
    cases hd
    obtain ⟨k, u, hn, hk, hu, rfl⟩ := Scope.placeUnder_eq_ok_iff.1 hg'
    rw [get_map hn hk, hu]
    rfl
  | set form vs =>
    obtain ⟨former, -, hd⟩ := bind_eq_ok_iff.1 hd
    split at hd <;> cases hd
  | bean path fields hidden =>
    have ht := Value.ty_of_payload? hw
    obtain ⟨expected, hq, hg⟩ := hg (by rw [← ht]; rfl)
    obtain ⟨expected', m, hq', hm, hp⟩ := descendProperty_eq_inPlace_iff.1 hd
    cases hq.symm.trans hq'
    rw [← ht] at hg
    exact getProperty_eq_ok_iff.2 ⟨expected, hq, .inr ⟨hg, m, some g, hm, hp, rfl⟩⟩
  | _ => cases hd

/-- Going on from what the first step reads is following the rest of the names. -/
theorem follow_cons_of_get {v : Value} {r : Reading} (h : N.get v n = .ok (some r)) (m : Name)
    (rest : List Name) : N.follow v (n :: m :: rest) = N.follow r.value (m :: rest) := by
  rw [follow, h]
  rfl

/-- What follows at least one name looks through the optional layers. -/
theorem follow_congr {v w : Value} (h : v.payload? = w.payload?) (m : Name) (rest : List Name) :
    N.follow v (m :: rest) = N.follow w (m :: rest) := by
  cases rest <;> simp only [follow, get_congr h]

/-! ### Plain fields -/

/-- A name that finds a field, and neither a getter nor a setter. -/
def PlainField (N : Navigator) (b : Value) (n : Name) (field : Member) : Prop :=
  ∃ expected, N.scope.qualifier? n = .ok expected ∧
    N.member? .field b.ty expected n = .ok (some field) ∧
    N.member? .getter b.ty expected n = .ok none ∧
    N.member? .setter b.ty expected n = .ok none

/-- A property that is a field, without a getter or a setter of its name. -/
def PlainProperty (N : Navigator) (b : Value) (n : Name) : Prop :=
  ∃ field, N.PlainField b n field

/-- Whether a property is plain can be computed: its qualifier is read, its name finds a field, and
it finds neither a getter nor a setter. -/
theorem plainProperty_iff {b : Value} :
    N.PlainProperty b n ↔
      ∃ expected ∈ (N.scope.qualifier? n).toOption,
        (N.member? .field b.ty expected n).toOption.any Option.isSome ∧
          (N.member? .getter b.ty expected n).toOption.any Option.isNone ∧
            (N.member? .setter b.ty expected n).toOption.any Option.isNone := by
  simp only [PlainProperty, PlainField, Option.mem_def, Option.any_eq_true, toOption_eq_some_iff,
    Option.isSome_iff_exists, Option.isNone_iff_eq_none]
  constructor
  · rintro ⟨field, expected, hq, hm, hg, hs⟩
    exact ⟨expected, hq, ⟨_, hm, field, rfl⟩, ⟨_, hg, rfl⟩, _, hs, rfl⟩
  · rintro ⟨expected, hq, ⟨_, hm, field, rfl⟩, ⟨_, hg, rfl⟩, _, hs, rfl⟩
    exact ⟨field, expected, hq, hm, hg, hs⟩

instance (b : Value) (n : Name) : Decidable (N.PlainProperty b n) :=
  decidable_of_iff _ plainProperty_iff.symm

end Navigator

/-! ### Access by path -/

/-- Without a summary a failure is passed on as it is. -/
theorem Failure.wrap_unwrapped (f : Failure) (kind : FailureKind) (message : String) :
    f.wrap .unwrapped kind message = f := by
  unfold wrap
  split <;> rfl

namespace Access

variable {A : Access} {path : String} {names : List Name}

/-- Access by path reads what the names of the path lead to. -/
theorem read_eq_ok_iff {root : Value} {u : Option Value} (hr : Path.route path = .ok names) :
    A.read root path = .ok u ↔ A.follow root names = .ok u := by
  unfold read readPlain
  rw [hr]
  exact mapError_eq_ok_iff

/-- Access by path writes behind the names of the path. A path without names stands for the whole
value, and that is replaced. -/
theorem write_eq_ok_iff {v previous : Option Value} {root root' : Value}
    (hr : Path.route path = .ok names) :
    A.write path v root = .ok previous root' ↔
      (names = [] ∧ Value.replace v root = .ok previous root') ∨
        (names ≠ [] ∧ A.update (.put v) names root = .ok previous root') := by
  have plain : A.write path v root = .ok previous root' ↔
      A.updatePlain path (.put v) root = .ok previous root' := by
    unfold write reporting
    cases A.updatePlain path (.put v) root <;> simp
  rw [plain]
  unfold updatePlain
  rw [bind_apply, hr]
  cases names with
  | nil => simp [liftM, monadLift, MonadLift.monadLift]
  | cons n rest => simp [liftM, monadLift, MonadLift.monadLift]

/-- Without a summary a read is that of the steps. -/
theorem read_unwrapped {root : Value} (hs : A.style = .unwrapped)
    (hr : Path.route path = .ok names) : A.read root path = A.follow root names := by
  unfold read readPlain report
  rw [hr, hs, liftProblem_ok, bind_ok]
  cases A.follow root names with
  | error e => exact congrArg Except.error (e.wrap_unwrapped ..)
  | ok u => rfl

/-- Without summaries an update reports what it did. -/
theorem reporting_unwrapped {α : Type} (hs : A.style = .unwrapped) (summary : String)
    (u : Update Value α) : A.reporting summary u = u := by
  funext root
  unfold reporting report
  rw [hs]
  cases u root with
  | error e root => exact congrArg (EStateM.Result.error · root) (e.wrap_unwrapped ..)
  | ok a root => rfl

/-- An update by path is one along its names. -/
theorem updatePlain_of_route {n : Name} {ns : List Name} (hr : Path.route path = .ok (n :: ns))
    (e : Edit) : A.updatePlain path e = A.update e (n :: ns) := by
  unfold updatePlain
  rw [hr]
  cases e <;> rfl

/-- Without a summary a write is an update along the steps, if there are any. -/
theorem write_unwrapped {n : Name} {ns : List Name} {root : Value} (hs : A.style = .unwrapped)
    (hr : Path.route path = .ok (n :: ns)) (v : Option Value) :
    A.write path v root = A.update (.put v) (n :: ns) root := by
  unfold write
  rw [reporting_unwrapped hs, updatePlain_of_route hr]

end Access

end BeanPath
