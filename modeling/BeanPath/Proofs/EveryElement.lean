import BeanPath.Proofs.FiniteSets
import Mathlib.Data.Finset.Lattice.Lemmas

/-!
# Changing every element of a set

A change of every element takes all of them out first, changes them one after the other as a list,
and takes in what they have become.  So the calls are on the elements as they were, in their order,
up to the first that fails (`Update.eachFrom_of_ok`, `Update.eachFrom_of_error`), whatever becomes
of them: a changed element can only meet the others when they are taken in again.  There equal ones
merge (`Scope.exists_takeInAll`), so the members are the finite set of what the list has become.
-/

namespace BeanPath

open Update

/-! ### One call after the other -/

namespace Update

variable {σ α : Type} {u : Nat → Update σ α}

/-- Calls that succeed on all members of a list, each with the number of those in front. -/
def SucceedsOn (u : Nat → Update σ α) (done : Nat) (ss : List σ) : Prop :=
  ∀ i (hi : i < ss.length), ∃ a t, u (done + i) ss[i] = .ok a t

/-- Calls that succeed on all members succeed on the first. -/
theorem SucceedsOn.head {done : Nat} {s : σ} {ss : List σ} (h : SucceedsOn u done (s :: ss)) :
    ∃ a t, u done s = .ok a t := h 0 (Nat.zero_lt_succ _)

/-- Calls that succeed on all members succeed on those behind the first, with one call more made
before. -/
theorem SucceedsOn.tail {done : Nat} {s : σ} {ss : List σ} (h : SucceedsOn u done (s :: ss)) :
    SucceedsOn u (done + 1) ss := by
  intro i hi
  have hn := h (i + 1) (Nat.succ_lt_succ hi)
  have hi : done + 1 + i = done + (i + 1) := by omega
  rw [hi]
  exact hn

/-- Without a failure every member becomes what its own call leaves, and the results are those of
the calls. -/
theorem eachFrom_of_ok {done : Nat} {ss : List σ} (h : SucceedsOn u done ss) :
    ∃ as, eachFrom u done ss = .ok as (ss.mapIdx fun i s => state (u (done + i) s)) ∧
      as.map Except.ok = ss.mapIdx fun i s => result (u (done + i) s) := by
  induction ss generalizing done with
  | nil => exact ⟨[], rfl, rfl⟩
  | cons s ss ih =>
    obtain ⟨a, t, hs⟩ := h.head
    obtain ⟨as, has, hresults⟩ := ih h.tail
    refine ⟨a :: as, ?_, ?_⟩
    · simp only [eachFrom, has, List.mapIdx_cons, Nat.add_zero, hs, state, Nat.add_assoc,
        Nat.add_comm 1]
    · simp only [List.map_cons, List.mapIdx_cons, Nat.add_zero, hs, result, hresults,
        Nat.add_assoc, Nat.add_comm 1]

/-- The first failure ends the calls: the members behind it are not touched. -/
theorem eachFrom_of_error {done : Nat} {before after : List σ} {s t : σ} {e : Failure}
    (h : SucceedsOn u done before) (he : u (done + before.length) s = .error e t) :
    eachFrom u done (before ++ s :: after) =
      .error e (before.mapIdx (fun i s => state (u (done + i) s)) ++ t :: after) := by
  induction before generalizing done with
  | nil =>
    have he : u done s = .error e t := he
    simp only [List.nil_append, eachFrom, he, List.mapIdx_nil]
  | cons b before ih =>
    obtain ⟨a, w, hb⟩ := h.head
    have hl : done + (b :: before).length = done + 1 + before.length := by
      rw [List.length_cons]
      omega
    rw [hl] at he
    simp only [List.cons_append, eachFrom, ih h.tail he, List.mapIdx_cons, Nat.add_zero, hb, state,
      Nat.add_assoc, Nat.add_comm 1]

end Update

/-! ### Out and in again -/

namespace Scope

variable {C : Scope} {form : SetForm} {vs : List Value}

/-- Elements that find themselves are all taken out. -/
theorem takeOutAll_self (h : ∀ v ∈ vs, form.Holds v.ty) : C.takeOutAll form vs vs = .ok vs [] := by
  induction vs with
  | nil => rfl
  | cons v vs ih =>
    have hv : C.schema.isElement form v v = true :=
      (Schema.isElement_iff (h v List.mem_cons_self)).2 rfl
    have ih := ih fun w hw => h w (List.mem_cons_of_mem _ hw)
    have hf : C.schema.element? form (v :: vs) v = some v := List.find?_cons_of_pos hv
    rw [takeOutAll, bind_apply, takeOut_apply, hf, List.eraseP_cons_of_pos hv]
    simp only [bind_apply, ih]
    rfl

/-- Taking in several values adds them to the members, equal ones once. -/
theorem exists_takeInAll {ws : List Value} (h : ∀ v ∈ vs, form.Holds v.ty) (hn : vs.Nodup)
    (hw : ∀ w ∈ ws, form.Holds w.ty) :
    ∃ vs', C.takeInAll form ws vs = .ok () vs' ∧
      Value.Lists vs' (vs.toFinset ∪ ws.toFinset) := by
  -- the elements taken in before vary, and stay found by what they are
  induction ws generalizing vs with
  | nil => exact ⟨vs, rfl, hn, by simp⟩
  | cons w ws ih =>
    have hwt : form.Holds w.ty := hw w List.mem_cons_self
    obtain ⟨taken, vs₁, ht, hl⟩ := C.exists_takeIn h hn hwt.typed
    have h₁ : ∀ v ∈ vs₁, form.Holds v.ty := by
      intro v hv
      rw [hl.mem_iff, Finset.mem_insert, List.mem_toFinset] at hv
      rcases hv with rfl | hv
      · exact hwt
      · exact h v hv
    obtain ⟨vs', hin, hl'⟩ := ih h₁ hl.1 fun x hx => hw x (List.mem_cons_of_mem _ hx)
    refine ⟨vs', ?_, hl'.1, ?_⟩
    · rw [takeInAll, bind_apply, ht]
      exact hin
    · rw [hl'.2, hl.2, List.toFinset_cons, Finset.insert_union, Finset.union_insert]

variable {α : Type} {u : Nat → Update Value α}

/-- What the elements have become is taken in again, after a failure too. -/
theorem exists_eachElement (h : ∀ v ∈ vs, form.Holds v.ty)
    (hw : ∀ w ∈ state (eachFrom u 0 vs), form.Holds w.ty) :
    ∃ vs', Value.Lists vs' (state (eachFrom u 0 vs)).toFinset ∧
      C.eachElement form u vs = match eachFrom u 0 vs with
        | .ok as _ => .ok as vs'
        | .error e _ => .error e vs' := by
  have hempty : ∀ v ∈ ([] : List Value), form.Holds v.ty := nofun
  obtain ⟨vs', hin, hl⟩ := C.exists_takeInAll hempty .nil hw
  rw [List.toFinset_nil, Finset.empty_union] at hl
  refine ⟨vs', hl, ?_⟩
  have heach : Update.each u vs = eachFrom u 0 vs := rfl
  simp only [eachElement, bind_apply, get_apply, takeOutAll_self h, heach]
  cases hu : eachFrom u 0 vs with
  | ok as ws =>
    rw [hu, state] at hin
    simp only [bind_apply, hin]
    rfl
  | error e ws =>
    rw [hu, state] at hin
    simp only [bind_apply, hin]
    rfl

end Scope

/-- A type-preserving change leaves values that are found by what they are. -/
theorem Update.KeepsType.holds_mapIdx {α : Type} {u : Nat → Update Value α}
    (hu : ∀ i, (u i).KeepsType) {form : SetForm} {vs : List Value}
    (h : ∀ v ∈ vs, form.Holds v.ty) :
    ∀ w ∈ vs.mapIdx (fun i v => state (u i v)), form.Holds w.ty := by
  intro w hw
  obtain ⟨i, hi, rfl⟩ := List.mem_mapIdx.1 hw
  have ht : (state (u i vs[i])).ty = vs[i].ty := hu i vs[i]
  rw [ht]
  exact h vs[i] (List.getElem_mem hi)

/-- A call that gives back the text that it was on, and leaves the next one of `a`, `b` and `c`. -/
def Sample.advance (_call : Nat) : Update Value Value := fun v =>
  .ok v (if v = .text "a" then .text "b" else if v = .text "b" then .text "c" else v)

end BeanPath
