import BeanPath.Proofs.Joins
import BeanPath.Proofs.Readings
import BeanPath.Samples

/-!
# Reading in two goes

A read along two routes, one behind the other, is a read along the first and then one of what it
gave along the second (`Navigator.follow_append`).  What the first read gives has lost an optional
layer, which no step would have seen; if it gives nothing, there is nothing to step into, and it
does not matter whether a key was not there or an optional was absent.  The steps of joined paths
are those of the parts but for their positions, and no step looks at its position
(`Navigator.get_shift`).
-/

namespace BeanPath

/-- The steps that lead somewhere in joined paths are those of one path and then of the other. -/
theorem Path.route_join {p q : String} {ns ms : List Name} (hp : Path.route p = .ok ns)
    (hq : Path.route q = .ok ms) (c : Separator) :
    Path.route (Path.join p c q) = .ok (ns ++ ms.map (Name.shift (Path.joinOffset p))) := by
  unfold route at hp hq ⊢
  cases hsp : steps p with
  | error e => rw [hsp] at hp; cases hp
  | ok names =>
    cases hsq : steps q with
    | error e => rw [hsq] at hq; cases hq
    | ok more =>
      rw [hsp] at hp
      rw [hsq] at hq
      cases hp
      cases hq
      obtain ⟨ss, hss, rfl⟩ := steps_iff_segments.1 hsp
      rw [steps_join hss, hsq]
      dsimp only
      rw [List.filter_append, List.filter_map]
      rfl

namespace Navigator

variable {N : Navigator}

/-- What a step reads does not depend on where its name stands in a path. -/
theorem get_shift (v : Value) (n : Name) (d : Nat) : N.get v (n.shift d) = N.get v n := rfl

/-- What one name leads to is looked at without one optional layer. -/
theorem follow_singleton (v : Value) (n : Name) :
    N.follow v [n] = (N.get v n).map fun r => r.bind fun reading => reading.value.content? := by
  show (N.get v n >>= fun r => pure (r.bind fun reading => reading.value.content?)) = _
  cases N.get v n <;> rfl

/-- A read with more than one name goes on from what the first one reads, and there has to be
something. -/
theorem follow_cons_cons (v : Value) (n m : Name) (rest : List Name) :
    N.follow v (n :: m :: rest) = match N.get v n with
      | .ok (some r) => N.follow r.value (m :: rest)
      | .ok none => .error Problem.nullTarget.failure
      | .error e => .error e := by
  rw [follow]
  rcases N.get v n with e | _ | r <;> rfl

/-- Where the names stood in a path does not matter to a read. -/
theorem follow_map_shift (v : Value) (ns : List Name) (d : Nat) :
    N.follow v (ns.map (Name.shift d)) = N.follow v ns := by
  induction ns generalizing v with
  | nil => rfl
  | cons n ns ih =>
    cases ns with
    | nil => rfl
    | cons m rest =>
      rw [List.map_cons, List.map_cons, follow_cons_cons, follow_cons_cons, get_shift]
      rcases N.get v n with e | _ | r
      · rfl
      · rfl
      · exact ih r.value

/-- Stepping on from what was read without one optional layer is stepping on from all of it. -/
theorem follow_content (v : Value) (m : Name) (ms : List Name) :
    N.follow v (m :: ms) = match v.content? with
      | some w => N.follow w (m :: ms)
      | none => .error Problem.nullTarget.failure := by
  cases hc : v.content? with
  | some w => exact follow_congr (Value.payload?_content hc).symm m ms
  | none =>
    have hv : v.payload? = none := by cases v <;> first | rfl | cases hc
    cases ms with
    | nil => rw [follow_singleton, get_absent hv]; rfl
    | cons k ms => rw [follow_cons_cons, get_absent hv]

/-- **Reading along two routes.**  The second route starts at what the first one leads to. -/
theorem follow_append (v : Value) (ns : List Name) (m : Name) (ms : List Name) :
    N.follow v (ns ++ m :: ms) = match N.follow v ns with
      | .ok (some w) => N.follow w (m :: ms)
      | .ok none => .error Problem.nullTarget.failure
      | .error e => .error e := by
  induction ns generalizing v with
  | nil =>
    have hnil : N.follow v [] = .ok v.content? := rfl
    rw [List.nil_append, follow_content, hnil]
    cases v.content? <;> rfl
  | cons n ns ih =>
    cases ns with
    | nil =>
      rw [List.singleton_append, follow_cons_cons, follow_singleton]
      rcases N.get v n with e | _ | r
      · rfl
      · rfl
      · dsimp only [Except.map, Option.bind]
        rw [follow_content]
        cases r.value.content? <;> rfl
    | cons k ns =>
      rw [List.cons_append, List.cons_append, follow_cons_cons, follow_cons_cons]
      rcases N.get v n with e | _ | r
      · rfl
      · rfl
      · exact ih r.value

end Navigator

/-- **Reading in two goes.**  Without summaries of failures, a read along two joined paths gives
what a read along the second gives on what the first one gave.  Nothing there is no target for the
second, and where the first fails the whole fails in the same way. -/
theorem read_join (A : Access) (hs : A.style = .unwrapped) {p q : String} {ns ms : List Name}
    (hp : Path.route p = .ok ns) (hq : Path.route q = .ok ms) (hm : ms ≠ []) (root : Value) :
    A.read root (Path.join p .dot q) = match A.read root p with
      | .ok (some v) => A.read v q
      | .ok none => .error Problem.nullTarget.failure
      | .error e => .error e := by
  obtain ⟨m, rest, rfl⟩ := List.exists_cons_of_ne_nil hm
  have hjoin := Path.route_join hp hq .dot
  rw [Access.read_unwrapped hs hjoin, Access.read_unwrapped hs hp, List.map_cons,
    Navigator.follow_append, ← List.map_cons]
  rcases A.follow root ns with e | _ | v
  · rfl
  · rfl
  · exact (Navigator.follow_map_shift v _ _).trans (Access.read_unwrapped hs hq).symm

/-- An optional list of numbers, which may be absent. -/
def Sample.listed (numbers : Option (List Int)) : Value :=
  Sample.store.value.withField "opt_list" <|
    .ofOption (.list .vec (.int .i32)) <|
      numbers.map fun ns => .seq (.list .vec (.int .i32)) (ns.map (Value.int .i32))

/-- A position in a list that is not there has no target. -/
theorem read_join_in_store :
    let A : Access := { scope := ⟨Sample.schema, Sample.freshRegistry⟩, style := .unwrapped }
    A.read (Sample.listed (some [5])) "opt_list.0" = .ok (some (.int .i32 5)) ∧
      A.read (Sample.listed none) "opt_list.0" = .error Problem.nullTarget.failure := by
  intro A
  have hp : Path.route "opt_list" = .ok [⟨"opt_list", none, false, 0⟩] := by decide +kernel
  have hq : Path.route "0" = .ok [⟨"0", none, false, 0⟩] := by decide +kernel
  have hjoin : Path.join "opt_list" .dot "0" = "opt_list.0" := by decide +kernel
  have hlist : A.read (Sample.listed (some [5])) "opt_list" =
      .ok (some (.seq (.list .vec (.int .i32)) [.int .i32 5])) := by decide +kernel
  have hnone : A.read (Sample.listed none) "opt_list" = .ok none := by decide +kernel
  have h (root : Value) := read_join A rfl hp hq (List.cons_ne_nil _ _) root
  rw [hjoin] at h
  refine ⟨(h _).trans ?_, (h _).trans ?_⟩
  · rw [hlist]
    decide +kernel
  · rw [hnone]

end BeanPath
