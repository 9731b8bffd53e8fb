import BeanPath.Proofs.Distinct
import BeanPath.Proofs.Levels
import BeanPath.Proofs.Typing

/-!
# Found members can be used

A lookup knows types only, and a member is used on a value.  A value conforms to its type if the
fields that its bean declares are there and have their declared types, and what they hold conforms
in turn (`Schema.Conforms`).  By induction on the levels of the type, the fields that lead to a
level then lead to its bean, or to an optional that is absent (`Schema.Conforms.arrives`).  So a
found member is applied to the bean that declares it, and nothing is left to go wrong there but an
error of its own method (`found_members_apply`).

What is written stays inside that bean: the owner before and after are the same outside of it
(`Value.SameOutside`).
-/

namespace BeanPath

namespace Value

/-! ### The way to a bean -/

/-- Whether the owner, or one of the parents on the way, is an optional without content. -/
def absentOn : Value → List String → Bool
  | v, [] => v.payload?.isNone
  | v, n :: ns =>
    match v.payload? with
    | none => true
    | some w => (w.field? n).any fun u => u.absentOn ns

/-- The bean that fields lead to, each under its optional layers, and the owner under its own. -/
def reach (v : Value) (ns : List String) : Except Problem Value :=
  v.unwrapped >>= fun w => w.embedded ns

/-- Nothing is reached from a value that is absent. -/
theorem reach_of_absent {v : Value} (h : v.payload? = none) (ns : List String) :
    v.reach ns = .error .nullTarget := by
  unfold reach unwrapped
  rw [h]
  rfl

/-- Where no field leads, the content of the value itself is reached. -/
theorem reach_nil {v w : Value} (h : v.payload? = some w) : v.reach [] = .ok w := by
  unfold reach
  rw [unwrapped_eq_ok_iff.2 h]
  rfl

/-- The first field is looked for in the content of the value, and the others are followed from what
it holds. -/
theorem reach_cons {v w : Value} (h : v.payload? = some w) (n : String) (ns : List String) :
    v.reach (n :: ns) =
      match w.field? n with
      | none => .error (.noMember w.ty n)
      | some u => u.reach ns := by
  unfold reach
  rw [unwrapped_eq_ok_iff.2 h, bind_ok, embedded]
  cases w.field? n with
  | none => rfl
  | some u =>
    dsimp only
    unfold unwrapped
    cases u.payload? <;> rfl

/-- The way ends early exactly at an absent optional, if all fields on it are there. -/
theorem reach_eq_nullTarget_iff {v : Value} {ns : List String} :
    v.reach ns = .error .nullTarget ↔ v.absentOn ns = true := by
  induction ns generalizing v with
  | nil =>
    unfold absentOn
    cases hv : v.payload? with
    | none => simp [reach_of_absent hv]
    | some w => simp [reach_nil hv]
  | cons n ns ih =>
    unfold absentOn
    cases hv : v.payload? with
    | none => simp [reach_of_absent hv]
    | some w =>
      rw [reach_cons hv]
      dsimp only
      cases w.field? n with
      | none => simp
      | some u => exact ih

/-- A bean is reached exactly if the value has a content and the bean is embedded in that. -/
theorem reach_eq_ok_iff {v x : Value} {ns : List String} :
    v.reach ns = .ok x ↔ ∃ w, v.payload? = some w ∧ w.embedded ns = .ok x := by
  unfold reach
  simp only [bind_eq_ok_iff, unwrapped_eq_ok_iff]

/-! ### Outside a bean -/

/-- Values that are the same outside the bean that fields lead to. -/
inductive SameOutside : List String → Value → Value → Prop where
  /-- The bean itself, whatever has become of its own fields. -/
  | here {path : String} {fields hidden fields' hidden' : List (String × Value)} :
    SameOutside [] (bean path fields hidden) (bean path fields' hidden')
  /-- What is under an optional layer. -/
  | layer {ns : List String} {v v' : Value} (h : SameOutside ns v v') :
    SameOutside ns (present v) (present v')
  /-- A bean with the field that leads on; its other fields are the same. -/
  | field {path n : String} {ns : List String} {before after hidden : List (String × Value)}
    {u u' : Value} (hn : ∀ e ∈ before, e.1 ≠ n) (h : SameOutside ns u u') :
    SameOutside (n :: ns) (bean path (before ++ (n, u) :: after) hidden)
      (bean path (before ++ (n, u') :: after) hidden)

/-- Putting back a content that differs in a bean only makes a whole that does. -/
theorem SameOutside.withPayload {v w w' : Value} {ns : List String} (hv : v.payload? = some w)
    (h : SameOutside ns w w') : SameOutside ns v (v.withPayload w') := by
  fun_induction payload? v with
  | case1 => cases hv
  | case2 v ih => exact .layer (ih hv)
  | case3 v notAbsent notPresent =>
    cases hv
    rwa [withPayload_of_kind (kind_ne_optional notAbsent notPresent)]

/-- Writing back to a field what differs in a bean only makes a whole that does. -/
theorem SameOutside.withField {v u u' : Value} {n : String} {ns : List String}
    (hu : v.field? n = some u) (h : SameOutside ns u u') :
    SameOutside (n :: ns) v (v.withField n u') := by
  obtain ⟨path, fields, hidden, rfl, hl⟩ := exists_of_field? hu
  rw [lookup_eq_find?] at hl
  obtain ⟨e, he, rfl⟩ := Option.map_eq_some_iff.1 hl
  obtain ⟨hn, before, after, rfl, hb⟩ := List.find?_eq_some_iff_append.1 he
  obtain rfl : e.1 = n := by simpa using hn
  have hb : ∀ f ∈ before, (f.1 == e.1) = false := fun f hf => by simpa using hb f hf
  have hset := updateFirst_of_first (p := fun f => f.1 == e.1) hb hn (fun f => (f.1, u')) after
  unfold Value.withField
  dsimp only
  rw [hset]
  exact .field (fun f hf => by simpa using hb f hf) h

/-- Another bean of the same type makes a difference only where the fields lead. -/
theorem SameOutside.withEmbedded {v x x' : Value} {ns : List String} {path : String}
    (hx : v.embedded ns = .ok x) (ht : x.ty = .bean path) (ht' : x'.ty = .bean path) :
    SameOutside ns v (v.withEmbedded ns x') := by
  induction ns generalizing v with
  | nil =>
    cases hx
    obtain ⟨fields, hidden, rfl⟩ := exists_of_ty_bean ht
    obtain ⟨fields', hidden', rfl⟩ := exists_of_ty_bean ht'
    exact .here
  | cons n ns ih =>
    obtain ⟨u, w, hu, hw, hx⟩ := embedded_cons_eq_ok_iff.1 hx
    rw [withEmbedded_cons hu hw]
    exact .withField hu ((ih hx).withPayload hw)

end Value

namespace Schema

/-! ### Values that conform to their types -/

variable {S : Schema}

/-- What members are found in belongs to a class: the content of an optional, and the fields that a
bean declares, which are all there and have their declared types. -/
def Furnished (S : Schema) (W : Value → Prop) : Value → Prop
  | .present v => W v
  | .bean path fields _ =>
    ∀ b ∈ S.bean? path, ∀ f ∈ b.fields, ∃ u ∈ fields.lookup f.name, W u ∧ u.ty = f.ty
  | _ => True

instance {W : Value → Prop} [DecidablePred W] : (v : Value) → Decidable (S.Furnished W v)
  | .present v => inferInstanceAs (Decidable (W v))
  | .bean path fields _ => inferInstanceAs <| Decidable <|
    ∀ b ∈ S.bean? path, ∀ f ∈ b.fields, ∃ u ∈ fields.lookup f.name, W u ∧ u.ty = f.ty
  | .atom _ | .sealed _ _ | .absent _ | .seq _ _ | .map _ _ | .set _ _ => .isTrue trivial

/-- A value in which all declared fields are there with their declared types, all the way down. -/
def Conforms (S : Schema) (v : Value) : Prop :=
  ∃ W : Value → Prop, W v ∧ ∀ w, W w → S.Furnished W w

/-- From a value, the fields that lead to a level lead to its bean, or to an absent optional. -/
def Arrives (S : Schema) (v : Value) (l : Level) : Prop :=
  v.reach l.parents = .error .nullTarget ∨
    ∃ x, v.reach l.parents = .ok x ∧ S.Conforms x ∧ x.ty = .bean l.bean.path ∧
      S.bean? l.bean.path = some l.bean

/-- Finitely many values that are furnished with each other conform to their types. -/
theorem conforms_of_mem {vs : List Value} (h : ∀ v ∈ vs, S.Furnished (· ∈ vs) v) {v : Value}
    (hv : v ∈ vs) : S.Conforms v := ⟨(· ∈ vs), hv, h⟩

namespace Conforms

variable {v w : Value}

/-- The content of a value that conforms to its type conforms to its own. -/
theorem payload (h : S.Conforms v) (hw : v.payload? = some w) : S.Conforms w := by
  obtain ⟨W, hv, hW⟩ := h
  fun_induction Value.payload? v with
  | case1 => cases hw
  | case2 v ih => exact ih hw (hW _ hv)
  | case3 v _ _ => cases hw; exact ⟨W, hv, hW⟩

/-- A declared field is there. -/
theorem exists_field {path : String} {b : Bean} {f : Field} (h : S.Conforms v)
    (hv : v.ty = .bean path) (hb : S.bean? path = some b) (hf : f ∈ b.fields) :
    ∃ u, v.field? f.name = some u ∧ S.Conforms u ∧ u.ty = f.ty := by
  obtain ⟨W, hw, hW⟩ := h
  obtain ⟨fields, hidden, rfl⟩ := Value.exists_of_ty_bean hv
  obtain ⟨u, hu, hwu, ht⟩ := hW _ hw b hb f hf
  exact ⟨u, hu, ⟨W, hwu, hW⟩, ht⟩

/-- The fields of a level lead from a value of the type to the bean of the level, or to an absent
optional, by induction on the levels. -/
theorem arrives {t : Ty} {l : Level} (hl : l ∈ S.levels t) (hv : S.Conforms v) (ht : v.ty = t) :
    S.Arrives v l := by
  refine levels_induction (P := fun t l => ∀ v, S.Conforms v → v.ty = t → S.Arrives v l)
    ?own ?parent hl v hv ht
  case own =>
    intro t b hb v hv ht
    obtain ⟨hc, hb⟩ := core_of_beanOf? hb
    cases hw : v.payload? with
    | none => exact .inl (Value.reach_of_absent hw _)
    | some w =>
      have hty : w.ty = .bean b.path := (Value.ty_of_payload? hw).trans (ht ▸ hc)
      exact .inr ⟨w, Value.reach_nil hw, hv.payload hw, hty, hb⟩
  case parent =>
    intro t b f l hb hp hl ih v hv ht
    obtain ⟨hc, hb⟩ := core_of_beanOf? hb
    cases hw : v.payload? with
    | none => exact .inl (Value.reach_of_absent hw _)
    | some w =>
      have hty : w.ty = .bean b.path := (Value.ty_of_payload? hw).trans (ht ▸ hc)
      obtain ⟨n, -, hn⟩ := Option.bind_eq_some_iff.1 hp
      have hf := List.mem_of_find?_eq_some hn
      obtain ⟨u, hu, hcu, htu⟩ := (hv.payload hw).exists_field hty hb hf
      have hstep : v.reach (l.under f.name).parents = u.reach l.parents := by
        show v.reach (f.name :: l.parents) = _
        rw [Value.reach_cons hw, hu]
      unfold Arrives
      rw [hstep]
      exact ih u hcu htu

end Conforms
end Schema

namespace Method

/-! ### Calling a method on its own bean -/

variable {m : Method}

/-- A method in the role of a getter is one. -/
theorem exists_getter (h : m.role = .getter) : ∃ run, m.behaviour = .getter run := by
  unfold role at h
  split at h
  · exact ⟨_, ‹_›⟩
  · cases h

/-- A method in the role of a setter is one. -/
theorem exists_setter (h : m.role = .setter) : ∃ run, m.behaviour = .setter run := by
  unfold role at h
  split at h
  · cases h
  · exact ⟨_, ‹_›⟩

/-- A getter called on its own bean gives what it returns, or reports the error that it returns. -/
theorem get_value {run : Record → Except ExternalError Value} (h : m.behaviour = .getter run)
    (path : String) (r : Record) :
    m.get path (r.value path) = (run r).mapError (.invocation m.name) := by
  unfold get
  rw [h, Value.record_eq_ok_iff.2 rfl]
  rfl

/-- A setter called on its own bean with a value of its type gives the bean that it leaves, or
reports the error that it returns. -/
theorem set_value {run : Record → Value → Except ExternalError Record}
    (h : m.behaviour = .setter run) (path : String) (r : Record) {w : Value} (hw : w.ty = m.ty) :
    m.set path (r.value path) w =
      ((run r w).map fun r => r.value path).mapError (.invocation m.name) := by
  unfold set
  rw [h, Value.record_eq_ok_iff.2 rfl]
  dsimp only
  rw [bind_ok, if_pos hw]
  cases run r w <;> rfl

end Method

namespace Member

/-! ### Using a member on the bean that declares it -/

variable {m : Member} {v w x u : Value} {r : Record}

/-- The getter of the member reports an error when it is called on the bean that declares it. -/
def GetterReports (m : Member) (v : Value) (e : ExternalError) : Prop :=
  ∃ method run r f, m.declaration = .getter method ∧ method.behaviour = .getter run ∧
    m.receiver v = .ok f ∧ f.value = r.value m.bean ∧ run r = .error e

/-- The setter of the member reports an error when it is called on the bean that declares it. -/
def SetterReports (m : Member) (v w : Value) (e : ExternalError) : Prop :=
  ∃ method run r f, m.declaration = .setter method ∧ method.behaviour = .setter run ∧
    m.receiver v = .ok f ∧ f.value = r.value m.bean ∧ run r w = .error e

/-- A member has no bean where the way to it fails. -/
theorem receiver_of_error {p : Problem} (h : v.reach m.parents = .error p) :
    m.receiver v = .error p := by
  have hr := m.receiver_eq v
  rw [hr, show (v.unwrapped >>= fun w => w.embedded m.parents) = .error p from h]
  rfl

/-- The bean of a member is what is reached by the fields of its parents, and another one is put
back in its place. -/
theorem receiver_of_reach (h : v.reach m.parents = .ok x) :
    ∃ b, v.payload? = some b ∧ b.embedded m.parents = .ok x ∧
      m.receiver v = .ok ⟨x, fun y => v.withPayload (b.withEmbedded m.parents y)⟩ := by
  obtain ⟨b, hb, hx⟩ := Value.reach_eq_ok_iff.1 h
  exact ⟨b, hb, hx, receiver_eq_ok_iff.2 ⟨b, x, hb, hx, rfl⟩⟩

/-- A member cannot be read where the way to its bean fails, and for that reason. -/
theorem get_of_error {p : Problem} (h : v.reach m.parents = .error p) :
    m.get v = .error p.failure := by
  unfold get
  rw [receiver_of_error h]
  rfl

/-- A member cannot be written where the way to its bean fails, and for that reason. -/
theorem set_of_error {p : Problem} (h : v.reach m.parents = .error p) (w : Value) :
    m.set v w = .error p.failure := by
  unfold set
  rw [receiver_of_error h]
  rfl

/-- Reading a field gives what the declaring bean has in it. -/
theorem get_of_field {d : Field} (hd : m.declaration = .field d)
    (hx : v.reach m.parents = .ok x) (hu : x.field? d.name = some u) : m.get v = .ok u := by
  obtain ⟨b, hb, hx⟩ := Value.reach_eq_ok_iff.1 hx
  have hp := place?_eq_ok_some_iff.2 ⟨d, b, x, u, hd, hb, hx, hu, rfl⟩
  exact (get_field_eq_ok_iff hd).2 ⟨_, hp, rfl⟩

/-- A field is written with a value of its type, and only the declaring bean changes. -/
theorem set_of_field {d : Field} {path : String} (hd : m.declaration = .field d)
    (hx : v.reach m.parents = .ok x) (ht : x.ty = .bean path) (hu : x.field? d.name = some u)
    (hw : w.ty = u.ty) : ∃ v', m.set v w = .ok v' ∧ Value.SameOutside m.parents v v' := by
  obtain ⟨b, hb, hx⟩ := Value.reach_eq_ok_iff.1 hx
  have hp := place?_eq_ok_some_iff.2 ⟨d, b, x, u, hd, hb, hx, hu, rfl⟩
  refine ⟨_, (set_field_eq_ok_iff hd).2 ⟨_, hp, hw, rfl⟩, ?_⟩
  have ht' : (x.withField d.name w).ty = .bean path := (Value.ty_withField ..).trans ht
  exact (Value.SameOutside.withEmbedded hx ht ht').withPayload hb

/-- Reading by a getter gives a value unless the getter itself reports an error. -/
theorem get_of_getter {method : Method} (hd : m.declaration = .getter method)
    (hr : method.role = .getter) (hx : v.reach m.parents = .ok (r.value m.bean)) :
    (∃ u, m.get v = .ok u) ∨
      ∃ e, m.GetterReports v e ∧ m.get v = .error (Fault.invocation m.name e).failure := by
  obtain ⟨b, hb, -, hrec⟩ := receiver_of_reach hx
  obtain ⟨run, hrun⟩ := Method.exists_getter hr
  have hget : m.get v = Fault.lift ((run r).mapError (.invocation m.name)) := by
    unfold get name
    rw [hrec, hd, liftProblem_ok, bind_ok]
    dsimp only
    rw [Method.get_value hrun]
    rfl
  rw [hget]
  cases hval : run r with
  | ok u => exact .inl ⟨u, rfl⟩
  | error e => exact .inr ⟨e, ⟨method, run, r, _, hd, hrun, hrec, rfl, hval⟩, rfl⟩

/-- Writing by a setter changes the declaring bean only, unless the setter itself reports an
error. -/
theorem set_of_setter {method : Method} (hd : m.declaration = .setter method)
    (hr : method.role = .setter) (hx : v.reach m.parents = .ok (r.value m.bean))
    (hw : w.ty = method.ty) :
    (∃ v', m.set v w = .ok v' ∧ Value.SameOutside m.parents v v') ∨
      ∃ e, m.SetterReports v w e ∧ m.set v w = .error (Fault.invocation m.name e).failure := by
  obtain ⟨b, hb, hemb, hrec⟩ := receiver_of_reach hx
  obtain ⟨run, hrun⟩ := Method.exists_setter hr
  have hset : m.set v w = (Fault.lift (((run r w).map fun r => r.value m.bean).mapError
      (.invocation m.name))).map fun x => v.withPayload (b.withEmbedded m.parents x) := by
    unfold set name
    rw [hrec, hd, liftProblem_ok, bind_ok]
    dsimp only
    rw [Method.set_value hrun m.bean r hw]
    cases run r w <;> rfl
  rw [hset]
  cases hval : run r w with
  | ok r' => exact .inl ⟨_, rfl, (Value.SameOutside.withEmbedded hemb rfl rfl).withPayload hb⟩
  | error e => exact .inr ⟨e, ⟨method, run, r, _, hd, hrun, hrec, rfl, hval⟩, rfl⟩

end Member

namespace Schema

/-! ### Using what a lookup finds -/

variable {S : Schema} {q : Query} {m : Member} {v : Value}

/-- What the singular lookup gives, and what the plural one gives. -/
def Finds (S : Schema) (q : Query) (owner : Ty) (m : Member) : Prop :=
  S.member? q owner = .ok (some m) ∨ ∃ ms, S.members q owner = .ok ms ∧ m ∈ ms

/-- What a lookup finds is declared, in the role that was asked for, at a level of the owner. -/
theorem Finds.exists_level {owner : Ty} (h : S.Finds q owner m) :
    ∃ l ∈ S.levels owner, ∃ d ∈ l.bean.declarations q.role, m = l.member d := by
  rcases h with h | ⟨ms, h, hm⟩
  · obtain ⟨l, hl, d, hd, hm⟩ := exists_level_of_member? h
    exact ⟨l, hl, d, Query.mem_declarations_of_mem_matching hd, hm⟩
  · have hc : q.check = .ok () := (bind_eq_ok_iff.1 h).choose_spec.1
    obtain ⟨rfl, -⟩ := (members_eq_ok_iff hc).1 h
    obtain ⟨l, hl, hm⟩ := List.mem_flatMap.1 hm
    rw [Query.found_eq] at hm
    obtain ⟨d, hd, rfl⟩ := List.mem_map.1 hm
    exact ⟨l, hl, d, Query.mem_declarations_of_mem_matching hd, rfl⟩

/-- **Found members can be used.**  On a value that conforms to the type of a lookup, a member that
it finds fails on an absent optional on the way to the bean that declares it.  Otherwise what is
asked for as a field or a getter can be read, what is asked for as a field or a setter can be
written with a value of its type, and only the method itself can report an error.  What is written
changes nothing outside the bean that declares the member. -/
theorem found_members_apply (hm : S.Finds q v.ty m) (hv : S.Conforms v) :
    (v.absentOn m.parents = true →
      m.get v = .error Problem.nullTarget.failure ∧
        ∀ w, m.set v w = .error Problem.nullTarget.failure) ∧
    (v.absentOn m.parents = false →
      (q.role ≠ .setter →
        (∃ u, m.get v = .ok u) ∨
          ∃ e, m.GetterReports v e ∧ m.get v = .error (Fault.invocation m.name e).failure) ∧
      (q.role ≠ .getter → ∀ w, w.ty = m.ty →
        (∃ v', m.set v w = .ok v' ∧ Value.SameOutside m.parents v v') ∨
          ∃ e, m.SetterReports v w e ∧
            m.set v w = .error (Fault.invocation m.name e).failure)) := by
  obtain ⟨l, hl, d, hd, rfl⟩ := hm.exists_level
  refine ⟨fun ha => ?_, fun ha => ?_⟩
  · have hn := Value.reach_eq_nullTarget_iff.2 ha
    exact ⟨Member.get_of_error hn, Member.set_of_error hn⟩
  · obtain ⟨x, hx, hcx, htx, hb⟩ := (hv.arrives hl rfl).resolve_left fun hn => by
      rw [Value.reach_eq_nullTarget_iff] at hn
      cases ha.symm.trans hn
    -- The declaring bean is there, and what the member is in it depends on the role.
    generalize q.role = role at hd
    cases role with
    | field =>
      obtain ⟨f, hf, rfl⟩ := List.mem_map.1 hd
      obtain ⟨u, hu, -, htu⟩ := hcx.exists_field htx hb hf
      refine ⟨fun _ => .inl ⟨u, Member.get_of_field rfl hx hu⟩, fun _ w hw => .inl ?_⟩
      exact Member.set_of_field rfl hx htx hu (hw.trans htu.symm)
    | getter =>
      obtain ⟨method, hmem, rfl⟩ := List.mem_map.1 hd
      obtain ⟨fields, hidden, rfl⟩ := Value.exists_of_ty_bean htx
      have hr : method.role = .getter := by simpa using (List.mem_filter.1 hmem).2
      exact ⟨fun _ => Member.get_of_getter (r := ⟨fields, hidden⟩) rfl hr hx,
        fun h => absurd rfl h⟩
    | setter =>
      obtain ⟨method, hmem, rfl⟩ := List.mem_map.1 hd
      obtain ⟨fields, hidden, rfl⟩ := Value.exists_of_ty_bean htx
      have hr : method.role = .setter := by simpa using (List.mem_filter.1 hmem).2
      exact ⟨fun h => absurd rfl h,
        fun _ w hw => Member.set_of_setter (r := ⟨fields, hidden⟩) rfl hr hx hw⟩

/-- The label of a parent is written if the parent is there, and has no place if it is not. -/
theorem found_members_apply_to_parents :
    let S := Sample.schema
    let label : Query := { role := .setter, name := "label" }
    let alone := Sample.orphan.value
    let adopted := alone.withField "inner" (.present Sample.entity.value)
    ∃ m, S.member? label Sample.orphan.ty = .ok (some m) ∧
      m.set alone (.text "a") = .error Problem.nullTarget.failure ∧
      ∃ v, m.set adopted (.text "a") = .ok v ∧ Value.SameOutside ["inner"] adopted v := by
  intro S label alone adopted
  obtain ⟨_, hm, m, rfl, hp, ht, hok⟩ : ∃ a, S.member? label Sample.orphan.ty = .ok a ∧
      ∃ m ∈ a, m.parents = ["inner"] ∧ Ty.text = m.ty ∧
        (m.set adopted (.text "a")).toOption.isSome = true := by decide +kernel
  have hfound : S.Finds label alone.ty m := .inl hm
  have hfound' : S.Finds label adopted.ty m := .inl hm
  let parts : List Value :=
    [alone, adopted, .absent Sample.entity.ty, .present Sample.entity.value, Sample.entity.value,
      .int .i32 0, .int .i64 0, .text "", .truth false]
  have hs : ∀ v ∈ parts, S.Furnished (· ∈ parts) v := by decide +kernel
  have halone : S.Conforms alone := conforms_of_mem hs List.mem_cons_self
  have hadopted : S.Conforms adopted :=
    conforms_of_mem hs (List.mem_cons_of_mem _ List.mem_cons_self)
  have hnull := (found_members_apply hfound halone).1
  have hset := (found_members_apply hfound' hadopted).2
  rw [hp] at hnull hset
  refine ⟨m, hm, (hnull (by decide +kernel)).2 _, ?_⟩
  rcases (hset (by decide +kernel)).2 nofun (.text "a") ht with h | ⟨e, -, h⟩
  · exact h
  · rw [h] at hok
    cases hok

/-- A bean without a field that it declares does not conform to its type, and the field is found and
missing. -/
example :
    ∃ a, Sample.schema.member? { role := .field, name := "ghost" } Sample.manual.ty = .ok a ∧
      ∃ m ∈ a, m.get Sample.manual.value =
        .error (Problem.noMember Sample.manual.ty "ghost").failure := by
  decide +kernel

end Schema
end BeanPath
