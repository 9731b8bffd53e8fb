import BeanPath.Proofs.LayerSteps
import BeanPath.Proofs.Rollback
import BeanPath.Samples

/-!
# Accessors agree with paths

An accessor looks its members up once, by the declared types; access by path looks them up at every
step, by the value at hand.  On a well-typed instance both do the same, step by step, as long as the
fields are there (`Accessor.readThrough_eq_follow`, `Accessor.map_writeThrough_eq_update`), and so
do the accessor and the path as wholes (`accessor_agrees_with_path`).  A field that is declared and
not there is where they part, and so is a property whose getter has another type than its field.
-/

namespace BeanPath

open Update

namespace Accessor

variable {C : Scope} {t : Ty} {n : Name} {ns : List Name} {l : Layer} {ls : List Layer} {v : Value}

/-! ### Reading -/

/-- Whether a read through layers finds the field that it reads at the end, if it is one. -/
def findsField (N : Navigator) : Value → List Layer → Bool
  | _, [] => true
  | v, [l] => !l.lacksReadField v
  | v, l :: m :: ls => (l.read N v).toOption.join.all fun w => findsField N w (m :: ls)

/-- Reading through layers gives what following the steps gives. -/
theorem readThrough_eq_follow (h : Leads C t (n :: ns) (l :: ls)) (hv : C.schema.WellTyped v)
    (ht : t.Describes v) (hf : findsField { scope := C } v (l :: ls) = true) :
    (readThrough { scope := C } v l ls).map (·.bind Value.content?) =
      Navigator.follow { scope := C } v (n :: ns) := by
  induction ls generalizing t n ns l v with
  | nil =>
    obtain ⟨hl, h⟩ := leads_cons_iff.1 h
    obtain rfl := h.eq_nil
    rw [readThrough, Navigator.follow]
    rcases Layer.read_eq_get hl ht with hget | ⟨hlacks, -, -⟩
    · rw [hget]
      rcases Navigator.get { scope := C } v n with e | _ | r <;> rfl
    · rw [findsField, hlacks] at hf
      cases hf
  | cons m ls ih =>
    obtain ⟨hl, h⟩ := leads_cons_iff.1 h
    obtain ⟨k, ms, rfl⟩ := h.exists_cons
    rw [readThrough, Navigator.follow]
    rcases Layer.read_eq_get hl ht with hget | ⟨-, hget, hread⟩
    · rcases hg : Navigator.get { scope := C } v n with e | _ | r
      · rw [hget, hg]
        rfl
      · rw [hget, hg]
        rfl
      · rw [hg] at hget
        obtain ⟨hw, hd⟩ := hl.startsFrom.read_typed hv ht hget
        rw [findsField, hget] at hf
        rw [hget]
        exact ih h hw hd.describes hf
    · -- A field on the way that is not there ends both reads with the same failure.
      rw [hread, hget]
      rfl

/-! ### Writing -/

/-- Whether a write through layers finds the fields that it goes through. -/
def entersFields (N : Navigator) : Value → List Layer → Bool
  | _, [] | _, [_] => true
  | v, l :: m :: ls =>
    !l.lacksField v && (l.part? N v).all fun w => entersFields N w (m :: ls)

/-- Properties in front of others read and change one type. -/
def OneTyped (ls : List Layer) : Prop :=
  ls.Pairwise fun l m => m.isProperty = true → l.OneTyped

instance (ls : List Layer) : Decidable (OneTyped ls) := inferInstanceAs (Decidable (ls.Pairwise _))

/-- Writing through layers does what updating along the steps does. -/
theorem map_writeThrough_eq_update (w : Option Value) (h : Leads C t (n :: ns) (l :: ls))
    (hn : ∀ k ∈ (n :: ns).dropLast, k.wild = false)
    (hs : ∀ m ∈ (l :: ls).getLast?, m.setterFits C = true) (ho : OneTyped (l :: ls))
    (hv : C.schema.WellTyped v) (ht : (∃ m ∈ l :: ls, m.isProperty = true) → t.Describes v)
    (hf : entersFields { scope := C } v (l :: ls) = true) :
    ((·.bind Value.content?) <$> writeThrough { scope := C } w l ls) v =
      Navigator.update { scope := C } (.put w) (n :: ns) v := by
  induction ls generalizing t n ns l v with
  | nil =>
    obtain ⟨hl, h⟩ := leads_cons_iff.1 h
    obtain rfl := h.eq_nil
    have hput := Layer.write_eq_put hl (fun hp => ht ⟨l, List.mem_cons_self, hp⟩) (hs l rfl) w
    rw [writeThrough, Navigator.update_singleton, map_apply, map_apply, hput]
    rfl
  | cons m ls ih =>
    obtain ⟨hl, h⟩ := leads_cons_iff.1 h
    obtain ⟨k, ms, rfl⟩ := h.exists_cons
    rw [entersFields, Bool.and_eq_true, Bool.not_eq_true'] at hf
    have hp : l.isProperty = true → t.Describes v := fun hp => ht ⟨l, List.mem_cons_self, hp⟩
    have hwild : n.wild = false := hn n (by simp)
    rw [writeThrough, Navigator.update_cons_cons (.put w) hwild t k ms, map_apply,
      Layer.visit_eq_key hl hp hf.1 t, ← map_apply, Layer.map_visit_key]
    -- Both go to the same part, so it is enough to compare what they do there.
    refine Layer.visit_congr fun part hlead => ?_
    have hpart : l.part? { scope := C } v = some part := by
      cases hlead with
      | key hd =>
        rw [Layer.part?_eq_key hl hp hf.1 t, Layer.part?, hd]
        rfl
    obtain ⟨hw, hdesc⟩ := hl.startsFrom.leadsTo_typed hv hp (Layer.leadsTo_of_part? hpart)
    obtain ⟨hone, ho⟩ := List.pairwise_cons.1 ho
    refine ih h (fun j hj => hn j ?_) (fun j hj => hs j ?_) ho hw ?_ ?_
    · rw [List.dropLast_cons_cons]
      exact List.mem_cons_of_mem n hj
    · rwa [List.getLast?_cons_cons]
    · rintro ⟨j, hj, hjp⟩
      exact (hdesc (ht ⟨j, List.mem_cons_of_mem l hj, hjp⟩) (hone j hj hjp)).imp_left
        (congrArg Ty.core)
    · have hf := hf.2
      rw [hpart] at hf
      exact hf

/-! ### Whole accessors -/

/-- A layer that takes a step from a bean belongs to that bean. -/
theorem owner_of_takes {path : String} (h : l.Takes C (.bean path) n) : l.owner = .bean path := by
  cases h with
  | property bean =>
    obtain ⟨path', hc, rfl⟩ := Ty.beanType_eq_ok_iff.1 bean
    exact hc.symm
  | key => rfl

/-- Whether the setter of the last step takes what the property is declared to be. -/
def setterFits (C : Scope) (X : Accessor) : Bool := X.layers.getLast?.all (Layer.setterFits C)

end Accessor

/-- **An accessor and its path agree.**  For a path whose base names are in snake case and a
well-typed instance, access by path without summaries gives what the accessor gives, with one
optional layer removed, or fails as the accessor does; and a write leaves the same instance.  A read
has to find the field at its end.  A write by path has no star before the last step, goes through
fields that are there, each of the type of its getter if a property follows, and finds by name no
setter at the end that does not take what the property is declared to be. -/
theorem accessor_agrees_with_path {C : Scope} {bean path : String} {X : Accessor} {x : Value}
    (hp : Path.Snake path) (hX : Accessor.build C (.bean bean) { field := path } = .ok X)
    (hx : x.ty = .bean bean) (hw : C.schema.WellTyped x) :
    let A : Access := { scope := C, mode := .auto, style := .unwrapped }
    (Accessor.findsField { scope := C } x X.layers = true →
      A.read x path = (X.get C x).map (·.bind Value.content?)) ∧
    (Path.Direct path → X.setterFits C = true → Accessor.OneTyped X.layers →
      Accessor.entersFields { scope := C } x X.layers = true →
        ∀ v, A.write path v x = ((·.bind Value.content?) <$> X.set C v) x) := by
  obtain ⟨names, hr, hl⟩ := Accessor.leads_of_build hp hX
  obtain ⟨n, ns, rfl⟩ := hl.exists_cons
  have ho : X.root.owner = .bean bean :=
    Accessor.owner_of_takes (Accessor.leads_cons_iff.1 hl).1
  have hd : (Ty.bean bean).Describes x := .of_ty hx
  refine ⟨fun hf => ?_, fun hdirect hs hone hf v => ?_⟩
  · rw [Access.read_unwrapped rfl hr, Accessor.get_of_instance (hx.trans ho.symm),
      Accessor.readThrough_eq_follow hl hw hd hf]
  · have hs : ∀ m ∈ X.layers.getLast?, m.setterFits C = true := by
      intro m hm
      unfold Accessor.setterFits at hs
      rw [hm] at hs
      exact hs
    rw [Access.write_unwrapped rfl hr, map_apply, Accessor.set_of_instance (hx.trans ho.symm),
      ← map_apply,
      Accessor.map_writeThrough_eq_update v hl (hdirect _ hr) hs hone hw (fun _ => hd) hf]

/-- The level of the gauge of a basin, a field with a property behind it that has a getter and a
setter: accessor and path read the same, and write every value in the same way. -/
theorem accessor_agrees_with_path_in_basin :
    let C : Scope := ⟨Sample.schema, Sample.freshRegistry⟩
    let A : Access := { scope := C, mode := .auto, style := .unwrapped }
    let gauge : Value := .bean Sample.gauge.bean.path [("level", .int .u8 42)] []
    let x : Value := .bean Sample.basin.bean.path
      [("depth", .int .i32 5), ("mark", .absent .text), ("gauge", gauge)] []
    ∃ X, Accessor.build C Sample.basin.ty { field := "gauge.level" } = .ok X ∧
      A.read x "gauge.level" = (X.get C x).map (·.bind Value.content?) ∧
        ∀ v, A.write "gauge.level" v x = ((·.bind Value.content?) <$> X.set C v) x := by
  intro C A gauge x
  have hp : Path.Snake "gauge.level" := by decide +kernel
  have hd : Path.Direct "gauge.level" := by decide +kernel
  have hw : C.schema.WellTyped x := by
    -- The depth is positive, so the getter of the basin gives its gauge.
    let parts : List Value :=
      [x, .int .i32 5, .absent .text, gauge, .int .u8 42, .present gauge]
    have hs : ∀ v ∈ parts, C.schema.Sound (· ∈ parts) v := by decide +kernel
    exact Schema.wellTyped_of_mem hs List.mem_cons_self
  obtain ⟨X, hX, hf, hs, ho, he⟩ :
      ∃ X, Accessor.build C Sample.basin.ty { field := "gauge.level" } = .ok X ∧
        Accessor.findsField { scope := C } x X.layers = true ∧ X.setterFits C = true ∧
          Accessor.OneTyped X.layers ∧ Accessor.entersFields { scope := C } x X.layers = true := by
    decide +kernel
  obtain ⟨hread, hwrite⟩ := accessor_agrees_with_path hp hX rfl hw
  exact ⟨X, hX, hread hf, hwrite hd hs ho he⟩

namespace Sample

/-- A number. -/
def coarse : Sample := declare "Coarse" [("size", .int .i32 0)] []

/-- Perhaps a number. -/
def fine : Sample := declare "Fine" [("size", .absent (.int .i32))] []

/-- A property whose field and getter are of different types. -/
def twofold : Sample :=
  declare "Twofold" [("part", fine.value)] [.reading "get_part" coarse.ty fun _ => coarse.value]

/-- The schema of a property with two types. -/
def twofoldSchema : Schema where
  beans := [coarse, fine, twofold].map (·.bean)
  extent _ := 0
  parent_lt := by decide +kernel

end Sample

/-- None of the conditions on the fields can be left out: a field that is declared and not there is
read as nothing by path and is an error for the accessor; on the way to a write it is another error;
and a property of two types is written as the one by path and as the other by the accessor. -/
theorem accessor_parts_from_path :
    let C : Scope := ⟨Sample.schema, Sample.freshRegistry⟩
    let A : Access := { scope := C, mode := .auto, style := .unwrapped }
    let x : Value := .bean Sample.manual.bean.path [("real", .int .i32 2)] []
    let D : Scope := ⟨Sample.twofoldSchema, Sample.freshRegistry⟩
    let B : Access := { scope := D, mode := .auto, style := .unwrapped }
    (Path.Snake "ghost" ∧ C.schema.WellTyped x ∧
      ∃ X, Accessor.build C Sample.manual.ty { field := "ghost" } = .ok X ∧
        X.get C x = .error Problem.nullTarget.failure ∧ A.read x "ghost" = .ok none) ∧
    (Path.Snake "up.id" ∧ Path.Direct "up.id" ∧
      ∃ X, Accessor.build C Sample.manual.ty { field := "up.id" } = .ok X ∧
        X.setterFits C = true ∧ Accessor.OneTyped X.layers ∧
          A.write "up.id" (some (.int .i64 3)) x ≠
            ((·.bind Value.content?) <$> X.set C (some (.int .i64 3))) x) ∧
    (Path.Snake "part.size" ∧ Path.Direct "part.size" ∧ D.schema.WellTyped Sample.twofold.value ∧
      ∃ X, Accessor.build D Sample.twofold.ty { field := "part.size" } = .ok X ∧
        X.setterFits D = true ∧
          Accessor.entersFields { scope := D } Sample.twofold.value X.layers = true ∧
            B.write "part.size" none Sample.twofold.value ≠
              ((·.bind Value.content?) <$> X.set D none) Sample.twofold.value) := by
  intro C A x D B
  have hx : C.schema.WellTyped x := by
    let parts : List Value := [x, .int .i32 2]
    have hs : ∀ v ∈ parts, C.schema.Sound (· ∈ parts) v := by decide +kernel
    exact Schema.wellTyped_of_mem hs List.mem_cons_self
  have hy : D.schema.WellTyped Sample.twofold.value := by
    let parts : List Value :=
      [Sample.twofold.value, Sample.fine.value, Sample.coarse.value, .absent (.int .i32),
        .int .i32 0]
    have hs : ∀ v ∈ parts, D.schema.Sound (· ∈ parts) v := by decide +kernel
    exact Schema.wellTyped_of_mem hs List.mem_cons_self
  refine ⟨⟨?_, hx, ?_⟩, ⟨?_, ?_, ?_⟩, ?_, ?_, hy, ?_⟩ <;> decide +kernel

end BeanPath
