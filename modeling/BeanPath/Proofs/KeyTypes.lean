import BeanPath.Proofs.Distinct

/-!
# The types of keys that match

A map for values of any type asks each stored key whether it is the same as the key looked for.  The
answer is yes only for two values of one type, or for two containers that are compared part by part
without a look at their own types (`Kind.Alike`, `Schema.ty_of_same`): two sequences, two maps or
two sets.  By cases on the two values, everything else is only equal within its type, an optional
because the types of the contents are compared before the contents are.

The first stored key that answers yes is the one whose value is read and replaced, so what is said
of one comparison is said of both.  Containers of different types do match: the empty ones of each
kind all do, whatever their types.
-/

namespace BeanPath

/-- Kinds of containers that are compared part by part, whatever their types. -/
inductive Kind.Alike : Kind → Kind → Prop
  | sequences {a b : Kind} : a = .list ∨ a = .array → b = .list ∨ b = .array → Alike a b
  | maps : Alike .map .map
  | sets : Alike .set .set

/-- A sequence is a list or an array. -/
theorem SeqForm.kind_ty (form : SeqForm) (length : Nat) :
    (form.ty length).kind = .list ∨ (form.ty length).kind = .array := by
  cases form with
  | array item => exact .inr rfl
  | _ => exact .inl rfl

/-- A map of any form is a map. -/
theorem MapForm.kind_ty (form : MapForm) : form.ty.kind = .map := by cases form <;> rfl

/-- A set of any form is a set. -/
theorem SetForm.kind_ty (form : SetForm) : form.ty.kind = .set := by cases form <;> rfl

/-- Scalars that are the same are of one type. -/
theorem Atom.scalar_of_same {a b : Atom} (h : a.same b = true) : a.scalar = b.scalar := by
  unfold same at h
  split at h
  · simp only [Bool.and_eq_true, beq_iff_eq] at h
    rw [scalar, scalar, h.1]
  · rw [beq_iff_eq.1 h]

namespace Schema

variable {S : Schema}

/-- Values that are the same have one type or are alike containers. -/
theorem ty_of_same {v w : Value} (h : S.same v w = some true) :
    v.ty = w.ty ∨ v.kind.Alike w.kind := by
  unfold same at h
  split at h
  · next a b => exact .inl (congrArg Ty.scalar (Atom.scalar_of_same (Option.some.inj h)))
  · cases h
  · next s t => exact .inl (congrArg Ty.option (beq_iff_eq.1 (Option.some.inj h)))
  · next v w =>
    split at h
    · next same_type => exact .inl (congrArg Ty.option same_type)
    · cases h
  · next f vs g ws => exact .inr (.sequences (f.kind_ty _) (g.kind_ty _))
  · next f es g fs =>
    refine .inr ?_
    rw [Value.kind, Value.kind, Value.ty, Value.ty, f.kind_ty, g.kind_ty]
    exact .maps
  · next f vs g ws =>
    refine .inr ?_
    rw [Value.kind, Value.kind, Value.ty, Value.ty, f.kind_ty, g.kind_ty]
    exact .sets
  · next p fs _ q gs _ =>
    split at h
    · next same_path => exact .inl (congrArg Ty.bean same_path)
    · cases h
  · cases h

/-- A key of a dynamic map finds stored keys of its own type, or containers that are compared with
it part by part. -/
theorem ty_of_isKey {k stored : Value} (h : S.isKey .dyn k stored = true) :
    stored.ty = k.ty ∨ stored.kind.Alike k.kind :=
  ty_of_same (beq_iff_eq.1 h)

/-- Empty sequences of all types match, and so do empty maps and empty sets. -/
theorem isKey_empty :
    (∀ f g : SeqForm, S.isKey .dyn (.seq f []) (.seq g []) = true) ∧
    (∀ f g : MapForm, S.isKey .dyn (.map f []) (.map g []) = true) ∧
    ∀ f g : SetForm, S.isKey .dyn (.set f []) (.set g []) = true := by
  refine ⟨fun f g => ?_, fun f g => ?_, fun f g => ?_⟩ <;>
    simp [isKey, same, sameItems, sameEntries, allHeld]

/-- The only entry of a dynamic map is found by every key that its own key is the same as. -/
theorem entry?_singleton {k stored : Value} (h : S.isKey .dyn k stored = true) (v : Value) :
    S.entry? .dyn [(stored, v)] k = some v :=
  entry?_known (List.forall_mem_nil _) h []

/-- **Keys match within one type, or between alike containers.**  In a map for values of any type,
what a key reads is the value of the first entry that it finds, and inserting under it adds a last
entry or replaces that value and leaves all other entries.  The key of that entry has the type of
the key looked for, unless both are sequences, both maps or both sets.  Those do match across types:
empty ones find each other whatever their types. -/
theorem keys_match_within_a_type_or_alike_containers (S : Schema) (es : List (Value × Value))
    (k : Value) :
    (∀ v, S.entry? .dyn es k = some v → ∃ before stored after,
      es = before ++ (stored, v) :: after ∧ (∀ e ∈ before, S.isKey .dyn k e.1 = false) ∧
        (stored.ty = k.ty ∨ stored.kind.Alike k.kind)) ∧
    (∀ v, S.insertEntry .dyn es k v = .ok (none, es ++ [(k, v)]) ∨ ∃ before stored old after,
      es = before ++ (stored, old) :: after ∧
        S.insertEntry .dyn es k v = .ok (some old, before ++ (stored, v) :: after) ∧
        (stored.ty = k.ty ∨ stored.kind.Alike k.kind)) ∧
    (∀ f g : SeqForm, ∀ v, S.entry? .dyn [(.seq g [], v)] (.seq f []) = some v) ∧
    (∀ f g : MapForm, ∀ v, S.entry? .dyn [(.map g [], v)] (.map f []) = some v) ∧
    ∀ f g : SetForm, ∀ v, S.entry? .dyn [(.set g [], v)] (.set f []) = some v := by
  obtain ⟨sequences, maps, sets⟩ := isKey_empty (S := S)
  refine ⟨fun v hv => ?_, fun v => ?_, fun f g => entry?_singleton (sequences f g),
    fun f g => entry?_singleton (maps f g), fun f g => entry?_singleton (sets f g)⟩
  · rcases exists_first (fun e => S.isKey .dyn k e.1) es with hn | ⟨before, e, after, rfl, hb, he⟩
    · rw [entry?_new hn] at hv
      cases hv
    · rw [entry?_known hb he] at hv
      cases hv
      exact ⟨before, e.1, after, rfl, hb, ty_of_isKey he⟩
  · rcases exists_first (fun e => S.isKey .dyn k e.1) es with hn | ⟨before, e, after, rfl, hb, he⟩
    · exact .inl (insertEntry_new hn v)
    · exact .inr ⟨before, e.1, e.2, after, rfl, insertEntry_known hb he v after, ty_of_isKey he⟩

/-- A list of one number is stored, and a deque of that number reads and replaces its value. -/
theorem deque_finds_the_key_of_a_list :
    let S := Sample.schema
    let stored := Value.seq (.list .vec (.int .i32)) [.int .i32 1]
    let k := Value.seq (.list .deque (.int .i32)) [.int .i32 1]
    stored.ty ≠ k.ty ∧ S.entry? .dyn [(stored, .text "a")] k = some (.text "a") ∧
      S.insertEntry .dyn [(stored, .text "a")] k (.text "b") =
        .ok (some (.text "a"), [(stored, .text "b")]) := by
  intro S stored k
  have found : S.isKey .dyn k stored = true := by
    simp [isKey, same, sameItems, stored, k, Value.int, Atom.same]
  exact ⟨by decide, entry?_singleton found _,
    insertEntry_known (List.forall_mem_nil _) found _ []⟩

end Schema
end BeanPath
