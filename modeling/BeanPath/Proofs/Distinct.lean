import BeanPath.Proofs.Visits
import BeanPath.Samples

/-!
# Members that do not find each other

A map or a set for values of any type finds a stored key or element by asking each, in order,
whether it is the same as the one looked for.  The answer need not be symmetric, and may be that the
two cannot be compared.  A new member goes to the end, after all that are there were asked about it,
so what holds of two members is that the earlier is not the same as the later (`Schema.Distinct`),
and not the other way round.

Every step keeps this (`Update.Keeps`).  Taking members out leaves a part of the list in its order,
whatever was looked for, and taking one in asks all that are there.  So a change of every element,
which takes all of them out and takes in what they have become, needs nothing to be known about the
change (`Scope.keeps_eachElement`).  By induction on the operations the members of every map and set
are distinct (`Schema.Handled.distinctMembers`).
-/

namespace BeanPath

open Update

/-! ### The first member with a property -/

section First
variable {α : Type} {p : α → Bool}

/-- A list has no member with a property, or a first one. -/
theorem exists_first (p : α → Bool) (as : List α) :
    (∀ a ∈ as, p a = false) ∨ ∃ before a after, as = before ++ a :: after ∧
      (∀ b ∈ before, p b = false) ∧ p a = true := by
  cases h : as.find? p with
  | none => exact .inl fun a ha => by simpa using List.find?_eq_none.1 h a ha
  | some a =>
    obtain ⟨ha, before, after, has, hb⟩ := List.find?_eq_some_iff_append.1 h
    exact .inr ⟨before, a, after, has, fun b hb' => by simpa using hb b hb', ha⟩

/-- Nothing is found where no member has the property. -/
theorem find?_of_none {as : List α} (h : ∀ a ∈ as, p a = false) : as.find? p = none :=
  List.find?_eq_none.2 fun a ha => by simp [h a ha]

/-- Nothing is taken out where no member has the property. -/
theorem eraseP_of_none {as : List α} (h : ∀ a ∈ as, p a = false) : as.eraseP p = as :=
  List.eraseP_of_forall_not fun a ha => by simp [h a ha]

variable {before : List α} {a : α} (hb : ∀ b ∈ before, p b = false) (ha : p a = true)
include hb ha

/-- The first member with the property is the one that is found. -/
theorem find?_of_first (after : List α) : (before ++ a :: after).find? p = some a :=
  List.find?_eq_some_iff_append.2 ⟨ha, before, after, rfl, fun b h => by simp [hb b h]⟩

/-- The first member with the property is the one that is taken out; all others stay in their
order. -/
theorem eraseP_of_first (after : List α) :
    (before ++ a :: after).eraseP p = before ++ after := by
  rw [List.eraseP_append_right _ fun b h => by simp [hb b h], List.eraseP_cons_of_pos ha]

/-- The first member with the property is the one that is changed, in its place. -/
theorem updateFirst_of_first (f : α → α) (after : List α) :
    updateFirst p f (before ++ a :: after) = before ++ f a :: after := by
  induction before with
  | nil => rw [List.nil_append, updateFirst, if_pos ha, List.nil_append]
  | cons b before ih =>
    have hn : ¬ p b = true := by simp [hb b List.mem_cons_self]
    rw [List.cons_append, updateFirst, if_neg hn, List.cons_append,
      ih fun c hc => hb c (List.mem_cons_of_mem _ hc)]

end First

/-! ### What a single operation does -/

namespace Schema

variable {S : Schema}

section Entries
variable {k : Value} {es before : List (Value × Value)} {e : Value × Value}

/-- A key that is the same as no stored one has no value. -/
theorem entry?_new (h : ∀ e ∈ es, S.isKey .dyn k e.1 = false) : S.entry? .dyn es k = none :=
  congrArg (Option.map _) (find?_of_none h)

/-- Under a key that is the same as no stored one, a value goes to the end. -/
theorem insertEntry_new (h : ∀ e ∈ es, S.isKey .dyn k e.1 = false) (v : Value) :
    S.insertEntry .dyn es k v = .ok (none, es ++ [(k, v)]) := by
  have hn := entry?_new h
  exact insertEntry_eq_ok_iff.2 ⟨rfl, rfl, hn.symm, by rw [hn]; rfl⟩

/-- Removing a key that is the same as no stored one changes nothing. -/
theorem removeEntry_new (h : ∀ e ∈ es, S.isKey .dyn k e.1 = false) :
    S.removeEntry .dyn es k = (none, es) := Prod.ext (entry?_new h) (eraseP_of_none h)

variable (hb : ∀ e ∈ before, S.isKey .dyn k e.1 = false) (he : S.isKey .dyn k e.1 = true)
include hb he

/-- A key has the value of the first entry whose key is the same. -/
theorem entry?_known (after : List (Value × Value)) :
    S.entry? .dyn (before ++ e :: after) k = some e.2 :=
  congrArg (Option.map _) (find?_of_first hb he after)

/-- The first entry whose key is the same gets the new value, but it keeps its place and its own
key. -/
theorem insertEntry_known (v : Value) (after : List (Value × Value)) :
    S.insertEntry .dyn (before ++ e :: after) k v =
      .ok (some e.2, before ++ (e.1, v) :: after) := by
  have hf := entry?_known hb he after
  refine insertEntry_eq_ok_iff.2 ⟨rfl, rfl, hf.symm, ?_⟩
  rw [hf]
  exact (updateFirst_of_first hb he (fun e => (e.1, v)) after).symm

/-- Removing a key takes out the first entry whose key is the same, and only that. -/
theorem removeEntry_known (after : List (Value × Value)) :
    S.removeEntry .dyn (before ++ e :: after) k = (some e.2, before ++ after) :=
  Prod.ext (entry?_known hb he after) (eraseP_of_first hb he after)

end Entries

section Elements
variable {v stored : Value} {vs before : List Value}

/-- A set for values of any type takes in a value unless it has one that is the same; the type of
the value does not matter. -/
theorem insertElement_dyn (vs : List Value) (v : Value) :
    S.insertElement .dyn vs v = match S.element? .dyn vs v with
      | some _ => .ok (false, vs)
      | none => .ok (true, vs ++ [v]) := rfl

/-- A value that is the same as no element goes to the end. -/
theorem insertElement_new (h : ∀ w ∈ vs, S.isElement .dyn v w = false) :
    S.insertElement .dyn vs v = .ok (true, vs ++ [v]) := by
  have hn : S.element? .dyn vs v = none := find?_of_none h
  rw [insertElement_dyn, hn]

/-- Taking out a value that is the same as no element changes nothing. -/
theorem takeElement_new (h : ∀ w ∈ vs, S.isElement .dyn v w = false) :
    S.takeElement .dyn vs v = (none, vs) :=
  Prod.ext (find?_of_none h) (eraseP_of_none h)

variable (hb : ∀ w ∈ before, S.isElement .dyn v w = false) (hs : S.isElement .dyn v stored = true)
include hb hs

/-- If an element is the same, that element stays and the new value is dropped. -/
theorem insertElement_known (after : List Value) :
    S.insertElement .dyn (before ++ stored :: after) v =
      .ok (false, before ++ stored :: after) := by
  have hf : S.element? .dyn (before ++ stored :: after) v = some stored :=
    find?_of_first hb hs after
  rw [insertElement_dyn, hf]

/-- Taking out a value takes out the first element that is the same, which is what it gives back. -/
theorem takeElement_known (after : List Value) :
    S.takeElement .dyn (before ++ stored :: after) v = (some stored, before ++ after) :=
  Prod.ext (find?_of_first hb hs after) (eraseP_of_first hb hs after)

end Elements

/-- A set for values of any type refuses none. -/
theorem exists_insertElement (vs : List Value) (v : Value) :
    ∃ r, S.insertElement .dyn vs v = .ok r := by
  rw [insertElement_dyn]
  cases S.element? .dyn vs v <;> exact ⟨_, rfl⟩

/-! ### Single operations keep members distinct -/

/-- No value of a list answers that it is the same as a later one. -/
def Distinct (S : Schema) (vs : List Value) : Prop :=
  vs.Pairwise fun earlier later => S.same earlier later ≠ some true

/-- The keys of entries are distinct. -/
def DistinctlyKeyed (S : Schema) (es : List (Value × Value)) : Prop := S.Distinct (es.map (·.1))

/-- Values stay distinct when some of them are left out. -/
theorem Distinct.sublist {vs ws : List Value} (h : S.Distinct ws) (hs : vs.Sublist ws) :
    S.Distinct vs := List.Pairwise.sublist hs h

/-- A value may be added at the end if no other says that it is the same as that value. -/
theorem Distinct.concat {vs : List Value} {v : Value} (h : S.Distinct vs)
    (hv : ∀ w ∈ vs, S.same w v ≠ some true) : S.Distinct (vs ++ [v]) := by
  refine List.pairwise_append.2 ⟨h, List.pairwise_singleton _ v, fun w hw x hx => ?_⟩
  rw [List.mem_singleton.1 hx]
  exact hv w hw

/-- Inserting keeps keys distinct: a key is added only after all others have been asked about it. -/
theorem DistinctlyKeyed.insertEntry {es es' : List (Value × Value)} {k v : Value}
    {previous : Option Value} (h : S.DistinctlyKeyed es)
    (hi : S.insertEntry .dyn es k v = .ok (previous, es')) : S.DistinctlyKeyed es' := by
  rcases exists_first (fun e => S.isKey .dyn k e.1) es with hn | ⟨before, e, after, rfl, hb, he⟩
  · rw [insertEntry_new hn] at hi
    cases hi
    rw [DistinctlyKeyed, List.map_append]
    refine h.concat fun w hw => ?_
    obtain ⟨e, he, rfl⟩ := List.mem_map.1 hw
    exact beq_eq_false_iff_ne.1 (hn e he)
  · rw [insertEntry_known hb he] at hi
    cases hi
    rw [DistinctlyKeyed, List.map_append, List.map_cons] at h ⊢
    exact h

/-- Removing keeps keys distinct. -/
theorem DistinctlyKeyed.removeEntry {es : List (Value × Value)} (h : S.DistinctlyKeyed es)
    (k : Value) : S.DistinctlyKeyed (S.removeEntry .dyn es k).2 :=
  Distinct.sublist h (List.eraseP_sublist.map _)

/-- Taking a value in keeps elements distinct. -/
theorem Distinct.insertElement {vs vs' : List Value} {v : Value} {taken : Bool}
    (h : S.Distinct vs) (hi : S.insertElement .dyn vs v = .ok (taken, vs')) : S.Distinct vs' := by
  rcases exists_first (S.isElement .dyn v) vs with hn | ⟨before, w, after, rfl, hb, hw⟩
  · rw [insertElement_new hn] at hi
    cases hi
    exact h.concat fun w hw => beq_eq_false_iff_ne.1 (hn w hw)
  · rw [insertElement_known hb hw] at hi
    cases hi
    exact h

/-- Taking a value out keeps elements distinct. -/
theorem Distinct.takeElement {vs : List Value} (h : S.Distinct vs) (v : Value) :
    S.Distinct (S.takeElement .dyn vs v).2 := h.sublist List.eraseP_sublist

/-- A set for values of any type can be made of any values, and its elements are distinct. -/
theorem exists_gather (vs : List Value) :
    ∃ elements, S.gather vs = .ok elements ∧ S.Distinct elements := by
  have start : S.Distinct [] := List.Pairwise.nil
  unfold gather
  generalize ([] : List Value) = taken at start
  induction vs generalizing taken with
  | nil => exact ⟨taken, rfl, start⟩
  | cons v vs ih =>
    obtain ⟨⟨isNew, next⟩, hi⟩ := exists_insertElement taken v
    rw [List.foldlM_cons, hi]
    exact ih next (start.insertElement hi)

end Schema

/-! ### Updates keep members distinct -/

namespace Scope

variable (C : Scope)

/-- A write under a key keeps keys distinct, whatever is read from the name and whatever becomes of
the value. -/
theorem keeps_putUnder (n : Name) (v : Option Value) :
    (C.putUnder .dyn n v).Keeps C.schema.DistinctlyKeyed := by
  refine keeps_atomic fun es previous es' hes h => ?_
  obtain ⟨key, -, h⟩ := bind_eq_ok_iff.1 h
  obtain ⟨w, -, h⟩ := bind_eq_ok_iff.1 h
  exact hes.insertEntry (liftFault_eq_ok_iff.1 h)

/-- Removing under a key keeps keys distinct. -/
theorem keeps_removeUnder (n : Name) :
    (C.removeUnder .dyn n).Keeps C.schema.DistinctlyKeyed := by
  refine keeps_atomic fun es previous es' hes h => ?_
  obtain ⟨key, -, h⟩ := bind_eq_ok_iff.1 h
  cases pure_eq_ok_iff.1 h
  exact hes.removeEntry key

/-- Taking an element out keeps elements distinct. -/
theorem keeps_takeOut (v : Value) : (C.takeOut .dyn v).Keeps C.schema.Distinct :=
  fun _ hvs => hvs.takeElement v

/-- Taking an element in keeps elements distinct. -/
theorem keeps_takeIn (v : Value) : (C.takeIn .dyn v).Keeps C.schema.Distinct :=
  keeps_atomic fun _ _ _ hvs h => hvs.insertElement (liftFault_eq_ok_iff.1 h)

/-- A write to an element, at a position or by its value, keeps elements distinct.  What was at the
position is taken out first, so the new value need not be distinct from it. -/
theorem keeps_putElement (n : Name) (v : Option Value) :
    (C.putElement .dyn n v).Keeps C.schema.Distinct := by
  refine keeps_get.bind fun vs => (keeps_lift _).bind fun w => ?_
  split
  · exact (C.keeps_takeIn w).bind fun _ => keeps_pure none
  · refine (keeps_lift _).bind fun former => (C.keeps_takeOut former).bind fun previous => ?_
    exact (C.keeps_takeIn w).bind fun _ => keeps_pure previous

/-- Removing an element, at a position or by its value, keeps elements distinct. -/
theorem keeps_removeElement (n : Name) :
    (C.removeElement .dyn n).Keeps C.schema.Distinct :=
  keeps_get.bind fun _ => (keeps_lift _).bind fun v => C.keeps_takeOut v

/-- Putting back the changed copy of an element keeps elements distinct. -/
theorem keeps_returnElement (former v : Value) :
    (C.returnElement .dyn former v).Keeps C.schema.Distinct :=
  (C.keeps_takeOut former).bind fun _ => (C.keeps_takeIn v).bind fun _ => keeps_pure ()

/-- Taking out one element after the other keeps elements distinct. -/
theorem keeps_takeOutAll (vs : List Value) :
    (C.takeOutAll .dyn vs).Keeps C.schema.Distinct := by
  induction vs with
  | nil => exact keeps_pure []
  | cons v vs ih => exact (C.keeps_takeOut v).bind fun _ => ih.bind fun _ => keeps_pure _

/-- Taking in one element after the other keeps elements distinct. -/
theorem keeps_takeInAll (vs : List Value) : (C.takeInAll .dyn vs).Keeps C.schema.Distinct := by
  induction vs with
  | nil => exact keeps_pure ()
  | cons v vs ih => exact (C.keeps_takeIn v).bind fun _ => ih

/-- Whatever the elements become, they are taken in one by one. -/
theorem keeps_eachElement {α : Type} (u : Nat → Update Value α) :
    (C.eachElement .dyn u).Keeps C.schema.Distinct := by
  refine keeps_get.bind fun vs => (C.keeps_takeOutAll vs).bind fun taken => ?_
  split
  · exact (C.keeps_takeInAll _).bind fun _ => keeps_pure _
  · exact (C.keeps_takeInAll _).bind fun _ => keeps_throw _

end Scope

namespace Schema

variable {S : Schema}

/-- A map with distinct keys or a set with distinct elements, for values of any type. -/
inductive DistinctMembers (S : Schema) : Value → Prop
  | map {es : List (Value × Value)} : S.DistinctlyKeyed es → DistinctMembers S (.map .dyn es)
  | set {vs : List Value} : S.Distinct vs → DistinctMembers S (.set .dyn vs)

/-- No map and no set is optional. -/
theorem DistinctMembers.kind_ne_optional {v : Value} (h : S.DistinctMembers v) :
    v.ty.kind ≠ .optional := by
  cases h <;> simp [Value.ty, MapForm.ty, SetForm.ty, Ty.kind]

/-- No map and no set is a bean. -/
theorem DistinctMembers.kind_ne_bean {v : Value} (h : S.DistinctMembers v) :
    v.ty.kind ≠ .bean := by
  cases h <;> simp [Value.ty, MapForm.ty, SetForm.ty, Ty.kind]

/-- Neither is under an optional layer, so each is its own content. -/
theorem DistinctMembers.payload? {v : Value} (h : S.DistinctMembers v) : v.payload? = some v := by
  cases h <;> rfl

/-- An update of the entries that keeps keys distinct makes a map with distinct keys. -/
theorem DistinctMembers.entries {α : Type} {es : List (Value × Value)}
    {u : Update (List (Value × Value)) α} (hu : u.Keeps S.DistinctlyKeyed)
    (h : S.DistinctlyKeyed es) (v : Value) : S.DistinctMembers (state (entries .dyn es u v)) := by
  unfold Update.entries
  rw [state_within]
  exact .map (hu es h)

/-- An update of the elements that keeps them distinct makes a set with distinct elements. -/
theorem DistinctMembers.elements {α : Type} {vs : List Value} {u : Update (List Value) α}
    (hu : u.Keeps S.Distinct) (h : S.Distinct vs) (v : Value) :
    S.DistinctMembers (state (elements .dyn vs u v)) := by
  unfold Update.elements
  rw [state_within]
  exact .set (hu vs h)

end Schema

namespace Navigator

variable (N : Navigator)

/-- A write by one step keeps the members of a map or a set distinct. -/
theorem keeps_put (n : Name) (v : Option Value) :
    (N.put n v).Keeps N.scope.schema.DistinctMembers := by
  refine keeps_present (fun _ h => h.kind_ne_optional) fun w h => ?_
  cases h with
  | map hes => exact .entries (N.scope.keeps_putUnder n v) hes _
  | set hvs => exact .elements (N.scope.keeps_putElement n v) hvs _

/-- Removing by one step keeps the members of a map or a set distinct. -/
theorem keeps_remove (n : Name) : (N.remove n).Keeps N.scope.schema.DistinctMembers := by
  refine keeps_present (fun _ h => h.kind_ne_optional) fun w h => ?_
  cases h with
  | map hes => exact .entries (N.scope.keeps_removeUnder n) hes _
  | set hvs => exact .elements (N.scope.keeps_removeElement n) hvs _

/-- Putting a changed copy back keeps the members distinct. A map has no copies of its members to
put back, and a setter belongs to a bean. -/
theorem keeps_reattach (origin : Origin) (v : Value) :
    (N.reattach origin v).Keeps N.scope.schema.DistinctMembers := by
  refine keeps_present (fun _ h => h.kind_ne_optional) fun w h => ?_
  cases origin with
  | setter m =>
    refine keeps_atomic (fun c a c' hc hset => ?_) w h
    obtain ⟨x, -, hset⟩ := bind_eq_ok_iff.1 hset
    obtain ⟨o, ho, -⟩ := bind_eq_ok_iff.1 hset
    exact absurd (Member.kind_of_set hc.payload? ho) hc.kind_ne_bean
  | element former =>
    cases h with
    | map hes => exact .map hes
    | set hvs => exact .elements (N.scope.keeps_returnElement former v) hvs _

/-- A change of every member keeps the members distinct. -/
theorem keeps_forEach {α : Type} (u : Nat → Update Value α) :
    (N.forEach u).Keeps N.scope.schema.DistinctMembers := by
  refine keeps_present (fun _ h => h.kind_ne_optional) fun w h => ?_
  cases h with
  | map hes => exact .map hes
  | set hvs => exact .elements (N.scope.keeps_eachElement u) hvs _

/-- What is changed in place is the value of an entry. -/
theorem distinctMembers_of_inPlace {c w : Value} {n : Name} {f : Focus}
    (hc : N.scope.schema.DistinctMembers c) (h : N.descend c n = .ok (.inPlace f)) :
    N.scope.schema.DistinctMembers (f.put w) := by
  obtain ⟨b, g, hb, hg, rfl⟩ := descend_eq_inPlace_iff.1 h
  cases hc.payload?.symm.trans hb
  show N.scope.schema.DistinctMembers (c.withPayload (g.put w))
  rw [Value.withPayload_of_kind hc.kind_ne_optional]
  cases hc with
  | @map es hes =>
    obtain ⟨place, hp, hg⟩ := bind_eq_ok_iff.1 hg
    cases pure_eq_ok_iff.1 hg
    obtain ⟨k, u, -, -, -, rfl⟩ := Scope.placeUnder_eq_ok_iff.1 hp
    refine .map ?_
    rw [Schema.DistinctlyKeyed, Schema.map_fst_withEntry]
    exact hes
  | set hvs =>
    obtain ⟨former, -, hg⟩ := bind_eq_ok_iff.1 hg
    split at hg <;> cases hg

end Navigator

/-! ### Any sequence of operations -/

namespace Schema

variable {S : Schema}

/-- The maps and sets for values of any type that operations make of empty ones: inserting and
removing directly, and single steps of navigators, which may differ from one step to the next.  An
operation that fails counts with what it has done by then.  A step down ends with any value in the
place that it leads to, or with any value put back for any copy.  A clone is the same value, so
cloning is none of the operations. -/
inductive Handled (S : Schema) : Value → Prop
  | emptyMap : Handled S (.map .dyn [])
  | emptySet : Handled S (.set .dyn [])
  | gather {vs elements : List Value} : S.gather vs = .ok elements → Handled S (.set .dyn elements)
  | insertEntry {es es' : List (Value × Value)} {k v : Value} {previous : Option Value} :
    Handled S (.map .dyn es) → S.insertEntry .dyn es k v = .ok (previous, es') →
      Handled S (.map .dyn es')
  | removeEntry {es : List (Value × Value)} {k : Value} :
    Handled S (.map .dyn es) → Handled S (.map .dyn (S.removeEntry .dyn es k).2)
  | insertElement {vs vs' : List Value} {v : Value} {isNew : Bool} :
    Handled S (.set .dyn vs) → S.insertElement .dyn vs v = .ok (isNew, vs') →
      Handled S (.set .dyn vs')
  | takeElement {vs : List Value} {v : Value} :
    Handled S (.set .dyn vs) → Handled S (.set .dyn (S.takeElement .dyn vs v).2)
  | put {N : Navigator} {c : Value} {n : Name} {v : Option Value} :
    N.scope.schema = S → Handled S c → Handled S (state (N.put n v c))
  | remove {N : Navigator} {c : Value} {n : Name} :
    N.scope.schema = S → Handled S c → Handled S (state (N.remove n c))
  | inPlace {N : Navigator} {c w : Value} {n : Name} {f : Focus} :
    N.scope.schema = S → Handled S c → N.descend c n = .ok (.inPlace f) → Handled S (f.put w)
  | reattach {N : Navigator} {c w : Value} {origin : Origin} :
    N.scope.schema = S → Handled S c → Handled S (state (N.reattach origin w c))
  | forEach {N : Navigator} {c : Value} {α : Type} {u : Nat → Update Value α} :
    N.scope.schema = S → Handled S c → Handled S (state (N.forEach u c))

/-- Every operation keeps the members distinct. -/
theorem Handled.distinctMembers {c : Value} (h : S.Handled c) : S.DistinctMembers c := by
  induction h with
  | emptyMap => exact .map .nil
  | emptySet => exact .set .nil
  | @gather vs elements hg =>
    obtain ⟨elements', hg', hd⟩ := exists_gather vs
    cases hg.symm.trans hg'
    exact .set hd
  | insertEntry _ hi ih => cases ih with | map hes => exact .map (hes.insertEntry hi)
  | removeEntry _ ih => cases ih with | map hes => exact .map (hes.removeEntry _)
  | insertElement _ hi ih => cases ih with | set hvs => exact .set (hvs.insertElement hi)
  | takeElement _ ih => cases ih with | set hvs => exact .set (hvs.takeElement _)
  | put hN _ ih => subst hN; exact Navigator.keeps_put _ _ _ _ ih
  | remove hN _ ih => subst hN; exact Navigator.keeps_remove _ _ _ ih
  | inPlace hN _ hd ih => subst hN; exact Navigator.distinctMembers_of_inPlace _ ih hd
  | reattach hN _ ih => subst hN; exact Navigator.keeps_reattach _ _ _ _ ih
  | forEach hN _ ih => subst hN; exact Navigator.keeps_forEach _ _ _ ih

/-- In every map and every set for values of any type that operations make of an empty one, no key
and no element is the same as a later one.  Inserting goes to the end unless a key or an element
that is there is the same; then the first that is keeps its place, and in a map it keeps its stored
key and gets the new value.  Removing takes out the first that is the same.  All others stay in
their order. -/
theorem members_stay_distinct_and_in_order (S : Schema) :
    (∀ es, S.Handled (.map .dyn es) → S.Distinct (es.map (·.1))) ∧
    (∀ vs, S.Handled (.set .dyn vs) → S.Distinct vs) ∧
    (∀ es k v,
      ((∀ e ∈ es, S.same e.1 k ≠ some true) ∧
        S.insertEntry .dyn es k v = .ok (none, es ++ [(k, v)]) ∧
        S.removeEntry .dyn es k = (none, es)) ∨
      ∃ before stored old after, es = before ++ (stored, old) :: after ∧
        (∀ e ∈ before, S.same e.1 k ≠ some true) ∧ S.same stored k = some true ∧
        S.insertEntry .dyn es k v = .ok (some old, before ++ (stored, v) :: after) ∧
        S.removeEntry .dyn es k = (some old, before ++ after)) ∧
    ∀ vs v,
      ((∀ w ∈ vs, S.same w v ≠ some true) ∧
        S.insertElement .dyn vs v = .ok (true, vs ++ [v]) ∧
        S.takeElement .dyn vs v = (none, vs)) ∨
      ∃ before stored after, vs = before ++ stored :: after ∧
        (∀ w ∈ before, S.same w v ≠ some true) ∧ S.same stored v = some true ∧
        S.insertElement .dyn vs v = .ok (false, vs) ∧
        S.takeElement .dyn vs v = (some stored, before ++ after) := by
  refine ⟨fun es h => ?_, fun vs h => ?_, fun es k v => ?_, fun vs v => ?_⟩
  · cases h.distinctMembers with
    | map hes => exact hes
  · cases h.distinctMembers with
    | set hvs => exact hvs
  · rcases exists_first (fun e => S.isKey .dyn k e.1) es with hn | ⟨before, e, after, rfl, hb, he⟩
    · exact .inl ⟨fun e he => beq_eq_false_iff_ne.1 (hn e he), insertEntry_new hn v,
        removeEntry_new hn⟩
    · exact .inr ⟨before, e.1, e.2, after, rfl, fun b hb' => beq_eq_false_iff_ne.1 (hb b hb'),
        beq_iff_eq.1 he, insertEntry_known hb he v after, removeEntry_known hb he after⟩
  · rcases exists_first (S.isElement .dyn v) vs with hn | ⟨before, w, after, rfl, hb, hw⟩
    · exact .inl ⟨fun w hw => beq_eq_false_iff_ne.1 (hn w hw), insertElement_new hn,
        takeElement_new hn⟩
    · exact .inr ⟨before, w, after, rfl, fun b hb' => beq_eq_false_iff_ne.1 (hb b hb'),
        beq_iff_eq.1 hw, insertElement_known hb hw after, takeElement_known hb hw after⟩

/-- The number of another type is another key, and the same number finds the key that is there. -/
theorem members_stay_distinct_and_in_order_with_numbers :
    let entries := [(Value.int .i32 7, Value.text "c"), (Value.int .i64 7, Value.text "b")]
    Sample.schema.Handled (.map .dyn entries) ∧ Sample.schema.Distinct (entries.map (·.1)) := by
  intro entries
  have first : Sample.schema.insertEntry .dyn [] (.int .i32 7) (.text "a") =
      .ok (none, [(.int .i32 7, .text "a")]) := insertEntry_new (List.forall_mem_nil _) _
  have second : Sample.schema.insertEntry .dyn [(.int .i32 7, .text "a")] (.int .i64 7)
      (.text "b") = .ok (none, [(.int .i32 7, .text "a"), (.int .i64 7, .text "b")]) :=
    insertEntry_new (by simp [isKey, same, Value.int, Atom.same]) _
  have third : Sample.schema.insertEntry .dyn
      [(.int .i32 7, .text "a"), (.int .i64 7, .text "b")] (.int .i32 7) (.text "c") =
      .ok (some (.text "a"), entries) :=
    insertEntry_known (List.forall_mem_nil _) (by simp [isKey, same, Value.int, Atom.same]) _ _
  have handled := ((Handled.emptyMap.insertEntry first).insertEntry second).insertEntry third
  exact ⟨handled, (members_stay_distinct_and_in_order Sample.schema).1 entries handled⟩

end Schema
end BeanPath
