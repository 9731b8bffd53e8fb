import BeanPath.Proofs.FiniteMaps
import BeanPath.Proofs.FiniteSets

/-!
# Equality of comparable values is an equivalence

Values are compared part by part, also across containers of different types, and a map or a set only
asks whether what it has is found in the other one.  What the answer `true` means is said once for
each kind of value (`Schema.same_seq_iff`, `Schema.same_map_iff` and so on), and so is where the
answer is missing: at two parts that have none (`Schema.sameItems_eq_none`).

A value is comparable if it is made of parts that support comparison (`Schema.Comparable`).  By
induction on it the equality is decided, reflexive, symmetric and transitive.  For maps and sets
symmetry is a counting argument: as many distinct keys as the other map has, all of them among its
keys, are all of its keys (`subset_of_nodup_of_length`).
-/

namespace BeanPath

/-- Distinct members that are all in a list that is no longer are all of its members. -/
theorem subset_of_nodup_of_length {α : Type} {as bs : List α} (hd : as.Nodup) (hs : as ⊆ bs)
    (hl : bs.length ≤ as.length) : bs ⊆ as :=
  ((List.subperm_of_subset hd hs).perm_of_length_le hl).symm.subset

/-- Every scalar is the same as itself, but for the number that is none. -/
theorem Atom.same_self {a : Atom} (h : ∀ k bits, a = .float k bits → k.isNaN bits = false) :
    a.same a = true := by
  cases a with
  | float k bits => simp [same, FloatKind.sameNumber_self (h k bits rfl)]
  | _ => exact beq_self_eq_true _

namespace Schema

variable {S : Schema} {v w u : Value}

/-! ### What it means to be the same -/

/-- A scalar is the same as the scalars that it is equal to, and as nothing else. -/
theorem same_atom_iff {a : Atom} :
    S.same (.atom a) w = some true ↔ ∃ b, w = .atom b ∧ a.same b = true := by
  cases w <;> simp [same]

/-- An absent value is the same as the absent value of its own type only. -/
theorem same_absent_iff {t : Ty} : S.same (.absent t) w = some true ↔ w = .absent t := by
  cases w <;> simp [same, @eq_comm _ t]

/-- A present value is the same as a present one if their contents are of one type and the same. -/
theorem same_present_iff :
    S.same (.present v) w = some true ↔
      ∃ u, w = .present u ∧ v.ty = u.ty ∧ S.same v u = some true := by
  cases w with
  | present u => by_cases ht : v.ty = u.ty <;> simp [same, ht]
  | _ => simp [same]

/-- Items are the same if the first ones are and those behind them are. -/
theorem sameItems_cons {vs ws : List Value} :
    S.sameItems (v :: vs) (w :: ws) = some true ↔
      S.same v w = some true ∧ S.sameItems vs ws = some true := by
  rw [sameItems]
  split
  · next h => simp [h]
  · next h => exact iff_of_false h fun hs => h hs.1

/-- Sequences are the same if they are of one length and their items are the same one by one. -/
theorem same_seq_iff {form : SeqForm} {vs : List Value} :
    S.same (.seq form vs) w = some true ↔ ∃ g ws, w = .seq g ws ∧ vs.length = ws.length ∧
      ∀ i (hi : i < vs.length) (hj : i < ws.length), S.same vs[i] ws[i] = some true := by
  have items (vs ws : List Value) (hl : vs.length = ws.length) :
      S.sameItems vs ws = some true ↔
        ∀ i (hi : i < vs.length) (hj : i < ws.length), S.same vs[i] ws[i] = some true := by
    induction vs generalizing ws with
    | nil => simp [sameItems]
    | cons v vs ih =>
      cases ws with
      | nil => cases hl
      | cons w ws =>
        rw [sameItems_cons, ih ws (Nat.succ.inj hl)]
        constructor
        · rintro ⟨h, hs⟩ (_ | i) hi hj
          · exact h
          · exact hs i (Nat.lt_of_succ_lt_succ hi) (Nat.lt_of_succ_lt_succ hj)
        · intro h
          exact ⟨h 0 (Nat.succ_pos _) (Nat.succ_pos _),
            fun i hi hj => h (i + 1) (Nat.succ_lt_succ hi) (Nat.succ_lt_succ hj)⟩
  cases w with
  | seq g ws =>
    rw [same]
    by_cases hl : vs.length = ws.length
    · simp [hl, items vs ws hl]
    · simp [hl]
  | _ => simp [same]

/-- A value is compared with that of the first entry under its key. -/
theorem sameUnder_cons (g : MapForm) (k v l w : Value) (fs : List (Value × Value)) :
    S.sameUnder g k v ((l, w) :: fs) =
      if S.isKey g k l then S.same v w else S.sameUnder g k v fs := by
  rw [sameUnder.eq_def]
  cases g <;> rfl

/-- A value is compared with the value of the entry that its key finds. -/
theorem sameUnder_eq (g : MapForm) (k v : Value) (fs : List (Value × Value)) :
    S.sameUnder g k v fs = ((S.entry? g fs k).map (S.same v)).getD (some false) := by
  induction fs with
  | nil =>
    rw [sameUnder]
    rfl
  | cons f fs ih =>
    rw [sameUnder_cons, entry?, List.find?_cons]
    cases S.isKey g k f.1 with
    | true => rfl
    | false => exact ih

/-- A value is the same as what is under its key if there is an entry with that key and its value is
the same. -/
theorem sameUnder_eq_true_iff {g : MapForm} {k v : Value} {fs : List (Value × Value)} :
    S.sameUnder g k v fs = some true ↔
      ∃ w, S.entry? g fs k = some w ∧ S.same v w = some true := by
  rw [sameUnder_eq]
  cases S.entry? g fs k <;> simp

/-- Maps are the same if they are of one size and the key of every entry of the one finds the same
value in the other. -/
theorem same_map_iff {form : MapForm} {es : List (Value × Value)} :
    S.same (.map form es) w = some true ↔ ∃ g fs, w = .map g fs ∧ es.length = fs.length ∧
      ∀ e ∈ es, ∃ u, S.entry? g fs e.1 = some u ∧ S.same e.2 u = some true := by
  have entries (g : MapForm) (es fs : List (Value × Value)) :
      S.sameEntries g es fs = some true ↔
        ∀ e ∈ es, ∃ u, S.entry? g fs e.1 = some u ∧ S.same e.2 u = some true := by
    induction es with
    | nil => simp [sameEntries]
    | cons e es ih =>
      rw [List.forall_mem_cons, ← ih, ← sameUnder_eq_true_iff, sameEntries]
      split
      · next h => simp [h]
      · next h => exact iff_of_false h fun hs => h hs.1
  cases w with
  | map g fs =>
    rw [same]
    by_cases hl : es.length = fs.length
    · simp [hl, entries]
    · simp [hl]
  | _ => simp [same]

/-- Sets are the same if they are of one size and every element of the one finds an element of the
other. -/
theorem same_set_iff {form : SetForm} {vs : List Value} :
    S.same (.set form vs) w = some true ↔ ∃ g ws, w = .set g ws ∧ vs.length = ws.length ∧
      ∀ v ∈ vs, ∃ u ∈ ws, S.isElement g v u = true := by
  have elements (g : SetForm) (vs ws : List Value) :
      S.allHeld g vs ws = true ↔ ∀ v ∈ vs, ∃ u ∈ ws, S.isElement g v u = true := by
    induction vs with
    | nil => simp [allHeld]
    | cons v vs ih => rw [List.forall_mem_cons, ← ih, allHeld, Bool.and_eq_true, held_eq_any,
        List.any_eq_true]
  cases w with
  | set g ws =>
    rw [same]
    by_cases hl : vs.length = ws.length
    · simp [hl, elements]
    · simp [hl]
  | _ => simp [same]

/-- The names of the fields that a bean of a type path declares. -/
def fieldNames (S : Schema) (path : String) : List String :=
  ((S.bean? path).map (·.fields.map (·.name))).getD []

/-- Beans are the same if they are of one type and the declared fields are there in both and the
same. -/
theorem same_bean_iff {path : String} {fields hidden : List (String × Value)} :
    S.same (.bean path fields hidden) w = some true ↔
      ∃ fields' hidden', w = .bean path fields' hidden' ∧ ∀ n ∈ S.fieldNames path, ∃ v u,
        fields.lookup n = some v ∧ fields'.lookup n = some u ∧ S.same v u = some true := by
  have declared (names : List String) (fs gs : List (String × Value)) :
      S.sameFields names fs gs = some true ↔ ∀ n ∈ names, ∃ v u,
        fs.lookup n = some v ∧ gs.lookup n = some u ∧ S.same v u = some true := by
    induction names with
    | nil => simp [sameFields]
    | cons n names ih =>
      rw [List.forall_mem_cons, ← ih, sameFields]
      split
      · next v u hv hu =>
        split
        · next h => simp [hv, hu, h]
        · next h =>
          refine iff_of_false h ?_
          rintro ⟨⟨v', u', hv', hu', hs⟩, -⟩
          cases hv.symm.trans hv'
          cases hu.symm.trans hu'
          exact h hs
      · next h =>
        simp only [Option.some.injEq, Bool.false_eq_true, false_iff]
        rintro ⟨⟨v, u, hv, hu, -⟩, -⟩
        exact h v u hv hu
  cases w with
  | bean p gs hs =>
    rw [same]
    by_cases hp : path = p
    · subst hp
      simp [declared, fieldNames]
    · simp [hp, Ne.symm hp]
  | _ => simp [same]

/-! ### Where the answer is missing -/

/-- Items without an answer have it missing at one item of each sequence. -/
theorem sameItems_eq_none {vs ws : List Value} (h : S.sameItems vs ws = none) :
    ∃ v ∈ vs, ∃ w ∈ ws, S.same v w = none := by
  induction vs generalizing ws with
  | nil => simp [sameItems] at h
  | cons v vs ih =>
    cases ws with
    | nil => simp [sameItems] at h
    | cons w ws =>
      rw [sameItems] at h
      split at h
      · obtain ⟨x, hx, y, hy, hn⟩ := ih h
        exact ⟨x, List.mem_cons_of_mem v hx, y, List.mem_cons_of_mem w hy, hn⟩
      · exact ⟨v, List.mem_cons_self, w, List.mem_cons_self, h⟩

/-- Entries without an answer have it missing at a value of each map. -/
theorem sameEntries_eq_none {g : MapForm} {es fs : List (Value × Value)}
    (h : S.sameEntries g es fs = none) : ∃ e ∈ es, ∃ f ∈ fs, S.same e.2 f.2 = none := by
  induction es with
  | nil => simp [sameEntries] at h
  | cons e es ih =>
    rw [sameEntries] at h
    split at h
    · obtain ⟨e', he, f, hf, hn⟩ := ih h
      exact ⟨e', List.mem_cons_of_mem e he, f, hf, hn⟩
    · rw [sameUnder_eq] at h
      cases hw : S.entry? g fs e.1 with
      | none => simp [hw] at h
      | some w =>
        obtain ⟨f, hf, rfl⟩ := Option.map_eq_some_iff.1 hw
        rw [hw] at h
        exact ⟨e, List.mem_cons_self, f, List.mem_of_find?_eq_some hf, h⟩

/-- Fields without an answer have it missing at a field that both beans have. -/
theorem sameFields_eq_none {names : List String} {fs gs : List (String × Value)}
    (h : S.sameFields names fs gs = none) :
    ∃ n ∈ names, ∃ v u, fs.lookup n = some v ∧ gs.lookup n = some u ∧ S.same v u = none := by
  induction names with
  | nil => simp [sameFields] at h
  | cons n names ih =>
    rw [sameFields] at h
    split at h
    · next v u hv hu =>
      split at h
      · obtain ⟨m, hm, hn⟩ := ih h
        exact ⟨m, List.mem_cons_of_mem n hm, hn⟩
      · exact ⟨n, List.mem_cons_self, v, u, hv, hu, h⟩
    · cases h

/-! ### Comparable values -/

/-- Values that are made of scalars other than the number that is none, of optionals, of sequences,
of maps and sets with static types, and of beans that have all their declared fields.  The keys of a
map and the elements of a set are different values of the declared type. -/
inductive Comparable (S : Schema) : Value → Prop
  | atom {a : Atom} (number : ∀ k bits, a = .float k bits → k.isNaN bits = false) :
      Comparable S (.atom a)
  | absent (t : Ty) : Comparable S (.absent t)
  | present {v : Value} (content : Comparable S v) : Comparable S (.present v)
  | seq {form : SeqForm} {vs : List Value} (items : ∀ v ∈ vs, Comparable S v) :
      Comparable S (.seq form vs)
  | map {form : TableForm} {key value : Ty} {es : List (Value × Value)}
      (typed : ∀ e ∈ es, e.1.ty = key) (distinct : (es.map (·.1)).Nodup)
      (values : ∀ e ∈ es, Comparable S e.2) : Comparable S (.map (.table form key value) es)
  | set {form : TableForm} {element : Ty} {vs : List Value} (typed : ∀ v ∈ vs, v.ty = element)
      (distinct : vs.Nodup) : Comparable S (.set (.table form element) vs)
  | bean {path : String} {fields hidden : List (String × Value)}
      (complete : ∀ n ∈ S.fieldNames path, ∃ u, fields.lookup n = some u)
      (values : ∀ n ∈ S.fieldNames path, ∀ u, fields.lookup n = some u → Comparable S u) :
      Comparable S (.bean path fields hidden)

/-- Among different keys of the declared type a key finds the value of the entry that has it. -/
theorem entry?_eq_some_iff_mem {form : TableForm} {key value : Ty} {es : List (Value × Value)}
    (typed : ∀ e ∈ es, e.1.ty = key) (distinct : (es.map (·.1)).Nodup) {k : Value} :
    S.entry? (.table form key value) es k = some u ↔ (k, u) ∈ es := by
  have isKey {e : Value × Value} (he : e ∈ es) :
      S.isKey (.table form key value) k e.1 = true ↔ e.1 = k := by
    simp only [Schema.isKey, Bool.and_eq_true, beq_iff_eq, and_iff_right_iff_imp]
    rintro rfl
    exact typed e he
  unfold entry?
  rw [Option.map_eq_some_iff]
  constructor
  · rintro ⟨e, he, rfl⟩
    have hm := List.mem_of_find?_eq_some he
    have hk : S.isKey (.table form key value) k e.1 = true := by simpa using List.find?_some he
    rwa [← (isKey hm).1 hk]
  · intro hm
    have found : (es.find? fun e => S.isKey (.table form key value) k e.1).isSome :=
      List.find?_isSome.2 ⟨_, hm, (isKey hm).2 rfl⟩
    obtain ⟨e, he⟩ := Option.isSome_iff_exists.1 found
    have hk : S.isKey (.table form key value) k e.1 = true := by simpa using List.find?_some he
    have hm' := List.mem_of_find?_eq_some he
    cases List.inj_on_of_nodup_map distinct hm' hm ((isKey hm').1 hk)
    exact ⟨_, he, rfl⟩

/-- A value finds itself among elements of the declared type, and nothing else. -/
theorem finds_element_iff {form : TableForm} {element : Ty} {vs : List Value}
    (typed : ∀ v ∈ vs, v.ty = element) :
    (∃ u ∈ vs, S.isElement (.table form element) v u = true) ↔ v ∈ vs := by
  have isElement {u : Value} (hu : u ∈ vs) :
      S.isElement (.table form element) v u = true ↔ u = v := isElement_iff (typed u hu)
  constructor
  · rintro ⟨u, hu, h⟩
    rwa [← (isElement hu).1 h]
  · exact fun hv => ⟨v, hv, (isElement hv).2 rfl⟩

namespace Comparable

/-- Two comparable values are the same or they are not: the answer is never missing. -/
theorem decided (hv : S.Comparable v) (hw : S.Comparable w) : S.same v w ≠ none := by
  induction hv generalizing w with
  | atom => cases w <;> simp [same]
  | absent => cases w <;> simp [same]
  | @present v _ ih =>
    cases hw with
    | @present w hw =>
      rw [same]
      split
      · exact ih hw
      · exact Option.some_ne_none _
    | _ => simp [same]
  | @seq form vs _ ih =>
    cases hw with
    | @seq g ws items =>
      rw [same]
      split
      · intro hn
        obtain ⟨x, hx, y, hy, hn⟩ := sameItems_eq_none hn
        exact ih x hx (items y hy) hn
      · exact Option.some_ne_none _
    | _ => simp [same]
  | @map form key value es _ _ _ ih =>
    cases hw with
    | @map g key' value' fs _ _ values =>
      rw [same]
      split
      · intro hn
        obtain ⟨e, he, f, hf, hn⟩ := sameEntries_eq_none hn
        exact ih e he (values f hf) hn
      · exact Option.some_ne_none _
    | _ => simp [same]
  | set =>
    cases hw with
    | set =>
      rw [same]
      split <;> exact Option.some_ne_none _
    | _ => simp [same]
  | @bean path fields hidden _ _ ih =>
    cases hw with
    | @bean path' fields' hidden' _ values =>
      rw [same]
      split
      · next hp =>
        subst hp
        intro hn
        obtain ⟨n, hn, x, y, hx, hy, he⟩ := sameFields_eq_none hn
        exact ih n hn x hx (values n hn y hy) he
      · exact Option.some_ne_none _
    | _ => simp [same]

/-- A comparable value is the same as itself. -/
theorem same_self (hv : S.Comparable v) : S.same v v = some true := by
  induction hv with
  | atom number => exact same_atom_iff.2 ⟨_, rfl, Atom.same_self number⟩
  | absent t => exact same_absent_iff.2 rfl
  | present _ ih => exact same_present_iff.2 ⟨_, rfl, rfl, ih⟩
  | seq _ ih => exact same_seq_iff.2 ⟨_, _, rfl, rfl, fun i hi _ => ih _ (List.getElem_mem hi)⟩
  | map typed distinct _ ih =>
    exact same_map_iff.2 ⟨_, _, rfl, rfl, fun e he =>
      ⟨e.2, (entry?_eq_some_iff_mem typed distinct).2 he, ih e he⟩⟩
  | set typed distinct =>
    exact same_set_iff.2 ⟨_, _, rfl, rfl, fun v hv => (finds_element_iff typed).2 hv⟩
  | bean complete _ ih =>
    refine same_bean_iff.2 ⟨_, _, rfl, fun n hn => ?_⟩
    obtain ⟨u, hu⟩ := complete n hn
    exact ⟨u, u, hu, hu, ih n hn u hu⟩

/-- Being the same is symmetric among comparable values. Only for maps and sets is that more than
the symmetry of the parts: the keys of the one are then those of the other by their number. -/
theorem same_symm (hv : S.Comparable v) (hw : S.Comparable w) (h : S.same v w = some true) :
    S.same w v = some true := by
  induction hv generalizing w with
  | atom =>
    obtain ⟨b, rfl, hs⟩ := same_atom_iff.1 h
    exact same_atom_iff.2 ⟨_, rfl, (Atom.same_comm b _).trans hs⟩
  | absent t =>
    obtain rfl := same_absent_iff.1 h
    exact h
  | present _ ih =>
    obtain ⟨w, rfl, ht, hs⟩ := same_present_iff.1 h
    cases hw with
    | present hw => exact same_present_iff.2 ⟨_, rfl, ht.symm, ih hw hs⟩
  | seq _ ih =>
    obtain ⟨g, ws, rfl, hl, hs⟩ := same_seq_iff.1 h
    cases hw with
    | seq items =>
      exact same_seq_iff.2 ⟨_, _, rfl, hl.symm, fun i hi hj =>
        ih _ (List.getElem_mem hj) (items _ (List.getElem_mem hi)) (hs i hj hi)⟩
  | @map form key value es typed distinct _ ih =>
    obtain ⟨_, fs, rfl, hl, hs⟩ := same_map_iff.1 h
    cases hw with
    | @map g key' value' _ typed' distinct' values' =>
      have found (e : Value × Value) (he : e ∈ es) :
          ∃ u, (e.1, u) ∈ fs ∧ S.same e.2 u = some true := by
        obtain ⟨u, hu, hs⟩ := hs e he
        exact ⟨u, (entry?_eq_some_iff_mem typed' distinct').1 hu, hs⟩
      -- The keys of the one map are all keys of the other, and there are no more.
      have subset : es.map (·.1) ⊆ fs.map (·.1) := fun k hk => by
        obtain ⟨e, he, rfl⟩ := List.mem_map.1 hk
        obtain ⟨u, hu, -⟩ := found e he
        exact List.mem_map.2 ⟨_, hu, rfl⟩
      have keys : fs.map (·.1) ⊆ es.map (·.1) :=
        subset_of_nodup_of_length distinct subset (by simp [hl])
      refine same_map_iff.2 ⟨_, es, rfl, hl.symm, fun f hf => ?_⟩
      obtain ⟨e, he, hk⟩ := List.mem_map.1 (keys (List.mem_map_of_mem hf))
      obtain ⟨u, hu, hs⟩ := found e he
      cases List.inj_on_of_nodup_map distinct' hu hf hk
      exact ⟨e.2, (entry?_eq_some_iff_mem typed distinct).2 he, ih e he (values' _ hf) hs⟩
  | set typed distinct =>
    obtain ⟨_, ws, rfl, hl, hs⟩ := same_set_iff.1 h
    cases hw with
    | set typed' distinct' =>
      have subset := subset_of_nodup_of_length distinct
        (fun v hv => (finds_element_iff typed').1 (hs v hv)) hl.ge
      exact same_set_iff.2 ⟨_, _, rfl, hl.symm, fun u hu =>
        (finds_element_iff typed).2 (subset hu)⟩
  | bean _ _ ih =>
    obtain ⟨fields', hidden', rfl, hs⟩ := same_bean_iff.1 h
    cases hw with
    | bean _ values' =>
      refine same_bean_iff.2 ⟨_, _, rfl, fun n hn => ?_⟩
      obtain ⟨x, y, hx, hy, hs⟩ := hs n hn
      exact ⟨y, x, hy, hx, ih n hn x hx (values' n hn y hy) hs⟩

/-- Being the same is transitive among comparable values, and every part of the first is compared
with that of the third by way of the second. -/
theorem same_trans (hv : S.Comparable v) (hw : S.Comparable w) (hu : S.Comparable u)
    (h : S.same v w = some true) (h' : S.same w u = some true) : S.same v u = some true := by
  induction hv generalizing w u with
  | atom =>
    obtain ⟨b, rfl, hs⟩ := same_atom_iff.1 h
    obtain ⟨c, rfl, hs'⟩ := same_atom_iff.1 h'
    exact same_atom_iff.2 ⟨c, rfl, Atom.same_of_same ((Atom.same_comm b _).trans hs) hs'⟩
  | absent t =>
    obtain rfl := same_absent_iff.1 h
    exact h'
  | present _ ih =>
    obtain ⟨w, rfl, ht, hs⟩ := same_present_iff.1 h
    obtain ⟨u, rfl, ht', hs'⟩ := same_present_iff.1 h'
    cases hw with
    | present hw =>
      cases hu with
      | present hu => exact same_present_iff.2 ⟨_, rfl, ht.trans ht', ih hw hu hs hs'⟩
  | seq _ ih =>
    obtain ⟨g, ws, rfl, hl, hs⟩ := same_seq_iff.1 h
    obtain ⟨g', us, rfl, hl', hs'⟩ := same_seq_iff.1 h'
    cases hw with
    | seq items =>
      cases hu with
      | seq items' =>
        refine same_seq_iff.2 ⟨_, _, rfl, hl.trans hl', fun i hi hk => ?_⟩
        have hj : i < ws.length := hl ▸ hi
        exact ih _ (List.getElem_mem hi) (items _ (List.getElem_mem hj))
          (items' _ (List.getElem_mem hk)) (hs i hi hj) (hs' i hj hk)
  | map _ _ _ ih =>
    obtain ⟨_, fs, rfl, hl, hs⟩ := same_map_iff.1 h
    obtain ⟨_, gs, rfl, hl', hs'⟩ := same_map_iff.1 h'
    cases hw with
    | map typed distinct values =>
      cases hu with
      | map typed' distinct' values' =>
        refine same_map_iff.2 ⟨_, _, rfl, hl.trans hl', fun e he => ?_⟩
        obtain ⟨x, hx, hs⟩ := hs e he
        -- The second map has an entry with the very key, so the third one is asked for it too.
        have hm := (entry?_eq_some_iff_mem typed distinct).1 hx
        obtain ⟨y, hy, hs'⟩ := hs' _ hm
        have hm' := (entry?_eq_some_iff_mem typed' distinct').1 hy
        exact ⟨y, hy, ih e he (values _ hm) (values' _ hm') hs hs'⟩
  | set _ _ =>
    obtain ⟨_, ws, rfl, hl, hs⟩ := same_set_iff.1 h
    obtain ⟨_, us, rfl, hl', hs'⟩ := same_set_iff.1 h'
    cases hw with
    | set typed _ =>
      exact same_set_iff.2 ⟨_, _, rfl, hl.trans hl', fun v hv =>
        hs' v ((finds_element_iff typed).1 (hs v hv))⟩
  | bean _ _ ih =>
    obtain ⟨fields', hidden', rfl, hs⟩ := same_bean_iff.1 h
    obtain ⟨fields'', hidden'', rfl, hs'⟩ := same_bean_iff.1 h'
    cases hw with
    | bean _ values' =>
      cases hu with
      | bean _ values'' =>
        refine same_bean_iff.2 ⟨_, _, rfl, fun n hn => ?_⟩
        obtain ⟨x, y, hx, hy, hs⟩ := hs n hn
        obtain ⟨y', z, hy', hz, hs'⟩ := hs' n hn
        cases hy.symm.trans hy'
        exact ⟨x, z, hx, hz, ih n hn x hx (values' n hn y hy) (values'' n hn z hz) hs hs'⟩

end Comparable

end Schema
end BeanPath
