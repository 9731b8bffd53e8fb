import BeanPath.Schema

/-!
# Equality of values

Two values are compared part by part, and the answer may be that they cannot be compared.  A
sequence is compared with any other sequence, a map with any other map and a set with any other
set, so containers of different types may be equal; atoms, optionals and beans are equal only to
values of their own type.  Sealed values are never comparable, and a number that is none is not
equal to itself.

In a container with static types, keys and elements are found by their type and structure.  In one
for values of any type, each stored key or element is compared with the one looked for.
-/

namespace BeanPath

/-- Equality of atoms: numerically for floating-point numbers. -/
def Atom.same : Atom → Atom → Bool
  | .float j a, .float k b => j == k && k.sameNumber a b
  | a, b => a == b

/-- Other scalars than floating-point numbers are the same if they are equal. -/
theorem Atom.same_of_not_float {a b : Atom} (h : ∀ k n, a ≠ .float k n) :
    a.same b = (a == b) := by
  unfold Atom.same
  split
  · next j n _ _ => exact absurd rfl (h j n)
  · rfl

/-- A field is smaller than the fields it is one of, so comparing fields comes to an end. -/
theorem sizeOf_lt_of_lookup {l : List (String × Value)} {n : String} {v : Value}
    (h : l.lookup n = some v) : sizeOf v < sizeOf l := by
  induction l with
  | nil => cases h
  | cons p l ih =>
    obtain ⟨m, w⟩ := p
    rw [List.lookup_cons] at h
    simp only [List.cons.sizeOf_spec, Prod.mk.sizeOf_spec]
    split at h
    · cases h; omega
    · have := ih h; omega

namespace Schema

variable (S : Schema)

-- Hypotheses that only a termination proof uses count as unused.
set_option linter.unusedVariables false

mutual

/-- Equality of two values: true, false, or not to be decided. -/
def same (a b : Value) : Option Bool :=
  match a, b with
  | .atom x, .atom y => some (x.same y)
  | .sealed _ _, _ => none
  | .absent s, .absent t => some (s == t)
  | .present v, .present w => if v.ty = w.ty then same v w else some false
  | .seq _ vs, .seq _ ws => if vs.length = ws.length then sameItems vs ws else some false
  | .map _ es, .map g fs => if es.length = fs.length then sameEntries g es fs else some false
  | .set _ vs, .set g ws => if vs.length = ws.length then some (allHeld g vs ws) else some false
  | .bean p fs _, .bean q gs _ =>
    if p = q then sameFields (((S.bean? p).map (·.fields.map (·.name))).getD []) fs gs
    else some false
  | _, _ => some false
termination_by (sizeOf a + sizeOf b, 0)

/-- Equality of items, from the left, up to the first that differs or cannot be compared. -/
def sameItems (vs ws : List Value) : Option Bool :=
  match vs, ws with
  | v :: vs, w :: ws =>
    match same v w with
    | some true => sameItems vs ws
    | answer => answer
  | _, _ => some true
termination_by (sizeOf vs + sizeOf ws, 0)

/-- Equality of the value of each entry with the value that the other map has under its key. -/
def sameEntries (g : MapForm) (es fs : List (Value × Value)) : Option Bool :=
  match es with
  | [] => some true
  | (k, v) :: es =>
    match sameUnder g k v fs with
    | some true => sameEntries g es fs
    | answer => answer
termination_by (sizeOf es + sizeOf fs, 0)

/-- Equality of a value with the value of the first entry that has the key. -/
def sameUnder (g : MapForm) (k v : Value) (fs : List (Value × Value)) : Option Bool :=
  match fs with
  | [] => some false
  | (l, w) :: fs =>
    let found :=
      match g with
      | .table _ key _ => k.ty == key && l == k
      | .dyn => same l k == some true
    if found then same v w else sameUnder g k v fs
termination_by (sizeOf k + sizeOf v + sizeOf fs, 0)

/-- Whether every element is in the other set. -/
def allHeld (g : SetForm) (vs ws : List Value) : Bool :=
  match vs with
  | [] => true
  | v :: vs => held g v ws && allHeld g vs ws
termination_by (sizeOf vs + sizeOf ws, 0)

/-- Whether a set has an element equal to a value. -/
def held (g : SetForm) (v : Value) (ws : List Value) : Bool :=
  match ws with
  | [] => false
  | w :: ws =>
    (match g with
      | .table _ element => v.ty == element && w == v
      | .dyn => same w v == some true)
      || held g v ws
termination_by (sizeOf v + sizeOf ws, 0)

/-- Equality of the declared fields, in order.  Beans that do not have them differ. -/
def sameFields (names : List String) (fs gs : List (String × Value)) : Option Bool :=
  match names with
  | [] => some true
  | n :: names =>
    match hv : fs.lookup n, hw : gs.lookup n with
    | some v, some w =>
      match same v w with
      | some true => sameFields names fs gs
      | answer => answer
    | _, _ => some false
termination_by (sizeOf fs + sizeOf gs, names.length)
decreasing_by
  · have := sizeOf_lt_of_lookup hv
    have := sizeOf_lt_of_lookup hw
    exact Prod.Lex.left _ _ (by omega)
  · exact Prod.Lex.right _ (Nat.lt_succ_self _)

end

end Schema
end BeanPath
