import BeanPath.Container.Slot
import BeanPath.Container.Sequence
import BeanPath.Value.Equality
import BeanPath.Value.Order

/-!
# Maps and sets

A map finds an entry by its key and a set an element by itself.  With static types a stored key is
found by a key of the key type that has the same structure; among values of any type it is found by
the equality of values, each stored key being asked about the one looked for.

An entry keeps its place and its stored key when its value is replaced.  A new entry goes to the
end, or, in a sorted map, in front of the first entry with a greater key.  Sets do the same with
their elements, and an element that is already there is not taken in again.
-/

namespace BeanPath

namespace TableForm

/-- Adds a new member: by order if the table is sorted, at the end otherwise. -/
def add (form : TableForm) (order : α → α → Ordering) (a : α) (as : List α) : List α :=
  match form with
  | tree => insertSorted order a as
  | hash | fixedHash => as ++ [a]

/-- Adding to a table adds one member, wherever in the order it goes. -/
theorem add_perm (form : TableForm) (order : α → α → Ordering) (a : α) (as : List α) :
    (form.add order a as).Perm (a :: as) := by
  cases form with
  | tree => exact insertSorted_perm order a as
  | hash | fixedHash => exact List.perm_append_singleton a as

end TableForm

namespace MapForm

/-- The type of the keys. -/
def key? : MapForm → Option Ty
  | table _ key _ => some key
  | dyn => none

/-- The type of the values. -/
def value? : MapForm → Option Ty
  | table _ _ value => some value
  | dyn => none

/-- Adds an entry under a new key. -/
def add (g : MapForm) (e : Value × Value) (es : List (Value × Value)) : List (Value × Value) :=
  match g with
  | table form _ _ => form.add (fun a b => a.1.order b.1) e es
  | dyn => es ++ [e]

/-- Adding to a map adds one entry. -/
theorem add_perm (g : MapForm) (e : Value × Value) (es : List (Value × Value)) :
    (g.add e es).Perm (e :: es) := by
  cases g with
  | table form _ _ => exact form.add_perm _ e es
  | dyn => exact List.perm_append_singleton e es

end MapForm

namespace SetForm

/-- The type of the elements. -/
def element? : SetForm → Option Ty
  | table _ element => some element
  | dyn => none

/-- Adds a new element. -/
def add (g : SetForm) (v : Value) (vs : List Value) : List Value :=
  match g with
  | table form _ => form.add Value.order v vs
  | dyn => vs ++ [v]

/-- Adding to a set adds one element. -/
theorem add_perm (g : SetForm) (v : Value) (vs : List Value) : (g.add v vs).Perm (v :: vs) := by
  cases g with
  | table form _ => exact form.add_perm _ v vs
  | dyn => exact List.perm_append_singleton v vs

end SetForm

namespace Schema

variable (S : Schema)

/-- Whether a key finds a stored key. -/
def isKey (g : MapForm) (k stored : Value) : Bool :=
  match g with
  | .table _ key _ => k.ty == key && stored == k
  | .dyn => S.same stored k == some true

/-- The value of the first entry that a key finds. -/
def entry? (g : MapForm) (es : List (Value × Value)) (k : Value) : Option Value :=
  (es.find? fun e => S.isKey g k e.1).map (·.2)

/-- Stores a value under a key, giving back the value that was stored there. -/
def insertEntry (g : MapForm) (es : List (Value × Value)) (k v : Value) :
    Except Fault (Option Value × List (Value × Value)) := do
  let k ← k.fitting g.key?
  let v ← v.fitting g.value?
  match S.entry? g es k with
  | some old => return (some old, updateFirst (fun e => S.isKey g k e.1) (fun e => (e.1, v)) es)
  | none => return (none, g.add (k, v) es)

/-- Removes the entry that a key finds, giving back its value. -/
def removeEntry (g : MapForm) (es : List (Value × Value)) (k : Value) :
    Option Value × List (Value × Value) :=
  (S.entry? g es k, es.eraseP fun e => S.isKey g k e.1)

/-- Whether a value finds a stored element. -/
def isElement (g : SetForm) (v stored : Value) : Bool :=
  match g with
  | .table _ element => v.ty == element && stored == v
  | .dyn => S.same stored v == some true

/-- The first element that a value finds. -/
def element? (g : SetForm) (vs : List Value) (v : Value) : Option Value :=
  vs.find? (S.isElement g v)

/-- Takes a value in unless an element is found by it, and says whether it was taken in. -/
def insertElement (g : SetForm) (vs : List Value) (v : Value) :
    Except Fault (Bool × List Value) := do
  let v ← v.fitting g.element?
  match S.element? g vs v with
  | some _ => return (false, vs)
  | none => return (true, g.add v vs)

/-- The elements of a set for values of any type that is made of several values, which are taken in
one after the other. -/
def gather (vs : List Value) : Except Fault (List Value) :=
  vs.foldlM (fun elements v => do return (← S.insertElement .dyn elements v).2) []

/-- Takes out the element that a value finds. -/
def takeElement (g : SetForm) (vs : List Value) (v : Value) : Option Value × List Value :=
  (S.element? g vs v, vs.eraseP (S.isElement g v))

/-- A value is held if it finds one of the elements. -/
theorem held_eq_any (g : SetForm) (v : Value) (vs : List Value) :
    S.held g v vs = vs.any (S.isElement g v) := by
  induction vs with
  | nil => unfold held; rfl
  | cons w vs ih =>
    unfold held
    rw [ih, List.any_cons]
    cases g <;> rfl

end Schema
end BeanPath
