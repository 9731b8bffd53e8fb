import BeanPath.Schema

/-!
# Sequences

Lists, arrays and sequences of values of any type.  A value is taken into a sequence only if it has
the item type; a position has to be below the length.
-/

namespace BeanPath

/-- A value that has the type of a place, or any value for a place without a type. -/
def Value.fitting (place : Option Ty) (v : Value) : Except Fault Value :=
  match place with
  | none => .ok v
  | some expected => if v.ty = expected then .ok v else .error (.typeMismatch expected v.ty)

namespace SeqForm

/-- The type of the items. -/
def item? : SeqForm → Option Ty
  | list _ item | array item => some item
  | dyn => none

/-- Sequences that neither grow nor shrink. -/
def fixed : SeqForm → Bool
  | array _ => true
  | _ => false

/-- Appends an item. -/
def push (form : SeqForm) (items : List Value) (v : Value) : Except Fault (List Value) := do
  return items ++ [← v.fitting form.item?]

/-- Puts an item in place of the one at a position, which is given back. -/
def replace (form : SeqForm) (items : List Value) (i : Nat) (v : Value) :
    Except Fault (Value × List Value) := do
  let v ← v.fitting form.item?
  match items[i]? with
  | some old => return (old, items.set i v)
  | none => .error (.outOfBounds i items.length)

/-- A value is appended exactly if it fits the item type. -/
theorem push_eq_ok_iff {form : SeqForm} {items items' : List Value} {v : Value} :
    form.push items v = .ok items' ↔
      v.fitting form.item? = .ok v ∧ items' = items ++ [v] := by
  unfold push Value.fitting
  rcases form.item? with _ | expected
  · simp [bind, Except.bind, pure, Except.pure, eq_comm]
  · dsimp only
    split <;> simp [bind, Except.bind, pure, Except.pure, eq_comm]

end SeqForm
end BeanPath
