import BeanPath.Focus
import BeanPath.Step.Key

/-!
# Steps into sequences

In a list and in an array a name is a position.  A star reads nothing; writing to it appends to a
list.  An array keeps its length, so nothing is appended to it and nothing removed.
-/

namespace BeanPath
namespace SeqForm

/-- The position of the single item that a name addresses. -/
def indexOf (form : SeqForm) (items : List Value) (n : Name) :
    Except Problem (Fin items.length) :=
  if n.wild then .error (.wildcardIsNoElement (form.ty items.length)) else n.index items.length

/-- Reads the item that a name addresses. -/
def getAt (form : SeqForm) (items : List Value) (n : Name) : Except Problem Value := do
  return items.get (← form.indexOf items n)

/-- The place of the item that a name addresses. -/
def placeAt (form : SeqForm) (items : List Value) (n : Name) : Except Problem Focus := do
  let i ← form.indexOf items n
  return ⟨items.get i, fun v => .seq form (items.set i v)⟩

/-- Writes the item that a name addresses, or appends one, giving back what was there. -/
def putAt (form : SeqForm) (n : Name) (v : Option Value) : Update (List Value) (Option Value) :=
  .atomic fun items => do
    if n.wild then
      if form.fixed then throw (Fault.fixedSize (form.ty items.length)).failure
      else return (none, ← form.push items (← Value.fit v form.item?))
    else
      let i ← n.index items.length
      let v ← Value.fit v form.item?
      let (old, items) ← form.replace items i v
      return (some old, items)

/-- Removes the item that a name addresses; later ones move up. -/
def removeAt (form : SeqForm) (n : Name) : Update (List Value) (Option Value) :=
  .atomic fun items => do
    if form.fixed then throw (Fault.fixedSize (form.ty items.length)).failure
    else if n.wild then throw (Problem.wildcardUnsupported (form.ty items.length)).failure
    else
      let i ← n.index items.length
      return (some (items.get i), items.eraseIdx i)

end SeqForm
end BeanPath
