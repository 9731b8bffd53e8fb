import BeanPath.Step.Key
import BeanPath.Update

/-!
# Steps into sets

In a set a name without a qualifier that is an integer literal is a position in the order of
iteration; any other name is an element, found by equality.  A star reads as nothing, and writing
to it takes an element in.  Elements are not changed in place: the old one is taken out and the new
one taken in.
-/

namespace BeanPath
namespace Scope

variable (C : Scope) (form : SetForm)

/-- The single element that a name addresses, not necessarily one that is there. -/
def singleElement (elements : List Value) (n : Name) : Except Failure Value :=
  if n.wild then .error (Problem.wildcardUnsupported form.ty).failure
  else C.elementFor form elements n none

/-- Reads the element that a name addresses. -/
def getElement (elements : List Value) (n : Name) : Except Failure (Option Value) :=
  if n.wild then .ok none
  else
    match n.position? with
    | some i => do return some (elements.get (← boundedIndex i elements.length))
    | none => do return C.schema.element? form elements (← C.elementFor form elements n none)

/-- Takes out what an element finds. -/
def takeOut (v : Value) : Update (List Value) (Option Value) := modifyGet fun elements =>
  C.schema.takeElement form elements v

/-- Takes an element in. -/
def takeIn (v : Value) : Update (List Value) Bool := .atomic fun elements =>
  C.schema.insertElement form elements v

/-- Writes an element in place of the one that a name addresses, which is given back. -/
def putElement (n : Name) (v : Option Value) : Update (List Value) (Option Value) := do
  let elements ← get
  let v ← Value.fit v form.element?
  if n.wild then
    let _ ← C.takeIn form v
    return none
  else
    let previous ← C.takeOut form (← C.elementFor form elements n (some v.ty))
    let _ ← C.takeIn form v
    return previous

/-- Removes the element that a name addresses. -/
def removeElement (n : Name) : Update (List Value) (Option Value) := do
  C.takeOut form (← C.singleElement form (← get) n)

/-- Puts an element back in place of the one it was made from. -/
def returnElement (former v : Value) : Update (List Value) Unit := do
  let _ ← C.takeOut form former
  let _ ← C.takeIn form v

end Scope
end BeanPath
