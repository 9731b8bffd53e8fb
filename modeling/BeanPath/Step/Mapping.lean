import BeanPath.Focus
import BeanPath.Step.Key

/-!
# Steps into maps

In a map a name is a key.  A key that is not there reads as nothing and cannot be stepped into;
writing to it adds an entry.
-/

namespace BeanPath
namespace Scope

variable (C : Scope) (form : MapForm)

/-- The key that a name addresses; a star is none. -/
def singleKey (entries : List (Value × Value)) (n : Name) : Except Failure Value :=
  if n.wild then .error (Problem.wildcardUnsupported form.ty).failure else C.keyFor form entries n

/-- Reads the value under the key that a name addresses. -/
def getUnder (entries : List (Value × Value)) (n : Name) : Except Failure (Option Value) := do
  return C.schema.entry? form entries (← C.singleKey form entries n)

/-- The place of the value under the key that a name addresses. -/
def placeUnder (entries : List (Value × Value)) (n : Name) : Except Failure Focus := do
  let key ← C.singleKey form entries n
  match C.schema.entryPlace? form entries key with
  | some place => return place
  | none => throw Problem.nullTarget.failure

/-- Writes the value under the key that a name addresses, giving back what was there. -/
def putUnder (n : Name) (v : Option Value) : Update (List (Value × Value)) (Option Value) :=
  .atomic fun entries => do
    let key ← C.singleKey form entries n
    let v ← Value.fit v form.value?
    C.schema.insertEntry form entries key v

/-- Removes the entry under the key that a name addresses. -/
def removeUnder (n : Name) : Update (List (Value × Value)) (Option Value) :=
  .atomic fun entries => do
    return C.schema.removeEntry form entries (← C.singleKey form entries n)

end Scope
end BeanPath
