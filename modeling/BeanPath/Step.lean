import BeanPath.Step.Collection
import BeanPath.Step.Mapping
import BeanPath.Step.Property
import BeanPath.Step.Sequence

/-!
# Single steps

A step is one name applied to one value, and its meaning depends on the kind of the value.  Optional
layers are looked through; under an absent one there is nothing to step into, and values without
structure have no steps.
-/

namespace BeanPath

namespace Update

/-- Runs an update on what is under the optional layers of a value. -/
def present (u : Value → Update Value α) : Update Value α := do
  let v ← get
  match v.payload? with
  | some w => (u w).within w v.withPayload
  | none => throw Problem.nullTarget.failure

/-- Changes the items of a sequence. -/
def items (form : SeqForm) (vs : List Value) (u : Update (List Value) α) : Update Value α :=
  u.within vs (.seq form)

/-- Changes the entries of a map. -/
def entries (form : MapForm) (es : List (Value × Value)) (u : Update (List (Value × Value)) α) :
    Update Value α :=
  u.within es (.map form)

/-- Changes the elements of a set. -/
def elements (form : SetForm) (vs : List Value) (u : Update (List Value) α) : Update Value α :=
  u.within vs (.set form)

end Update

/-- The value under all optional layers, which must not be absent. -/
def Value.unwrapped (v : Value) : Except Problem Value :=
  match v.payload? with
  | some w => .ok w
  | none => .error .nullTarget

namespace Navigator

variable (N : Navigator)

/-- Reads one step.  A key or an element that is not there reads as nothing. -/
def get (container : Value) (n : Name) : Except Failure (Option Reading) := do
  match ← container.unwrapped with
  | .seq form vs => return some ⟨← form.getAt vs n, false⟩
  | .map form es => return (← N.scope.getUnder form es n).map (⟨·, false⟩)
  | .set form vs => return (← N.scope.getElement form vs n).map (⟨·, false⟩)
  | .bean path fields hidden => N.getProperty (.bean path fields hidden) n
  | v => throw (Problem.scalarStep v.ty n.shown).failure

/-- Writes one step, giving back what was there.  No value clears an optional place. -/
def put (n : Name) (v : Option Value) : Update Value (Option Value) :=
  .present fun
    | .seq form vs => .items form vs (form.putAt n v)
    | .map form es => .entries form es (N.scope.putUnder form n v)
    | .set form vs => .elements form vs (N.scope.putElement form n v)
    | .bean _ _ _ => N.putProperty n v
    | w => throw (Problem.scalarStep w.ty n.shown).failure

/-- Removes one step, giving back what was there.  A property of a bean is cleared. -/
def remove (n : Name) : Update Value (Option Value) :=
  .present fun
    | .seq form vs => .items form vs (form.removeAt n)
    | .map form es => .entries form es (N.scope.removeUnder form n)
    | .set form vs => .elements form vs (N.scope.removeElement form n)
    | .bean _ _ _ => N.putProperty n none
    | w => throw (Problem.scalarStep w.ty n.shown).failure

/-- Steps into a value under no optional layers. -/
def descendInto (n : Name) : Value → Except Failure Descent
  | .seq form vs => do return .inPlace (← form.placeAt vs n)
  | .map form es => do return .inPlace (← N.scope.placeUnder form es n)
  | .set form vs => do
    let former ← N.scope.singleElement form vs n
    match N.scope.schema.element? form vs former with
    | some v => return .copy v (.element former)
    | none => throw Problem.nullTarget.failure
  | .bean path fields hidden => N.descendProperty (.bean path fields hidden) n
  | v => throw (Problem.scalarStep v.ty n.shown).failure

/-- Steps into a container in order to change a part of it. -/
def descend (container : Value) (n : Name) : Except Failure Descent := do
  let outer ← (Focus.whole container).present
  match ← N.descendInto n outer.value with
  | .inPlace place => return .inPlace (outer.compose place)
  | descent => return descent

/-- Puts a changed copy of a part back into the container that it came from. -/
def reattach (origin : Origin) (v : Value) : Update Value Unit :=
  .present fun container =>
    match origin, container with
    | .setter m, _ => .atomic fun container => do
      return ((), ← m.set container (← v.adapt m.ty))
    | .element former, .set form vs => .elements form vs (N.scope.returnElement form former v)
    | .element _, w => throw (Problem.notReattachable w.ty).failure

end Navigator
end BeanPath
