import BeanPath.Accessor.Definition
import BeanPath.Step

/-!
# Layers of accessors

A layer leads from the value of one layer to that of the next: through the members found for a
property, or through a key into a container.  A property is read by its getter, or else from its
field.  It is written by its setter, or else to its field; and a part of it is changed in its field,
or else in a copy that the getter makes and the setter takes back.
-/

namespace BeanPath

/-- The bean under the optional layers of a type. -/
def Ty.beanType (t : Ty) : Except Problem Ty :=
  match t.core with
  | .bean path => .ok (.bean path)
  | other => .error (.noProperties other)

/-- The element type under the optional layers of a type; anything may be where it is not known. -/
def Ty.elementType (t : Ty) : Ty := t.core.element?.getD .any

/-- A layer. -/
inductive Layer where
  /-- The members of a bean for one property. -/
  | property (owner : Ty) (field getter setter : Option Member)
  /-- A key into a container. -/
  | key (owner : Ty) (name : Name)

namespace Layer

/-- The type that a layer reads from: a bean, or a container. -/
def owner : Layer → Ty
  | property owner _ _ _ => owner
  | key owner _ => owner

/-- The type of the values that a layer leads to. -/
def ty : Layer → Ty
  | property owner field getter setter =>
    ((getter <|> field <|> setter).map Member.ty).getD owner
  | key owner _ => owner.elementType

/-- The names that were found for a layer, as a definition. -/
def definition (l : Layer) : Definition :=
  match l with
  | property _ field getter setter =>
    let name (m : Option Member) := (m.map Member.name).getD "*"
    ⟨some l.ty, name field, name getter, name setter⟩
  | key _ _ => { ty := some l.ty }

/-- The failure of a layer without a member of a role. -/
def without (l : Layer) (role : Role) : Failure :=
  (Problem.accessWithout role l.definition.shown l.owner).failure

variable (N : Navigator) (l : Layer)

/-- Reads what a layer leads to. -/
def read (target : Value) : Except Failure (Option Value) :=
  match l with
  | key _ n => do return (← N.get target n).map Reading.value
  | property _ _ (some getter) _ => do return some (← getter.get target)
  | property _ (some field) none _ => do
    match ← field.place? target with
    | some place => return some place.value
    | none => throw Problem.nullTarget.failure
  | property _ none none _ => throw (l.without .getter)

/-- What a property with a setter holds, as far as it can be read. -/
def previous? (field getter : Option Member) (target : Value) : Except Failure (Option Value) :=
  match getter <|> field with
  | some m => do return some (← m.get target)
  | none => return none

/-- Writes what a layer leads to, giving back what was there. -/
def write (v : Option Value) : Update Value (Option Value) :=
  match l with
  | key _ n => N.put n v
  | property _ field getter (some setter) => .atomic fun target => do
    let previous ← previous? field getter target
    return (previous, ← setter.set target (← Value.adapt? v setter.ty))
  | property _ (some field) _ none => .atomic fun target => do
    let previous ← field.get target
    return (some previous, ← field.set target (← Value.adapt? v field.ty))
  | property _ none _ none => throw (l.without .setter)

/-- Runs an update on a copy, which goes back afterwards. -/
def onCopy (v : Value) (back : Value → Update Value Unit) (u : Update Value α) :
    Update Value α :=
  match u v with
  | .ok a v => do
    back v
    return a
  | .error e _ => throw e

/-- Changes what a layer leads to. -/
def visit (u : Update Value α) : Update Value α := do
  let target ← get
  match l with
  | key _ n =>
    match ← N.descend target n with
    | .inPlace place => place.update u
    | .copy v origin => onCopy v (N.reattach origin) u
  | property _ (some field) _ _ =>
    match ← (field.place? target : Except Problem (Option Focus)) with
    | some place => place.update u
    | none => throw Problem.nullTarget.failure
  | property _ none none _ => throw (l.without .getter)
  | property _ none (some _) none => throw (l.without .setter)
  | property _ none (some getter) (some setter) =>
    let back (v : Value) : Update Value Unit := .atomic fun target => do
      return ((), ← setter.set target (← v.adapt setter.ty))
    onCopy (← getter.get target) back u

end Layer
end BeanPath
