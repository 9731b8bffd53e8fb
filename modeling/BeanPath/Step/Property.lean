import BeanPath.Member.Lookup
import BeanPath.Member.Use
import BeanPath.Step.Key

/-!
# Steps into beans

In a bean a name is a property: the members that are found by it, with the type that its qualifier
stands for as the expected one.  A getter is preferred for reading and a setter for writing, and the
field is used where there is none.  Stepping into a property to change a part of it goes to the
field, and only without a field through the getter and back through the setter.
-/

namespace BeanPath

/-- Where names are looked up, and how strictly members of beans have to match. -/
structure Navigator where
  scope : Scope
  mode : Mode := .auto

/-- What a step reads: a part of the container itself, or a value made by a getter. -/
structure Reading where
  value : Value
  owned : Bool
  deriving DecidableEq, Repr

/-- How a copy of a part goes back into its container. -/
inductive Origin where
  /-- Through a setter. -/
  | setter (m : Member)
  /-- In place of the element that it was made from. -/
  | element (former : Value)

/-- A step into a container in order to change a part of it. -/
inductive Descent where
  /-- The part is changed where it is. -/
  | inPlace (place : Focus)
  /-- A copy is changed and goes back afterwards. -/
  | copy (value : Value) (origin : Origin)

namespace Navigator

variable (N : Navigator)

/-- The member of a role that a name finds in a bean. -/
def member? (role : Role) (owner : Ty) (expected : Option Ty) (n : Name) :
    Except Problem (Option Member) :=
  N.scope.schema.member? { role, name := n.text, expected, mode := N.mode } owner

/-- Reads a property. -/
def getProperty (bean : Value) (n : Name) : Except Failure (Option Reading) := do
  let expected ← N.scope.qualifier? n
  match ← N.member? .getter bean.ty expected n with
  | some getter => return some ⟨← getter.get bean, true⟩
  | none =>
    match ← N.member? .field bean.ty expected n with
    | some field => return (← field.place? bean).map fun place => ⟨place.value, false⟩
    | none => throw (Problem.noProperty bean.ty n.text).failure

/-- What a property with a setter holds before it is written, as far as it can be read. -/
def previous? (bean : Value) (expected : Option Ty) (n : Name) :
    Except Failure (Option Value) := do
  match ← N.member? .getter bean.ty expected n with
  | some getter => return some (← getter.get bean)
  | none =>
    match ← N.member? .field bean.ty expected n with
    | some field => return some (← field.get bean)
    | none => return none

/-- Writes a property, giving back what it held. -/
def putProperty (n : Name) (v : Option Value) : Update Value (Option Value) :=
  .atomic fun bean => do
    let expected ← N.scope.qualifier? n
    match ← N.member? .setter bean.ty expected n with
    | some setter =>
      let previous ← N.previous? bean expected n
      return (previous, ← setter.set bean (← Value.adapt? v setter.ty))
    | none =>
      match ← N.member? .field bean.ty expected n with
      | some field =>
        let previous ← field.get bean
        return (some previous, ← field.set bean (← Value.adapt? v field.ty))
      | none => throw (Problem.noProperty bean.ty n.text).failure

/-- Steps into a property. -/
def descendProperty (bean : Value) (n : Name) : Except Failure Descent := do
  let expected ← N.scope.qualifier? n
  match ← N.member? .field bean.ty expected n with
  | some field =>
    match ← field.place? bean with
    | some place => return .inPlace place
    | none => throw (Problem.noProperty bean.ty n.text).failure
  | none =>
    match ← N.member? .getter bean.ty expected n with
    | none => throw (Problem.noProperty bean.ty n.text).failure
    | some getter =>
      let v ← getter.get bean
      match ← N.member? .setter bean.ty (some getter.ty) n with
      | some setter => return .copy v (.setter setter)
      | none => throw (Problem.noSetterForProperty bean.ty n.text).failure

end Navigator
end BeanPath
