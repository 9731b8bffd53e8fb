import BeanPath.Failure.Problem
import BeanPath.Focus
import BeanPath.Member

/-!
# Using members

Reading a member gives a copy of a field or calls a getter; writing replaces a field or calls a
setter.  Both start at the bean that declares the member: the fields that lead to it are entered
one after the other, each under its optional layers.  A failed write changes nothing.
-/

namespace BeanPath

namespace Focus

/-- The place under all optional layers, which must not be absent. -/
def present (f : Focus) : Except Problem Focus :=
  match f.value.payloadPlace? with
  | some inner => .ok (f.compose inner)
  | none => .error .nullTarget

/-- Enters a field that embeds a parent. -/
def enter (f : Focus) (name : String) : Except Problem Focus :=
  match f.value.fieldPlace? name with
  | some inner => (f.compose inner).present
  | none => .error (.noMember f.value.ty name)

/-- Enters the fields that lead to a declaring bean. -/
def enterAll (f : Focus) : List String → Except Problem Focus
  | [] => .ok f
  | name :: names => do (← f.enter name).enterAll names

end Focus

namespace Member

variable (m : Member)

/-- The bean that declares the member, inside its owner. -/
def receiver (owner : Value) : Except Problem Focus := do
  (← (Focus.whole owner).present).enterAll m.parents

/-- The place of the member in its owner, if it is a field that the owner has. -/
def place? (owner : Value) : Except Problem (Option Focus) :=
  match m.declaration with
  | .field f => do
    let receiver ← m.receiver owner
    return (receiver.value.fieldPlace? f.name).map receiver.compose
  | _ => return none

/-- Reads the member of an owner. -/
def get (owner : Value) : Except Failure Value := do
  let receiver ← m.receiver owner
  match m.declaration with
  | .field f =>
    match receiver.value.field? f.name with
    | some v => return v
    | none => throw (Problem.noMember receiver.value.ty f.name).failure
  | .getter method | .setter method => method.get m.bean receiver.value

/-- Writes a value of the type of the member, giving the owner afterwards. -/
def set (owner v : Value) : Except Failure Value := do
  let receiver ← m.receiver owner
  match m.declaration with
  | .field f =>
    match receiver.value.fieldPlace? f.name with
    | some place =>
      match (receiver.compose place).assign? v with
      | some owner => return owner
      | none => throw (Fault.typeMismatch f.ty v.ty).failure
    | none => throw (Problem.noFieldToWrite f.name).failure
  | .getter method | .setter method => return receiver.put (← method.set m.bean receiver.value v)

end Member
end BeanPath
