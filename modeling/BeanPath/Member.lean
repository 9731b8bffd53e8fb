import BeanPath.Schema

/-!
# Members

A member is a field, a getter or a setter of some bean, together with the way to that bean: the
names of the fields that embed the parents, the outermost first.  Two members are the same if they
are the same declaration reached in the same way.

A member is applied to a value of the type that it was looked up on.  Optional layers are looked
through on the way, and an absent one is an error.
-/

namespace BeanPath

/-- What a member is in the bean that declares it. -/
inductive Declaration where
  | field (f : Field)
  | getter (m : Method)
  | setter (m : Method)

namespace Declaration

/-- The role of a declaration. -/
def role : Declaration → Role
  | field _ => .field
  | getter _ => .getter
  | setter _ => .setter

/-- The name of a declaration. -/
def name : Declaration → String
  | field f => f.name
  | getter m | setter m => m.name

/-- The type of the field, of what the getter gives or of what the setter takes. -/
def ty : Declaration → Ty
  | field f => f.ty
  | getter m | setter m => m.ty

end Declaration

/-- The declarations of a role. -/
def Bean.declarations (b : Bean) : Role → List Declaration
  | .field => b.fields.map .field
  | .getter => (b.methodsOf .getter).map .getter
  | .setter => (b.methodsOf .setter).map .setter

/-- The declaration of a role and a name. -/
def Bean.declaration? (b : Bean) (role : Role) (name : String) : Option Declaration :=
  (b.declarations role).find? (·.name = name)

/-- A member. -/
structure Member where
  /-- The fields that lead to the declaring bean. -/
  parents : List String
  /-- The type path of the declaring bean. -/
  bean : String
  declaration : Declaration

namespace Member

/-- The role of a member. -/
def role (m : Member) : Role := m.declaration.role

/-- The name of a member. -/
def name (m : Member) : String := m.declaration.name

/-- The type of the values of a member. -/
def ty (m : Member) : Ty := m.declaration.ty

/-- What tells members apart. -/
def identity (m : Member) : List String × String × Role × String :=
  (m.parents, m.bean, m.role, m.name)

/-- Whether two members are the same. -/
def same (m n : Member) : Bool := m.identity == n.identity

end Member
end BeanPath
