import BeanPath.Value.Show

/-!
# Descriptions of types

What a type tells about itself beyond its shape: as which kinds it may be asked for its details, and
how its methods are shown.
-/

namespace BeanPath

/-- A type asked for the details of a kind that it is not of. -/
structure KindMismatch where
  expected : Kind
  received : Kind
  deriving DecidableEq, Repr

/-- The wording of a kind mismatch. -/
def KindMismatch.message (e : KindMismatch) : String :=
  "reflect kind mismatch: expected " ++ e.expected.name ++ ", received " ++ e.received.name

namespace Kind

/-- All kinds. -/
def all : List Kind := [bean, list, array, map, set, optional, scalar]

/-- Whether a value of a kind can be used as one of another: a list is an array, too. -/
def serves (kind used : Kind) : Bool := kind == used || (kind == list && used == array)

end Kind

/-- Asks a type for the details of a kind. -/
def Ty.expectKind (t : Ty) (expected : Kind) : Except KindMismatch Unit :=
  if t.kind = expected then .ok () else .error ⟨expected, t.kind⟩

/-- The name of the role of a method inside its description. -/
def Role.title : Role → String
  | .field => "Field"
  | .getter => "Getter"
  | .setter => "Setter"

/-- The description of a method. -/
def Method.describe (m : Method) : String :=
  (Outline.group "MethodInfo" .fields
    [.entry (.word "name") (.word (Text.quoted '"' m.name.toList)),
      .entry (.word "kind") (.word m.role.title),
      .entry (.word "value") (.word (Text.quoted '"' m.ty.path.toList))]).flat

end BeanPath
