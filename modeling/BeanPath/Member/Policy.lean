/-!
# How members are asked for

A member is a field, a getter or a setter.  A mode says how strictly the name and the type of a
member must match what was asked for, and a relation says how its declared type must relate to the
expected one.
-/

namespace BeanPath

/-- The roles of members. -/
inductive Role where
  | field | getter | setter
  deriving DecidableEq, Repr, Inhabited

/-- The name of a role. -/
def Role.name : Role → String
  | .field => "field"
  | .getter => "getter"
  | .setter => "setter"

/-- How strictly a member must match. -/
inductive Mode where
  /-- The name and the type exactly. -/
  | known
  /-- The name exactly, and the type if one is expected. -/
  | named
  /-- The name by convention and the type exactly; a star asks for the one member of the type. -/
  | typed
  /-- The name by convention, and the type if one is expected. -/
  | auto
  deriving DecidableEq, Repr, Inhabited

namespace Mode

/-- The name of a mode. -/
def name : Mode → String
  | known => "KNOWN"
  | named => "NAMED"
  | typed => "TYPED"
  | auto => "AUTO"

/-- The modes in the order in which a name is compared with theirs. -/
def all : List Mode := [known, named, typed, auto]

/-- Modes without an answer unless a type is expected. -/
def requiresType : Mode → Bool
  | known | typed => true
  | named | auto => false

/-- Modes in which other spellings of a name are tried. -/
def usesConventions : Mode → Bool
  | typed | auto => true
  | known | named => false

end Mode

/-- How the declared type of a member must relate to the expected type. -/
inductive Relation where
  /-- The declared type can hold the expected one. -/
  | super
  /-- The expected type can hold the declared one. -/
  | child
  /-- Both are the same type. -/
  | exact
  deriving DecidableEq, Repr, Inhabited

namespace Relation

/-- The name of a relation. -/
def name : Relation → String
  | super => "SUPER"
  | child => "CHILD"
  | exact => "EXACT"

/-- The relations in the order in which a name is compared with theirs. -/
def all : List Relation := [super, child, exact]

/-- The relation of a role and a mode when none is asked for: what is written must be able to hold
the expected type and what is read must fit into it; a strict mode wants the same type. -/
def default (mode : Mode) (role : Role) : Relation :=
  if mode.requiresType then exact
  else
    match role with
    | .getter => child
    | .field | .setter => super

end Relation
end BeanPath
