import BeanPath.Failure.Problem
import BeanPath.Member
import BeanPath.Member.Spelling
import BeanPath.Schema.Assignable

/-!
# Looking members up

The members of a type are those of its bean, then those of the bean that it embeds as its parent,
and so on up the chain: these are the levels of the type.  A query is matched at every level by
itself, and the nearest level with a match wins.

At one level the candidates for the name are tried in order.  Those that are for truth values only
match nothing else, and if a type is expected, the type of the member has to stand in the relation
to it.  In the typed mode a star asks for the members of the expected type whatever their names are,
and more than one at a level is an error.
-/

namespace BeanPath

/-- One bean on the chain of parents, and the fields that lead to it. -/
structure Level where
  parents : List String
  bean : Bean

namespace Level

/-- The level seen from the bean that embeds it in a field. -/
def under (field : String) (l : Level) : Level := { l with parents := field :: l.parents }

/-- A declaration of the bean as a member. -/
def member (l : Level) (d : Declaration) : Member := ⟨l.parents, l.bean.path, d⟩

end Level

namespace Schema

variable (S : Schema)

-- Hypotheses that only a termination proof uses count as unused.
set_option linter.unusedVariables false

/-- The levels of a type, the nearest first. -/
def levels (owner : Ty) : List Level :=
  match hb : S.beanOf? owner with
  | none => []
  | some b =>
    ⟨[], b⟩ ::
      match hf : b.parentField? with
      | none => []
      | some parent => (levels parent.ty).map (Level.under parent.name)
termination_by owner.extent S.extent
decreasing_by exact S.beanOf?_parent_extent_lt hb hf

end Schema

/-- The mode that a text names, in any case. -/
def Mode.read (text : String) : Except Problem Mode :=
  match Mode.all.find? fun mode => Text.sameIgnoringCase mode.name text with
  | some mode => .ok mode
  | none => .error (.unsupportedMode text)

/-- The relation that a text names, in any case. -/
def Relation.read (text : String) : Except Problem Relation :=
  match Relation.all.find? fun relation => Text.sameIgnoringCase relation.name text with
  | some relation => .ok relation
  | none => .error (.unsupportedRelation text)

/-- What is asked for: members of a role by name, and perhaps by type. -/
structure Query where
  role : Role
  name : String
  expected : Option Ty := none
  mode : Mode := .auto
  /-- The relation between the types, if not the usual one. -/
  relation : Option Relation := none
  deriving DecidableEq, Repr

namespace Query

variable (S : Schema) (q : Query)

/-- The relation that the type of a member must have to the expected type. -/
def effectiveRelation : Relation := q.relation.getD (.default q.mode q.role)

/-- A star that asks for the member of a type. -/
def anyName : Bool := q.name == "*" && q.mode == .typed

/-- Whether a declaration has an acceptable type. -/
def accepts (d : Declaration) : Bool :=
  match q.expected with
  | none => true
  | some expected => q.effectiveRelation.accepts S d.ty expected

/-- The declaration that a bean has for a candidate. -/
def candidateOf? (b : Bean) (c : Candidate) : Option Declaration :=
  (b.declaration? q.role c.name).filter fun d => !c.truthOnly || d.ty.isTruth

/-- The declarations of a bean that match, in the order of the candidates. -/
def matching (b : Bean) : List Declaration :=
  (if q.anyName then b.declarations q.role
    else (Spelling.candidates q.role q.mode q.name).filterMap (q.candidateOf? b)).filter
      (q.accepts S)

/-- The members that match at a level. -/
def atLevel (l : Level) : Except Problem (List Member) :=
  let found := q.matching S l.bean
  if q.anyName && found.length > 1 then
    .error (.ambiguous q.role found.length (.bean l.bean.path) q.expected)
  else .ok (found.map l.member)

/-- The matches of the nearest level that has any. -/
def nearest : List Level → Except Problem (List Member)
  | [] => .ok []
  | l :: ls => do
    match ← q.atLevel S l with
    | [] => nearest ls
    | found => return found

/-- The matches of all levels. -/
def everywhere : List Level → Except Problem (List Member)
  | [] => .ok []
  | l :: ls => do return (← q.atLevel S l) ++ (← everywhere ls)

/-- Refuses a query without a type in a mode that needs one. -/
def check : Except Problem Unit :=
  if q.mode.requiresType && q.expected.isNone then .error (.untypedQuery q.mode q.name) else .ok ()

/-- The warning that the member to be used has rivals at its level. -/
def rivalry? (owner : Ty) : List Member → Option String
  | first :: second :: rest =>
    some (q.role.name ++ " `" ++ q.name ++ "` on `" ++ owner.path ++ "` matches "
      ++ toString (first :: second :: rest).length ++ " members, using `" ++ first.name ++ "`")
  | _ => none

end Query

namespace Schema

variable (S : Schema)

/-- The members that match a query at the nearest level, the one to be used first. -/
def nearestMembers (q : Query) (owner : Ty) : Except Problem (List Member) := do
  q.check
  q.nearest S (S.levels owner)

/-- The member that a query finds on a type. -/
def member? (q : Query) (owner : Ty) : Except Problem (Option Member) :=
  return (← S.nearestMembers q owner).head?

/-- All members that match a query on a type, nearer ones first. -/
def members (q : Query) (owner : Ty) : Except Problem (List Member) := do
  q.check
  q.everywhere S (S.levels owner)

end Schema
end BeanPath
