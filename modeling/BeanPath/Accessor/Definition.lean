import BeanPath.Failure.Problem
import BeanPath.Path.Parser
import BeanPath.Ty

/-!
# Property definitions

A definition names a property by the paths of its field, its getter and its setter, and perhaps
declares its type.  A star in place of a path leaves the name to be derived from the others.

The paths are walked together, one segment of each at a time: they must have the same number of
segments, and the bracket keys that they carry at one stage must be the same.
-/

namespace BeanPath

/-- A declared property. -/
structure Definition where
  ty : Option Ty := none
  field : String := "*"
  getter : String := "*"
  setter : String := "*"
  deriving DecidableEq, Repr

/-- A definition as it is shown in messages. -/
def Definition.shown (d : Definition) : String :=
  (d.ty.map fun t => t.path ++ ": ").getD ""
    ++ "field=" ++ d.field ++ ", getter=" ++ d.getter ++ ", setter=" ++ d.setter

/-- The segments of the three paths at one stage; a star has none. -/
structure Stage where
  field : Option Segment
  getter : Option Segment
  setter : Option Segment
  deriving DecidableEq, Repr

/-- The names in the brackets of a segment, without empty ones. -/
def Segment.keys (s : Segment) : List Name := s.items.filter fun n => !n.skip

/-- What keys of different paths have to agree on. -/
def Name.keyText (n : Name) : String × Option String := (n.text, n.qualifier)

namespace Stage

/-- The segments of a stage. -/
def segments (s : Stage) : List Segment := [s.field, s.getter, s.setter].filterMap id

/-- The bracket keys of a stage. -/
def keys (s : Stage) : Except Problem (List Name) :=
  match s.segments.filter fun s => !s.keys.isEmpty with
  | [] => .ok []
  | first :: others =>
    match others.find? fun s => s.keys.map Name.keyText != first.keys.map Name.keyText with
    | some other => .error (.inconsistentKeys other.base.text)
    | none => .ok first.keys

/-- A name without the first of several beginnings that leaves something of it. -/
def strip (beginnings : List String) (name : String) : String :=
  (beginnings.findSome? fun b =>
    if b.toList.isPrefixOf name.toList && b.length < name.length then
      some (String.ofList (name.toList.drop b.length))
    else none).getD name

/-- The name of the property at a stage, from the first path that has one. -/
def property? (s : Stage) : Option String :=
  s.field.map (·.base.text)
    <|> s.getter.map (fun g => strip ["get_", "is_", "has_"] g.base.text)
    <|> s.setter.map (fun g => strip ["set_is_", "set_has_", "set_"] g.base.text)

end Stage

namespace Definition

/-- The segments of a path of a definition that name anything; a star has no path. -/
def stream (path : String) : Except Problem (Option (List Segment)) :=
  if path = "*" then .ok none
  else
    match (Path.segments path).mapM id with
    | .error e => .error (.malformedPath e)
    | .ok segments => .ok (some (segments.filter fun s => !s.base.skip || !s.groups.isEmpty))

/-- The common length of the paths of a definition. -/
def depth : List (List Segment) → Except Problem Nat
  | [] => .error .noNames
  | first :: others =>
    if others.any fun other => other.length != first.length then .error .inconsistentDepth
    else .ok first.length

/-- The stages of a definition. -/
def stages (d : Definition) : Except Problem (List Stage) := do
  let field ← stream d.field
  let getter ← stream d.getter
  let setter ← stream d.setter
  let depth ← depth ([field, getter, setter].filterMap id)
  return (List.range depth).map fun i =>
    ⟨field.bind (·[i]?), getter.bind (·[i]?), setter.bind (·[i]?)⟩

end Definition
end BeanPath
