import BeanPath.Path.Parser
import BeanPath.Step.Each
import BeanPath.Value.Show

/-!
# Access by path

A path leads from a root value to a place in it, one step after the other; empty names are passed
over.  Reading gives the value at the place, with one optional layer removed, so an absent optional
reads as nothing, just as a key that is not there.  An update goes down to the last step, changes
the container there and puts changed copies back on the way up.  A star in the middle of a path
updates every part, and the previous value of the last part counts.

What goes wrong is reported with a summary of the access in front of it.
-/

namespace BeanPath

/-- What happens at the last step of an update. -/
inductive Edit where
  /-- A value, or none, is written. -/
  | put (v : Option Value)
  | remove
  deriving DecidableEq, Repr

/-- The steps of a path that lead somewhere. -/
def Path.route (path : String) : Except Problem (List Name) :=
  match Path.steps path with
  | .ok names => .ok (names.filter fun n => !n.skip)
  | .error e => .error (.malformedPath e)

namespace Navigator

variable (N : Navigator)

/-- Reads what steps lead to. -/
def follow : Value → List Name → Except Failure (Option Value)
  | v, [] => .ok v.content?
  | v, [n] => do return (← N.get v n).bind fun reading => reading.value.content?
  | v, n :: m :: rest => do
    match ← N.get v n with
    | some reading => follow reading.value (m :: rest)
    | none => throw Problem.nullTarget.failure

/-- Edits one step. -/
def edit (n : Name) : Edit → Update Value (Option Value)
  | .put v => N.put n v
  | .remove => N.remove n

/-- Updates what steps lead to, giving back what was there. -/
def update (e : Edit) : List Name → Update Value (Option Value)
  | [] => throw Problem.noStep.failure
  | [n] => do return (← N.edit n e).bind Value.content?
  | n :: m :: rest => do
    if n.wild then
      return (← N.forEach fun _ => update e (m :: rest)).getLast?.join
    else
      match ← N.descend (← MonadState.get) n with
      | .inPlace place => place.update (update e (m :: rest))
      | .copy v origin =>
        match update e (m :: rest) v with
        | .ok previous v =>
          N.reattach origin v
          return previous
        | .error failure _ => throw failure

end Navigator

/-- Replaces a whole value, giving back what it was. -/
def Value.replace (v : Option Value) : Update Value (Option Value) :=
  .atomic fun root => do
    let w ← Value.adapt? v root.ty
    if w.ty = root.ty then return (root.content?, w)
    else throw (Fault.typeMismatch root.ty w.ty).failure

/-- Access by path: how to navigate, and how to report failures. -/
structure Access extends Navigator where
  style : WrapStyle := .inherited

namespace Access

variable (A : Access)

/-- Reports a failure with a summary of the access and the root. -/
def report (summary : String) (root : Value) (f : Failure) : Failure :=
  f.wrap A.style .access
    (summary ++ "`" ++ root.ty.path ++ "` " ++ A.scope.schema.render root)

/-- Reports the failure of an update, with the root as the update leaves it. -/
def reporting (summary : String) (u : Update Value α) : Update Value α := fun root =>
  match u root with
  | .ok a root => .ok a root
  | .error e root => .error (A.report summary root e) root

/-- Reads what a path leads to, with failures as they are. -/
def readPlain (root : Value) (path : String) : Except Failure (Option Value) := do
  A.follow root (← Path.route path)

/-- Updates what a path leads to, with failures as they are. -/
def updatePlain (path : String) (e : Edit) : Update Value (Option Value) := do
  match ← (Path.route path : Except Failure (List Name)), e with
  | [], .put v => Value.replace v
  | [], .remove => throw Problem.rootRemoval.failure
  | n :: rest, e => A.update e (n :: rest)

/-- Reads what a path leads to. -/
def read (root : Value) (path : String) : Except Failure (Option Value) :=
  (A.readPlain root path).mapError (A.report ("could not read `" ++ path ++ "` from ") root)

/-- Reads a value of a type. -/
def readAs (root : Value) (path : String) (t : Ty) : Except Failure (Option Value) := do
  match ← A.read root path with
  | none => return none
  | some v => if v.ty = t then return some v else throw (Fault.typeMismatch t v.ty).failure

/-- Writes a value, or clears an optional place, giving back what was there. -/
def write (path : String) (v : Option Value) : Update Value (Option Value) :=
  let shown := (v.map A.scope.schema.render).getD "none"
  A.reporting ("could not write " ++ shown ++ " to `" ++ path ++ "` of ")
    (A.updatePlain path (.put v))

/-- Removes what a path leads to, giving it back. -/
def remove (path : String) : Update Value (Option Value) :=
  A.reporting ("could not remove `" ++ path ++ "` from ") (A.updatePlain path .remove)

end Access
end BeanPath
