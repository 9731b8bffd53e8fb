import BeanPath.Step

/-!
# Steps into every part

A star in the middle of a path goes through all items of a sequence or all elements of a set, in
order, up to the first that fails.  Items are changed where they are.  Elements are all taken out,
changed and taken in again, also after a failure.
-/

namespace BeanPath

/-- Changes the members of a list one after the other, up to the first failure.  The update is told
how many came before. -/
def Update.eachFrom (u : Nat → Update σ α) (done : Nat) :
    List σ → EStateM.Result Failure (List σ) (List α)
  | [] => .ok [] []
  | s :: ss =>
    match u done s with
    | .error e s => .error e (s :: ss)
    | .ok a s =>
      match eachFrom u (done + 1) ss with
      | .error e ss => .error e (s :: ss)
      | .ok as ss => .ok (a :: as) (s :: ss)

/-- Changes all members of a list, up to the first failure. -/
def Update.each (u : Nat → Update σ α) : Update (List σ) (List α) := eachFrom u 0

namespace Scope

variable (C : Scope) (form : SetForm)

/-- Takes out what each of several elements finds. -/
def takeOutAll : List Value → Update (List Value) (List Value)
  | [] => return []
  | v :: vs => do return (← C.takeOut form v).toList ++ (← takeOutAll vs)

/-- Takes several elements in, up to the first that is refused. -/
def takeInAll : List Value → Update (List Value) Unit
  | [] => return ()
  | v :: vs => do
    let _ ← C.takeIn form v
    takeInAll vs

/-- Changes every element of a set. -/
def eachElement (u : Nat → Update Value α) : Update (List Value) (List α) := do
  let taken ← C.takeOutAll form (← get)
  match Update.each u taken with
  | .ok as changed =>
    C.takeInAll form changed
    return as
  | .error e changed =>
    C.takeInAll form changed
    throw e

end Scope

/-- Changes every item of a sequence or every element of a set. -/
def Navigator.forEach (N : Navigator) (u : Nat → Update Value α) : Update Value (List α) :=
  .present fun
    | .seq form vs => .items form vs (.each u)
    | .set form vs => .elements form vs (N.scope.eachElement form u)
    | w => throw (Problem.wildcardNeedsCollection w.ty).failure

end BeanPath
