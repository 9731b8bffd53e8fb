import BeanPath.Schema

/-!
# Adapting values to declared types

A value is adapted to a declared type by adding or removing optional layers; what is under them is
never changed.  No value at all becomes an absent optional, and a place that takes any value takes
every value as it is.
-/

namespace BeanPath

namespace Value

/-- Puts one optional layer over a value of the content type. -/
def inOption (inner : Ty) (v : Value) : Except Fault Value :=
  if v.ty = inner then .ok (present v) else .error (.typeMismatch (.option inner) v.ty)

/-- Adapts a value to a declared type. -/
def adapt (v : Value) : Ty → Except Fault Value
  | .any => .ok v
  | .option inner =>
    if v.ty = .option inner then .ok v
    else
      match v.content? with
      | none => .ok (absent inner)
      | some w => do (← w.adapt inner).inOption inner
  | target =>
    match v.payload? with
    | none => .error (.nullNotAllowed target)
    | some w => if w.ty = target then .ok w else .error (.typeMismatch target w.ty)

/-- Adapts a value, or none at all, to a declared type. -/
def adapt? : Option Value → Ty → Except Fault Value
  | some v, target => v.adapt target
  | none, .option inner => .ok (absent inner)
  | none, target => .error (.nullNotAllowed target)

/-- Adapts a value, or none at all, to a place, which may take values of any type. -/
def fit (v : Option Value) (place : Option Ty) : Except Fault Value :=
  match place, v with
  | some target, v => adapt? v target
  | none, some v => .ok v
  | none, none => .error (.nullNotAllowed none)

end Value
end BeanPath
