import BeanPath.Failure
import BeanPath.Member.Policy
import BeanPath.Ty

/-!
# Faults of single operations

What can go wrong when one operation is applied to one value: a fault names the types, the places
and the members involved.  Its kind and its wording are fixed here.
-/

namespace BeanPath

/-- A fault of a single operation. -/
inductive Fault where
  /-- A value of another type than the expected one. -/
  | typeMismatch (expected actual : Ty)
  /-- No value for a place that needs one.  The place has a type, or takes values of any type. -/
  | nullNotAllowed (expected : Option Ty)
  /-- A position at or beyond the size. -/
  | outOfBounds (index size : Nat)
  /-- A container that cannot grow or shrink. -/
  | fixedSize (container : Ty)
  /-- A method called in a role that it does not have. -/
  | wrongRole (member : String) (expected : Role)
  /-- A method or a text constructor that reported an error. -/
  | invocation (member : String) (source : ExternalError)
  deriving DecidableEq, Repr

namespace Fault

/-- The wording of a fault. -/
def message : Fault → String
  | typeMismatch expected actual =>
    "expected a value of type `" ++ expected.path ++ "`, found `" ++ actual.path ++ "`"
  | nullNotAllowed (some expected) => "`" ++ expected.path ++ "` does not accept a null value"
  | nullNotAllowed none => "`dyn Reflect` does not accept a null value"
  | outOfBounds index size => outOfBoundsMessage (toString index) size
  | fixedSize container => "`" ++ container.path ++ "` has a fixed size"
  | wrongRole member expected => "`" ++ member ++ "` is not a " ++ expected.name
  | invocation member _ => "invocation of `" ++ member ++ "` failed"

/-- The kind of failure that a fault counts as. -/
def kind : Fault → FailureKind
  | typeMismatch _ _ | nullNotAllowed _ => .argument
  | outOfBounds _ _ => .bounds
  | fixedSize _ => .support
  | wrongRole _ _ => .method
  | invocation _ _ => .invocation

/-- The error reported by a method or a text constructor. -/
def source? : Fault → Option ExternalError
  | invocation _ source => some source
  | _ => none

/-- A fault as a failure: its cause is the error that a method reported, if one did. -/
def failure (f : Fault) : Failure :=
  match f with
  | invocation _ source => .external f.kind f.message source
  | _ => .plain f.kind f.message

/-- A fault as an external error. -/
def external (f : Fault) : ExternalError :=
  ⟨f.kind, f.message,
    match f.source? with
    | some source => source.message :: source.sources
    | none => []⟩

/-- A result with its fault, if it has one, as a failure. -/
def lift (result : Except Fault α) : Except Failure α := result.mapError failure

@[simp] theorem lift_ok (a : α) : lift (.ok a) = .ok a := rfl

@[simp] theorem lift_error (f : Fault) : lift (.error f : Except Fault α) = .error f.failure := rfl

end Fault

instance : Coe Fault Failure := ⟨Fault.failure⟩

instance : MonadLift (Except Fault) (Except Failure) := ⟨Fault.lift⟩

end BeanPath
