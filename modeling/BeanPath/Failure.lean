/-!
# Failures

A failure is a kind, a message and perhaps a cause: another failure, or an external error that was
reported by a reader of numbers, by the grammar of paths or by a method of a bean.  On its way out
a failure passes boundaries, and each boundary combines its own message with it in one of four
styles.  A support failure passes every boundary unchanged.

Three walkers read the causes from the outside in: `chain` lists them all, `rootCause` goes to the
first that is no failure, and `invocationTarget?` to the error that a method of a bean reported.
-/

namespace BeanPath

/-- The closed classification of failures. -/
inductive FailureKind where
  /-- A position outside a container. -/
  | bounds
  /-- Malformed numeric text. -/
  | number
  /-- An unusable argument: an absent target, an unknown property, a wrong type. -/
  | argument
  /-- A member that cannot be used in the requested direction. -/
  | access
  /-- A method or a text constructor that failed on its own. -/
  | invocation
  /-- A named field that does not exist. -/
  | field
  /-- A named method that does not exist. -/
  | method
  /-- A named type that does not exist. -/
  | type
  /-- A value that could not be created. -/
  | instantiation
  /-- A refused operation. -/
  | security
  /-- Anything not recognised. -/
  | unknown
  /-- An operation that is not available for its target. -/
  | support
  deriving DecidableEq, Repr, Inhabited

namespace FailureKind

/-- The name of a kind. -/
def name : FailureKind → String
  | bounds => "bounds"
  | number => "number-format"
  | argument => "argument"
  | access => "access"
  | invocation => "invocation-target"
  | field => "field"
  | method => "method"
  | type => "class"
  | instantiation => "instantiation"
  | security => "security"
  | unknown => "unknown"
  | support => "support"

/-- The kinds in the order of their declaration. -/
def all : List FailureKind :=
  [bounds, number, argument, access, invocation, field, method, type, instantiation, security,
    unknown, support]

/-- The kinds that a boundary may wrap. -/
def wrappable (k : FailureKind) : Bool := k != support

end FailureKind

/-- An error from outside: the kind it counts as, its message, and the messages of the errors that
caused it, nearest first. -/
structure ExternalError where
  kind : FailureKind
  message : String
  sources : List String
  deriving DecidableEq, Repr, Inhabited

/-- How a boundary combines its message with a failure. -/
inductive WrapStyle where
  /-- A new link that inherits the kind of the failure. -/
  | inherited
  /-- The message in front of the message of the failure, without a new link. -/
  | merged
  /-- Nothing is added. -/
  | unwrapped
  /-- A new link of the kind that the boundary asks for. -/
  | wrapped
  deriving DecidableEq, Repr, Inhabited

/-- A classified failure. -/
inductive Failure where
  /-- A failure without a cause. -/
  | plain (kind : FailureKind) (message : String)
  /-- A failure caused by an external error. -/
  | external (kind : FailureKind) (message : String) (cause : ExternalError)
  /-- A failure caused by another one. -/
  | linked (kind : FailureKind) (message : String) (cause : Failure)
  deriving DecidableEq, Repr, Inhabited

/-- What caused a failure. -/
inductive Cause where
  | failure (failure : Failure)
  | external (error : ExternalError)
  deriving DecidableEq, Repr

/-- A link of a chain of causes: its kind, if it is a failure, and its message. -/
structure Link where
  kind : Option FailureKind
  message : String
  deriving DecidableEq, Repr

/-- The wording for a position outside a container. -/
def outOfBoundsMessage (index : String) (size : Nat) : String :=
  "index out of bounds (index=" ++ index ++ ", size=" ++ toString size ++ ")"

namespace Failure

/-- A failure for a position outside a container. -/
def outOfBounds (index : String) (size : Nat) : Failure :=
  plain .bounds (outOfBoundsMessage index size)

/-- The kind of a failure. -/
def kind : Failure → FailureKind
  | plain k _ | external k _ _ | linked k _ _ => k

/-- The message of a failure. -/
def message : Failure → String
  | plain _ m | external _ m _ | linked _ m _ => m

/-- The cause of a failure. -/
def cause? : Failure → Option Cause
  | plain _ _ => none
  | external _ _ e => some (.external e)
  | linked _ _ f => some (.failure f)

/-- The failure that stands for an external error, of its kind and with its message. -/
def ofExternal (e : ExternalError) : Failure := external e.kind e.message e

/-- The failure with a text and a colon in front of its message. -/
def prepend (text : String) : Failure → Failure
  | plain k m => plain k (text ++ ": " ++ m)
  | external k m e => external k (text ++ ": " ++ m) e
  | linked k m f => linked k (text ++ ": " ++ m) f

/-- Combines the message of a boundary with a failure. -/
def wrap (f : Failure) (style : WrapStyle) (kind : FailureKind) (message : String) : Failure :=
  if f.kind.wrappable then
    match style with
    | .inherited => linked f.kind message f
    | .merged => f.prepend message
    | .unwrapped => f
    | .wrapped => linked kind message f
  else f

/-- The links of a failure, itself first. -/
def chain : Failure → List Link
  | plain k m => [⟨some k, m⟩]
  | external k m e => ⟨some k, m⟩ :: ⟨none, e.message⟩ :: e.sources.map (⟨none, ·⟩)
  | linked k m f => ⟨some k, m⟩ :: f.chain

/-- The number of links that are failures. -/
def depth : Failure → Nat
  | plain _ _ | external _ _ _ => 1
  | linked _ _ f => f.depth + 1

/-- The first cause that is no failure, or the innermost failure. -/
def rootCause : Failure → Cause
  | plain k m => .failure (plain k m)
  | external _ _ e => .external e
  | linked _ _ f => f.rootCause

/-- The error reported by an invoked method or text constructor, if all failures down to it are
invocation failures. -/
def invocationTarget? : Failure → Option ExternalError
  | plain _ _ => none
  | external k _ e => if k = .invocation then some e else none
  | linked k _ f => if k = .invocation then f.invocationTarget? else none

end Failure

namespace Cause

/-- The kind that a cause counts as. -/
def kind : Cause → FailureKind
  | failure f => f.kind
  | external e => e.kind

/-- The message of a cause. -/
def message : Cause → String
  | failure f => f.message
  | external e => e.message

end Cause
end BeanPath
