import BeanPath.Failure.Fault
import BeanPath.Number.Decimal
import BeanPath.Path.Parser

/-!
# Problems of navigation

Everything that the library itself finds wrong with a request, one constructor for each cause.
The kind and the wording of each are fixed in `Problem.kind` and `Problem.message`; a problem with
text that was read from outside also carries what the reader said.
-/

namespace BeanPath

/-- A problem with a request. -/
inductive Problem where
  /-- An absent value where a step has to be taken. -/
  | nullTarget
  | outOfBounds (index : Int) (size : Nat)
  | misplacedSign (text : String)
  | badNumber (text : String) (error : ExternalError)
  | unknownType (name : String)
  | noTextConstructor (type : Ty)
  | unsupportedMode (text : String)
  | unsupportedRelation (text : String)
  /-- A mode that needs an expected type, without one. -/
  | untypedQuery (mode : Mode) (name : String)
  /-- Several members of one bean for a star. -/
  | ambiguous (role : Role) (count : Nat) (bean : Ty) (expected : Option Ty)
  | noMember (bean : Ty) (name : String)
  | noFieldToWrite (name : String)
  | noProperty (bean : Ty) (name : String)
  /-- A property that can be read but not put back. -/
  | noSetterForProperty (bean : Ty) (name : String)
  /-- A star where one element has to be named. -/
  | wildcardIsNoElement (container : Ty)
  | wildcardUnsupported (container : Ty)
  | wildcardNeedsCollection (type : Ty)
  | undeterminedType (container : Ty) (text : String)
  /-- A step on a value without parts. -/
  | scalarStep (type : Ty) (shown : String)
  /-- A set element put back into something else. -/
  | notReattachable (container : Ty)
  | noStep
  | rootRemoval
  | malformedPath (error : Malformed)
  | noNames
  | inconsistentDepth
  | inconsistentKeys (base : String)
  | emptyDefinition (shown : String)
  | noProperties (type : Ty)
  | noSuchField (bean : Ty) (name : String)
  | noSuchGetter (bean : Ty) (name : String)
  | noSuchSetter (bean : Ty) (name : String)
  | notInstance (actual owner : Ty)
  /-- An accessor layer without the role that is needed. -/
  | accessWithout (role : Role) (shown : String) (owner : Ty)
  deriving DecidableEq, Repr

namespace Problem

/-- The kind of failure that a problem is. -/
def kind : Problem → FailureKind
  | outOfBounds _ _ => .bounds
  | misplacedSign _ | badNumber _ _ => .number
  | unknownType _ => .type
  | noTextConstructor _ | noSuchGetter _ _ | noSuchSetter _ _ => .method
  | noSuchField _ _ => .field
  | unsupportedMode _ | unsupportedRelation _ => .support
  | noSetterForProperty _ _ | accessWithout _ _ _ => .access
  | _ => .argument

/-- The wording of a problem. -/
def message : Problem → String
  | nullTarget => "target must not be null"
  | outOfBounds index size => outOfBoundsMessage (toString index) size
  | misplacedSign text => "invalid number `" ++ text ++ "`: sign character in wrong position"
  | badNumber text _ => "invalid number `" ++ text ++ "`"
  | unknownType name => "unknown type `" ++ name ++ "`"
  | noTextConstructor type => "`" ++ type.path ++ "` has no text constructor"
  | unsupportedMode text => "unsupported resolution mode `" ++ text ++ "`"
  | unsupportedRelation text => "unsupported type relation `" ++ text ++ "`"
  | untypedQuery mode name =>
    "resolution mode " ++ mode.name ++ " requires an expected type for `" ++ name ++ "`"
  | ambiguous role count bean expected =>
    "ambiguous " ++ role.name ++ ": " ++ toString count ++ " members of `" ++ bean.path
      ++ "` have type `" ++ (expected.map Ty.path).getD "?" ++ "`"
  | noMember bean name => "`" ++ bean.path ++ "` has no member `" ++ name ++ "`"
  | noFieldToWrite name => "no field `" ++ name ++ "` to write"
  | noProperty bean name => "no property `" ++ name ++ "` on `" ++ bean.path ++ "`"
  | noSetterForProperty bean name =>
    "access without setter: `" ++ name ++ "` on `" ++ bean.path ++ "`"
  | wildcardIsNoElement container =>
    "wildcard `*` does not address a single element of `" ++ container.path ++ "`"
  | wildcardUnsupported container =>
    "wildcard `*` is not supported by `" ++ container.path ++ "`"
  | wildcardNeedsCollection type =>
    "wildcard `*` needs a list, array or set, found `" ++ type.path ++ "`"
  | undeterminedType container text =>
    "could not determine type of `" ++ text ++ "` in `" ++ container.path ++ "`"
  | scalarStep type shown => "cannot apply `" ++ shown ++ "` to `" ++ type.path ++ "`"
  | notReattachable container => "cannot reattach an element to `" ++ container.path ++ "`"
  | noStep => "no step to update"
  | rootRemoval => "cannot remove the root"
  | malformedPath error => error.message
  | noNames => "property has no field, getter or setter name"
  | inconsistentDepth => "inconsistent property depth"
  | inconsistentKeys base => "inconsistent sub-property at `" ++ base ++ "`"
  | emptyDefinition shown => "empty property definition `" ++ shown ++ "`"
  | noProperties type => "`" ++ type.path ++ "` has no properties"
  | noSuchField bean name => "no field `" ++ name ++ "` on `" ++ bean.path ++ "`"
  | noSuchGetter bean name => "no getter `" ++ name ++ "` on `" ++ bean.path ++ "`"
  | noSuchSetter bean name => "no setter `" ++ name ++ "` on `" ++ bean.path ++ "`"
  | notInstance actual owner =>
    "`" ++ actual.path ++ "` is not an instance of `" ++ owner.path ++ "`"
  | accessWithout role shown owner =>
    "access without " ++ role.name ++ ": `" ++ shown ++ "` on `" ++ owner.path ++ "`"

/-- What a reader from outside said. -/
def cause? : Problem → Option ExternalError
  | badNumber _ error => some error
  | malformedPath error => some error.external
  | _ => none

/-- A problem as a failure. -/
def failure (p : Problem) : Failure :=
  match p.cause? with
  | some error => .external p.kind p.message error
  | none => .plain p.kind p.message

/-- A result with its problem, if it has one, as a failure. -/
def lift (result : Except Problem α) : Except Failure α := result.mapError failure

@[simp] theorem lift_ok (a : α) : lift (.ok a) = .ok a := rfl

@[simp] theorem lift_error (p : Problem) :
    lift (.error p : Except Problem α) = .error p.failure := rfl

end Problem

instance : Coe Problem Failure := ⟨Problem.failure⟩

instance : MonadLift (Except Problem) (Except Failure) := ⟨Problem.lift⟩

/-- An integer error as an external error. -/
def IntegerError.external (e : IntegerError) : ExternalError := ⟨.number, e.message, []⟩

/-- A floating-point error as an external error. -/
def FloatError.external (e : FloatError) : ExternalError := ⟨.number, e.message, []⟩

end BeanPath
