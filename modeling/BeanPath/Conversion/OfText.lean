import BeanPath.Conversion.Adapt
import BeanPath.Failure.Problem
import BeanPath.Registry
import BeanPath.Text.Letter

/-!
# Values from text

Text becomes a value of a wanted type.  For a text, or for any value, it is taken as it is; for an
integer it is a literal; for a floating-point number it is trimmed and read as a decimal; for a
truth value it is compared with `true`; for a character its first one is taken; for a reference to
a type it is a type name; for an optional it becomes the content; and a bean or a sealed type is
made by its own constructor, if it has one.

Apart from that, scalars have constructors that accept exactly their plain spelling.
-/

namespace BeanPath

/-- The text constructor of a scalar. -/
def Scalar.ofText? : Scalar → Option TextConstructor
  | .bool => some fun s =>
    if s = "true" then .ok (.truth true)
    else if s = "false" then .ok (.truth false)
    else .error ⟨.unknown, "provided string was not `true` or `false`", []⟩
  | .char => some fun s =>
    match s.toList with
    | [c] => .ok (.atom (.char c))
    | [] => .error ⟨.unknown, "cannot parse char from empty string", []⟩
    | _ => .error ⟨.unknown, "too many characters in string", []⟩
  | .int k => some fun s =>
    (Numeral.readDigits k 10 s.toList).map (Value.int k) |>.mapError IntegerError.external
  | .float k => some fun s =>
    (Decimal.read k s.toList).map (fun bits => .atom (.float k bits))
      |>.mapError FloatError.external
  | .text => some fun s => .ok (.text s)
  | .typeRef => none

/-- The text constructor of a type. -/
def Schema.ofText? (S : Schema) : Ty → Option TextConstructor
  | .scalar s => s.ofText?
  | .sealed path => S.sealedFromText path
  | .bean path => (S.bean? path).bind Bean.fromText
  | _ => none

/-- Calls the text constructor of a type, if it has one. -/
def Schema.construct? (S : Schema) (t : Ty) (text : String) : Option (Except Fault Value) :=
  (S.ofText? t).map fun make => (make text).mapError (.invocation "from_str")

/-- Where names of types and members are looked up. -/
structure Scope where
  schema : Schema
  registry : Registry

/-- Reads an integer literal, which is quoted in what goes wrong. -/
def readInteger (k : IntKind) (text : String) : Except Problem Int :=
  (Numeral.readLiteral k text.toList).mapError fun
    | .misplacedSign => .misplacedSign text
    | .digits e => .badNumber text e.external

namespace Scope

variable (C : Scope)

/-- The type that a name stands for. -/
def typeOf (name : String) : Except Problem Ty :=
  match C.registry.resolve? (Text.trimmed name) with
  | some t => .ok t
  | none => .error (.unknownType name)

/-- Reads a text as a value of a scalar type. -/
def scalarOfText (text : String) : Scalar → Except Problem Value
  | .text => .ok (.text text)
  | .int k => (readInteger k text).map (Value.int k)
  | .float k =>
    (Decimal.read k (Text.trim text.toList)).map (fun bits => .atom (.float k bits))
      |>.mapError fun e => .badNumber text e.external
  | .bool => .ok (.truth (Text.sameIgnoringCase text "true"))
  | .char =>
    match text.toList with
    | c :: _ => .ok (.atom (.char c))
    | [] => .error (.outOfBounds 0 0)
  | .typeRef => (C.typeOf text).map (.atom <| .typeRef ·)

/-- Reads a text as a value of a type. -/
def ofText (text : String) : Ty → Except Failure Value
  | .any => .ok (.text text)
  | .scalar s => (C.scalarOfText text s).mapError Problem.failure
  | .option inner => do
    let v ← ofText text inner
    Fault.lift (v.inOption inner)
  | target =>
    match C.schema.construct? target text with
    | some result => Fault.lift result
    | none => .error (Problem.noTextConstructor target).failure

end Scope
end BeanPath
