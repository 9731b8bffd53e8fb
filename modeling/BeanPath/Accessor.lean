import BeanPath.Accessor.Layer

/-!
# Accessors

An accessor binds a definition to an owner type once and for all: paths are parsed and members
looked up when it is built.  Every stage of the definition becomes a property layer, and every
bracket key of the stage a key layer behind it.  An explicit name must be found as it stands; a star
stands for what is found by the conventions under the derived name.
-/

namespace BeanPath

/-- The layers of an accessor from the root; there is at least one. -/
structure Accessor where
  root : Layer
  rest : List Layer

namespace Accessor

/-- The layers from the root. -/
def layers (A : Accessor) : List Layer := A.root :: A.rest

/-- The type of the values that an accessor leads to. -/
def ty (A : Accessor) : Ty := (A.layers.getLast (List.cons_ne_nil _ _)).ty

variable (C : Scope)

/-- The member for one path of a stage: what the path names, or, for a star, what is found for the
property. -/
def findMember (owner : Ty) (role : Role) (explicit : Option Segment) (property : String)
    (expected : Option Ty) (missing : Ty → String → Problem) :
    Except Problem (Option Member) :=
  match explicit with
  | none => C.schema.member? { role, name := property, expected, mode := .auto } owner
  | some s => do
    match ← C.schema.member? { role, name := s.base.text, expected, mode := .named } owner with
    | some m => return some m
    | none => throw (missing owner s.base.text)

/-- Finds the members for a stage. -/
def propertyLayer (owner : Ty) (s : Stage) (expected : Option Ty) : Except Problem Layer := do
  match s.property? with
  | none => throw .noNames
  | some property =>
    let field ← findMember C owner .field s.field property expected .noSuchField
    let getter ← findMember C owner .getter s.getter property expected .noSuchGetter
    let declared := (getter <|> field).map Member.ty <|> expected
    let setter ← findMember C owner .setter s.setter property declared .noSuchSetter
    if field.isNone && getter.isNone && setter.isNone then throw (.noProperty owner property)
    else return .property owner field getter setter

/-- The layers of keys into a container. -/
def keyLayers (container : Ty) : List Name → Except Problem (List Layer)
  | [] => .ok []
  | n :: ns => do
    let _ ← C.qualifier? n
    return .key container n :: (← keyLayers container.elementType ns)

/-- The layers of the stages of a definition.  A declared type is that of the last property, unless
keys lead on from it. -/
def layersFrom (declared : Option Ty) (current : Ty) : List Stage → Except Problem (List Layer)
  | [] => .ok []
  | s :: rest => do
    let keys ← s.keys
    let expected := if rest.isEmpty && keys.isEmpty then declared else none
    let property ← propertyLayer C (← current.beanType) s expected
    let keyed ← keyLayers C property.ty keys
    let last := (keyed.getLast?.getD property).ty
    return property :: keyed ++ (← layersFrom declared last rest)

/-- Builds an accessor, with failures as they are. -/
def buildPlain (owner : Ty) (d : Definition) : Except Problem Accessor := do
  match ← layersFrom C d.ty owner (← d.stages) with
  | [] => throw (.emptyDefinition d.shown)
  | root :: rest => return ⟨root, rest⟩

/-- Builds the accessor of a definition on an owner type. -/
def build (owner : Ty) (d : Definition) : Except Failure Accessor :=
  (buildPlain C owner d).mapError fun p =>
    p.failure.wrap .inherited .argument
      ("could not build accessor `" ++ d.shown ++ "` on `" ++ owner.path ++ "`")

/-- Refuses a value that is not of the type of the root. -/
def checkInstance (A : Accessor) (v : Value) : Except Problem Unit :=
  if v.ty = A.root.owner then .ok () else .error (.notInstance v.ty A.root.owner)

/-- Reads through layers. -/
def readThrough (N : Navigator) : Value → Layer → List Layer → Except Failure (Option Value)
  | v, l, [] => l.read N v
  | v, l, m :: rest => do
    match ← l.read N v with
    | some w => readThrough N w m rest
    | none => throw Problem.nullTarget.failure

/-- Writes through layers. -/
def writeThrough (N : Navigator) (v : Option Value) :
    Layer → List Layer → Update Value (Option Value)
  | l, [] => l.write N v
  | l, m :: rest => l.visit N (writeThrough N v m rest)

/-- Reads the property of an instance.  A key that is not there reads as nothing. -/
def get (A : Accessor) (v : Value) : Except Failure (Option Value) := do
  A.checkInstance v
  readThrough { scope := C } v A.root A.rest

/-- Writes the property of an instance, giving back what was there. -/
def set (A : Accessor) (v : Option Value) : Update Value (Option Value) := do
  (A.checkInstance (← MonadState.get) : Except Problem Unit)
  writeThrough { scope := C } v A.root A.rest

end Accessor
end BeanPath
