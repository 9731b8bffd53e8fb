import BeanPath.Container.Table
import BeanPath.Conversion.OfText
import BeanPath.Path.Name

/-!
# What a name addresses

A name is a position in a sequence, a key of a map or an element of a set.  Positions are integer
literals below the size.  Keys and elements are made from the text of the name: their type is the
qualifier, or else the declared type, or else that of what is there already.
-/

namespace BeanPath

/-- A position that has to be below a size. -/
def boundedIndex (i : Int) (size : Nat) : Except Problem (Fin size) :=
  if h : 0 ≤ i ∧ i < size then .ok ⟨i.toNat, by omega⟩ else .error (.outOfBounds i size)

namespace Name

/-- The position that a name addresses in a sequence of a size. -/
def index (n : Name) (size : Nat) : Except Problem (Fin size) := do
  boundedIndex (← readInteger .i64 n.text) size

/-- The position that a name without a qualifier stands for, whatever the size. -/
def position? (n : Name) : Option Int :=
  if n.qualifier.isSome then none else (readInteger .i64 n.text).toOption

end Name

namespace Scope

variable (C : Scope)

/-- The type that the qualifier of a name stands for. -/
def qualifier? (n : Name) : Except Problem (Option Ty) :=
  match n.qualifier with
  | none => .ok none
  | some q => (C.typeOf q).map some

/-- The key that a name stands for in a map; without any type to go by it is the text itself. -/
def keyFor (form : MapForm) (entries : List (Value × Value)) (n : Name) : Except Failure Value := do
  let stated ← C.qualifier? n
  match stated <|> form.key? <|> entries.head?.map (·.1.ty) with
  | some t => C.ofText n.text t
  | none => return .text n.text

/-- The element that a name stands for in a set: the one at a position, or one made from the text.
The type of a value about to be written is the last to go by. -/
def elementFor (form : SetForm) (elements : List Value) (n : Name) (written : Option Ty) :
    Except Failure Value := do
  match n.position? with
  | some i => return elements.get (← boundedIndex i elements.length)
  | none =>
    let stated ← C.qualifier? n
    match stated <|> form.element? <|> elements.head?.map Value.ty <|> written with
    | some t => C.ofText n.text t
    | none => throw (Problem.undeterminedType form.ty n.text).failure

end Scope
end BeanPath
