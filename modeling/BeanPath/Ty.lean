import BeanPath.Number.Integer
import BeanPath.Number.Binary
import BeanPath.Ty.ShortName

/-!
# Types

The types that values have and that members declare.  A type is a finite tree: containers and
optionals hold their element types, and beans and sealed types are named by their type path, so a
bean may refer to itself through a container.  Two types are the same exactly when the trees are.

Every type has a path that names it, a short name without modules, and a kind that says what a
path step means on its values.
-/

namespace BeanPath

/-- Types without structure. -/
inductive Scalar where
  | bool
  | char
  | int (kind : IntKind)
  | float (kind : FloatKind)
  | text
  /-- References to types, as values. -/
  | typeRef
  deriving DecidableEq, Repr, Inhabited

/-- The forms of growable sequences with an item type. -/
inductive ListForm where
  | vec | deque
  deriving DecidableEq, Repr, Inhabited

/-- The forms of maps and sets with static types: sorted, or hashed in one of two ways. -/
inductive TableForm where
  | tree | hash | fixedHash
  deriving DecidableEq, Repr, Inhabited

/-- A type. -/
inductive Ty where
  | scalar (scalar : Scalar)
  /-- The type of all values, which has none of its own. -/
  | any
  /-- A type without structure that offers nothing but its path and perhaps a constructor from
  text. -/
  | sealed (path : String)
  | option (inner : Ty)
  | list (form : ListForm) (item : Ty)
  /-- Sequences of a fixed length. -/
  | array (item : Ty) (size : Nat)
  | map (form : TableForm) (key value : Ty)
  | set (form : TableForm) (element : Ty)
  /-- Sequences of values of any type. -/
  | dynList
  /-- Maps with keys and values of any type. -/
  | dynMap
  /-- Sets of values of any type. -/
  | dynSet
  | bean (path : String)
  deriving DecidableEq, Repr, Inhabited

/-- What a path step means on a value. -/
inductive Kind where
  | bean | list | array | map | set | optional | scalar
  deriving DecidableEq, Repr, Inhabited

/-- The name of a kind. -/
def Kind.name : Kind → String
  | .bean => "Bean"
  | .list => "List"
  | .array => "Array"
  | .map => "Map"
  | .set => "Set"
  | .optional => "Optional"
  | .scalar => "Opaque"

/-- The path of a scalar type. -/
def Scalar.path : Scalar → String
  | .bool => "bool"
  | .char => "char"
  | .int k => k.name
  | .float k => k.name
  | .text => "alloc::string::String"
  | .typeRef => "vc_mirror::value::TypeRef"

namespace Ty

/-- Truth values. -/
abbrev truth : Ty := .scalar .bool

/-- Texts. -/
abbrev text : Ty := .scalar .text

/-- Integers of a kind. -/
abbrev int (k : IntKind) : Ty := .scalar (.int k)

/-- The type path: the name of a type with all its modules. -/
def path : Ty → String
  | .scalar s => s.path
  | .any => "dyn vc_mirror::reflection::reflect::Reflect"
  | .sealed path => path
  | .option t => "core::option::Option<" ++ t.path ++ ">"
  | .list .vec t => "alloc::vec::Vec<" ++ t.path ++ ">"
  | .list .deque t => "alloc::collections::vec_deque::VecDeque<" ++ t.path ++ ">"
  | .array t n => "[" ++ t.path ++ "; " ++ toString n ++ "]"
  | .map .tree k v =>
    "alloc::collections::btree::map::BTreeMap<" ++ k.path ++ ", " ++ v.path ++ ">"
  | .map .hash k v => "std::collections::hash::map::HashMap<" ++ k.path ++ ", " ++ v.path ++ ">"
  | .map .fixedHash k v =>
    "hashbrown::map::HashMap<" ++ k.path ++ ", " ++ v.path ++ ", vc_mirror::hash::FixedHashState>"
  | .set .tree t => "alloc::collections::btree::set::BTreeSet<" ++ t.path ++ ">"
  | .set .hash t => "std::collections::hash::set::HashSet<" ++ t.path ++ ">"
  | .set .fixedHash t =>
    "hashbrown::set::HashSet<" ++ t.path ++ ", vc_mirror::hash::FixedHashState>"
  | .dynList => "vc_mirror::ops::array::DynamicList"
  | .dynMap => "vc_mirror::ops::map::DynamicMap"
  | .dynSet => "vc_mirror::ops::set::DynamicSet"
  | .bean path => path

/-- The type path without modules. -/
def name (t : Ty) : String := shortName t.path

/-- The kind of a type. -/
def kind : Ty → Kind
  | .scalar _ | .any | .sealed _ => .scalar
  | .option _ => .optional
  | .list _ _ | .dynList => .list
  | .array _ _ => .array
  | .map _ _ _ | .dynMap => .map
  | .set _ _ | .dynSet => .set
  | .bean _ => .bean

/-- The type of the items of a sequence, the values of a map, the elements of a set or the content
of an optional.  Containers of values of any type have none. -/
def element? : Ty → Option Ty
  | .option t | .list _ t | .array t _ | .map _ _ t | .set _ t => some t
  | .scalar _ | .any | .sealed _ | .dynList | .dynMap | .dynSet | .bean _ => none

/-- The type of the keys of a map. -/
def key? : Ty → Option Ty
  | .map _ k _ => some k
  | _ => none

/-- The type with all optional layers removed. -/
def core : Ty → Ty
  | .option t => t.core
  | t => t

/-- The number of optional layers. -/
def layers : Ty → Nat
  | .option t => t.layers + 1
  | _ => 0

/-- A type under a number of optional layers. -/
def wrapped (t : Ty) : Nat → Ty
  | 0 => t
  | n + 1 => .option (t.wrapped n)

/-- Taking all layers off and putting as many back changes nothing. -/
theorem wrapped_core_layers (t : Ty) : t.core.wrapped t.layers = t := by
  induction t with
  | option t ih => simp only [core, layers, wrapped, ih]
  | _ => rfl

/-- The types that are declared: the type of all values has no values of its own, so nothing is an
optional of it. -/
def Proper (t : Ty) : Prop := t.core = .any → t = .any

instance (t : Ty) : Decidable t.Proper := inferInstanceAs (Decidable (_ → _))

/-- A declared type other than that of all values has no such type under its layers. -/
theorem Proper.core_ne_any {t : Ty} (h : t.Proper) (ht : t ≠ .any) : t.core ≠ .any := ht ∘ h

/-- A declared type has that of all values under its layers only if it is that itself. -/
theorem Proper.core_eq_any_iff {t : Ty} (h : t.Proper) : t.core = .any ↔ t = .any :=
  ⟨h, by rintro rfl; rfl⟩

/-- Truth values, optional or not. -/
def isTruth : Ty → Bool
  | .scalar .bool => true
  | .option (.scalar .bool) => true
  | _ => false

end Ty
end BeanPath
