import BeanPath.Schema
import BeanPath.Text.Blank

/-!
# Registries

A registry finds types by name.  Registering a type registers all that it refers to, directly or
not, each type once.  A name is looked up as an alias, as a type path, as a type path inside one of
the namespaces, and as a short name that only one registered type has, in this order.

Registration walks the types depth first.  Type graphs may have circles; the walk ends because it
only registers types of a finite stock, and each of them once.
-/

namespace BeanPath

/-- Pairs of a text and what is found by it. -/
abbrev Index (α : Type) := List (String × α)

namespace Index

/-- Enters a pair; an older pair of the same text is forgotten. -/
def put (index : Index α) (key : String) (a : α) : Index α :=
  (key, a) :: index.filter (·.1 != key)

/-- Forgets the pairs of a text. -/
def erase (index : Index α) (key : String) : Index α := index.filter (·.1 != key)

/-- An entry in front is passed over where another key is looked up. -/
theorem lookup_cons_of_ne {key other : String} (h : other ≠ key) (a : α) (index : Index α) :
    List.lookup other ((key, a) :: index) = index.lookup other := by
  have : (other == key) = false := by simpa using h
  rw [List.lookup_cons, this]

/-- Without the entries of a key every other key finds what it found. -/
theorem lookup_filter_ne (index : Index α) (key other : String) :
    (index.filter (·.1 != key)).lookup other =
      if other = key then none else index.lookup other := by
  induction index with
  | nil => simp
  | cons p index ih =>
    obtain ⟨k, a⟩ := p
    by_cases hk : k = key
    · subst hk
      rw [List.filter_cons_of_neg (by simp), ih]
      by_cases ho : other = k
      · rw [if_pos ho, if_pos ho]
      · rw [if_neg ho, if_neg ho, lookup_cons_of_ne ho]
    · rw [List.filter_cons_of_pos (by simpa using hk)]
      by_cases ho : other = k
      · subst ho
        rw [List.lookup_cons_self, List.lookup_cons_self, if_neg hk]
      · rw [lookup_cons_of_ne ho, lookup_cons_of_ne ho, ih]

/-- A key that is put finds what was put, and every other one what it found. -/
@[simp] theorem lookup_put (index : Index α) (key other : String) (a : α) :
    (index.put key a).lookup other = if other = key then some a else index.lookup other := by
  by_cases h : other = key
  · subst h
    rw [put, List.lookup_cons_self, if_pos rfl]
  · rw [put, lookup_cons_of_ne h, lookup_filter_ne, if_neg h, if_neg h]

/-- A key that is erased finds nothing, and every other one what it found. -/
@[simp] theorem lookup_erase (index : Index α) (key other : String) :
    (index.erase key).lookup other = if other = key then none else index.lookup other :=
  lookup_filter_ne index key other

end Index

/-- The parts of a type, itself first. -/
def Ty.parts : Ty → List Ty
  | .option t => .option t :: t.parts
  | .list form t => .list form t :: t.parts
  | .array t n => .array t n :: t.parts
  | .map form k v => .map form k v :: (k.parts ++ v.parts)
  | .set form t => .set form t :: t.parts
  | t => [t]

/-- A type is one of its parts. -/
theorem Ty.mem_parts_self (t : Ty) : t ∈ t.parts := by
  cases t <;> simp [Ty.parts]

namespace Schema

/-- The types that occur in the members of any bean. -/
def memberParts (S : Schema) : List Ty :=
  S.beans.flatMap fun b => b.memberTypes.flatMap Ty.parts

/-- A stock of types that holds all that a type refers to, directly or not. -/
def stock (S : Schema) (t : Ty) : List Ty := t.parts ++ S.memberParts

end Schema

/-- A table of types by name. -/
structure Registry where
  /-- The registered types, first to last. -/
  types : List Ty := []
  paths : Index Ty := []
  /-- Types by their short names, as long as only one has the name. -/
  names : Index Ty := []
  /-- Short names that several types have. -/
  ambiguous : List String := []
  aliases : Index Ty := []
  namespaces : List String := []
  deriving Repr, Inhabited

namespace Registry

/-- A registry without types, aliases and namespaces. -/
def empty : Registry := {}

/-- Whether a type is registered. -/
def has (r : Registry) (t : Ty) : Bool := r.types.contains t

/-- Enters a type under its path and, as long as no other type has it, under its short name. -/
def enter (r : Registry) (t : Ty) : Registry :=
  let r := { r with types := r.types ++ [t], paths := r.paths.put t.path t }
  if r.ambiguous.contains t.name then r
  else if (r.names.lookup t.name).isSome then
    { r with names := r.names.erase t.name, ambiguous := t.name :: r.ambiguous }
  else { r with names := r.names.put t.name t }

/-- Registers the pending types and what they refer to, as far as it is in stock. -/
def visit (S : Schema) (stock pending : List Ty) (r : Registry) : Registry :=
  match pending with
  | [] => r
  | t :: rest =>
    if r.has t then visit S stock rest r
    else if t ∈ stock then visit S (stock.erase t) (S.dependencies t ++ rest) (r.enter t)
    else visit S stock rest r
termination_by (stock.length, pending.length)
decreasing_by
  · exact Prod.Lex.right _ (Nat.lt_succ_self _)
  · next h =>
    rw [List.length_erase_of_mem h]
    have := List.length_pos_of_mem h
    exact Prod.Lex.left _ _ (by omega)
  · exact Prod.Lex.right _ (Nat.lt_succ_self _)

/-- Registers a type and all that it refers to, and says whether it was new. -/
def register (r : Registry) (S : Schema) (t : Ty) : Bool × Registry :=
  if r.has t then (false, r) else (true, visit S (S.stock t) [t] r)

/-- Registers several types. -/
def registerAll (r : Registry) (S : Schema) (ts : List Ty) : Registry :=
  ts.foldl (fun r t => (r.register S t).2) r

/-- Makes a name stand for a type, which is registered if need be.  A later alias of the same name
replaces an earlier one. -/
def addAlias (r : Registry) (S : Schema) (name : String) (t : Ty) : Registry :=
  let r := (r.register S t).2
  { r with aliases := r.aliases.put name t }

/-- Drops pairs of colons from the front of reversed characters. -/
def dropColons : List Char → List Char
  | ':' :: ':' :: cs => dropColons cs
  | cs => cs

/-- Adds modules whose types may be named without them; colons at the end do not count. -/
def addNamespace (r : Registry) (namespaceName : String) : Registry :=
  let known := String.ofList (dropColons namespaceName.toList.reverse).reverse
  if r.namespaces.contains known then r
  else { r with namespaces := r.namespaces ++ [known] }

/-- The type of an alias. -/
def byAlias? (r : Registry) (name : String) : Option Ty := r.aliases.lookup name

/-- The registered type of a path. -/
def byPath? (r : Registry) (path : String) : Option Ty := r.paths.lookup path

/-- The only registered type of a short name. -/
def byName? (r : Registry) (name : String) : Option Ty := r.names.lookup name

/-- Whether several registered types have a short name. -/
def isAmbiguous (r : Registry) (name : String) : Bool := r.ambiguous.contains name

/-- The type that a name in a path stands for. -/
def resolve? (r : Registry) (name : String) : Option Ty :=
  let name := Text.trimmed name
  r.byAlias? name
    <|> r.byPath? name
    <|> r.namespaces.findSome? (fun modules => r.byPath? (modules ++ "::" ++ name))
    <|> r.byName? name

/-- The types that a fresh registry knows: the scalars, references to types and the type of all
values. -/
def builtin : List Ty :=
  [.truth, .scalar .char]
    ++ [IntKind.u8, .u16, .u32, .u64, .u128, .usize, .i8, .i16, .i32, .i64, .i128, .isize].map
      Ty.int
    ++ [.scalar (.float .f32), .scalar (.float .f64), .text, .scalar .typeRef, .any]

/-- The aliases of a fresh registry. -/
def builtinAliases : List (String × Ty) :=
  [("Integer", .int .i32), ("int", .int .i32), ("Long", .int .i64), ("long", .int .i64),
    ("Short", .int .i16), ("short", .int .i16), ("Byte", .int .i8), ("byte", .int .i8),
    ("Double", .scalar (.float .f64)), ("double", .scalar (.float .f64)),
    ("Float", .scalar (.float .f32)), ("float", .scalar (.float .f32)),
    ("Boolean", .truth), ("boolean", .truth), ("Character", .scalar .char), ("String", .text),
    ("Class", .scalar .typeRef), ("Object", .any)]

/-- The namespaces of a fresh registry. -/
def builtinNamespaces : List String := ["alloc::string", "vc_mirror::value"]

/-- A registry with the scalars, their aliases and namespaces, and the types that register
themselves. -/
def fresh (S : Schema) (collected : List Ty) : Registry :=
  let r := empty.registerAll S builtin
  let r := builtinAliases.foldl (fun r (name, t) => r.addAlias S name t) r
  let r := builtinNamespaces.foldl addNamespace r
  r.registerAll S collected

end Registry
end BeanPath
