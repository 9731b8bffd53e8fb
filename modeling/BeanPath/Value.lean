import BeanPath.Ty

/-!
# Values

The values that paths lead through.  A value carries the types that its shape does not show: a
container the types of its parts, an absent optional the type it has no value of, a bean its type
path.  So every value has one type, `Value.ty`, and an optional is exactly one layer above its
content.

A bean has visible fields, which paths reach, and hidden ones, which only its own methods see.
Maps keep their entries and sets their elements in the order in which they are iterated.
-/

namespace BeanPath

/-- Values without structure.  Floating-point numbers are bit patterns. -/
inductive Atom where
  | bool (b : Bool)
  | char (c : Char)
  | int (kind : IntKind) (n : Int)
  | float (kind : FloatKind) (bits : Nat)
  | text (s : String)
  | typeRef (t : Ty)
  deriving DecidableEq, Repr, Inhabited

/-- The type of an atom. -/
def Atom.scalar : Atom → Scalar
  | .bool _ => .bool
  | .char _ => .char
  | .int k _ => .int k
  | .float k _ => .float k
  | .text _ => .text
  | .typeRef _ => .typeRef

/-- The forms of sequences. -/
inductive SeqForm where
  | list (form : ListForm) (item : Ty)
  | array (item : Ty)
  | dyn
  deriving DecidableEq, Repr, Inhabited

/-- The forms of maps. -/
inductive MapForm where
  | table (form : TableForm) (key value : Ty)
  | dyn
  deriving DecidableEq, Repr, Inhabited

/-- The forms of sets. -/
inductive SetForm where
  | table (form : TableForm) (element : Ty)
  | dyn
  deriving DecidableEq, Repr, Inhabited

/-- A value. -/
inductive Value where
  | atom (a : Atom)
  | sealed (path : String) (number : Nat)
  /-- An optional without content, of the given content type. -/
  | absent (inner : Ty)
  /-- An optional with content. -/
  | present (content : Value)
  | seq (form : SeqForm) (items : List Value)
  | map (form : MapForm) (entries : List (Value × Value))
  | set (form : SetForm) (elements : List Value)
  | bean (path : String) (fields hidden : List (String × Value))
  deriving Repr, Inhabited

/-- The type of a sequence of a form and a length. -/
def SeqForm.ty (length : Nat) : SeqForm → Ty
  | .list form item => .list form item
  | .array item => .array item length
  | .dyn => .dynList

/-- The type of a map of a form. -/
def MapForm.ty : MapForm → Ty
  | .table form key value => .map form key value
  | .dyn => .dynMap

/-- The type of a set of a form. -/
def SetForm.ty : SetForm → Ty
  | .table form element => .set form element
  | .dyn => .dynSet

namespace Value

/-- The type of a value. -/
def ty : Value → Ty
  | atom a => .scalar a.scalar
  | sealed path _ => .sealed path
  | absent inner => .option inner
  | present content => .option content.ty
  | seq form items => form.ty items.length
  | map form _ => form.ty
  | set form _ => form.ty
  | bean path _ _ => .bean path

/-- The kind of a value. -/
def kind (v : Value) : Kind := v.ty.kind

/-- The content of an optional, one layer down; any other value is its own content. -/
def content? : Value → Option Value
  | absent _ => none
  | present v => some v
  | v => some v

/-- The value under all optional layers, if none of them is absent. -/
def payload? : Value → Option Value
  | absent _ => none
  | present v => v.payload?
  | v => some v

/-- Puts another value in place of the one under all optional layers. -/
def withPayload : Value → Value → Value
  | present v, w => present (v.withPayload w)
  | absent t, _ => absent t
  | _, w => w

/-- A value under a number of optional layers. -/
def wrapped (v : Value) : Nat → Value
  | 0 => v
  | n + 1 => present (v.wrapped n)

/-- The value under the optional layers has the type under them. -/
theorem ty_of_payload? {v w : Value} (h : v.payload? = some w) : w.ty = v.ty.core := by
  fun_induction payload? v with
  | case1 => cases h
  | case2 v ih => simpa only [ty, Ty.core] using ih h
  | case3 v notAbsent notPresent =>
    cases h
    cases w with
    | absent t => exact (notAbsent t rfl).elim
    | present u => exact (notPresent u rfl).elim
    | seq form items => cases form <;> rfl
    | map form es => cases form <;> rfl
    | set form es => cases form <;> rfl
    | _ => rfl

/-- A text. -/
def text (s : String) : Value := .atom (.text s)

/-- A truth value. -/
def truth (b : Bool) : Value := .atom (.bool b)

/-- An integer of a type. -/
def int (k : IntKind) (n : Int) : Value := .atom (.int k n)

/-! ### Values are compared by decision -/

mutual

/-- Structural equality. -/
def beq : Value → Value → Bool
  | atom a, atom b => a == b
  | sealed p m, sealed q n => p == q && m == n
  | absent s, absent t => s == t
  | present v, present w => v.beq w
  | seq f vs, seq g ws => f == g && beqList vs ws
  | map f vs, map g ws => f == g && beqEntries vs ws
  | set f vs, set g ws => f == g && beqList vs ws
  | bean p vs hs, bean q ws ks => p == q && beqFields vs ws && beqFields hs ks
  | _, _ => false
termination_by structural v => v

/-- Structural equality of lists of values. -/
def beqList : List Value → List Value → Bool
  | [], [] => true
  | v :: vs, w :: ws => v.beq w && beqList vs ws
  | _, _ => false

/-- Structural equality of entries. -/
def beqEntries : List (Value × Value) → List (Value × Value) → Bool
  | [], [] => true
  | (k, v) :: vs, (l, w) :: ws => k.beq l && v.beq w && beqEntries vs ws
  | _, _ => false

/-- Structural equality of fields. -/
def beqFields : List (String × Value) → List (String × Value) → Bool
  | [], [] => true
  | (k, v) :: vs, (l, w) :: ws => k == l && v.beq w && beqFields vs ws
  | _, _ => false

end

mutual

/-- Values are compared by what they are made of, so comparing them decides whether they are
equal. -/
theorem beq_iff : ∀ (v w : Value), v.beq w = true ↔ v = w
  | atom a, w => by cases w <;> simp [beq]
  | sealed p m, w => by cases w <;> simp [beq]
  | absent s, w => by cases w <;> simp [beq]
  | present v, w => by cases w <;> simp [beq, beq_iff v]
  | seq f vs, w => by cases w <;> simp [beq, beqList_iff vs]
  | map f vs, w => by cases w <;> simp [beq, beqEntries_iff vs]
  | set f vs, w => by cases w <;> simp [beq, beqList_iff vs]
  | bean p vs hs, w => by
    cases w <;> simp [beq, beqFields_iff vs, beqFields_iff hs, and_assoc]

/-- Items are compared one by one, in order. -/
theorem beqList_iff : ∀ (vs ws : List Value), beqList vs ws = true ↔ vs = ws
  | [], ws => by cases ws <;> simp [beqList]
  | v :: vs, ws => by
    cases ws <;> simp [beqList, beq_iff v, beqList_iff vs]

/-- Entries are compared by key and value, in order. -/
theorem beqEntries_iff : ∀ (vs ws : List (Value × Value)), beqEntries vs ws = true ↔ vs = ws
  | [], ws => by cases ws <;> simp [beqEntries]
  | (k, v) :: vs, ws => by
    rcases ws with _ | ⟨⟨l, w⟩, ws⟩ <;>
      simp [beqEntries, beq_iff k, beq_iff v, beqEntries_iff vs]

/-- Fields are compared by name and value, in order. -/
theorem beqFields_iff : ∀ (vs ws : List (String × Value)), beqFields vs ws = true ↔ vs = ws
  | [], ws => by cases ws <;> simp [beqFields]
  | (k, v) :: vs, ws => by
    rcases ws with _ | ⟨⟨l, w⟩, ws⟩ <;>
      simp [beqFields, beq_iff v, beqFields_iff vs]

end

instance : DecidableEq Value := fun _ _ => decidable_of_iff _ (beq_iff _ _)

end Value
end BeanPath
