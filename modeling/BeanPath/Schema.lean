import BeanPath.Failure.Fault
import BeanPath.Value

/-!
# Schemas

A schema declares the beans: their fields, their getters and setters, the field in which another
bean is embedded as the parent, and perhaps a constructor from text.  Beans may refer to each other
in circles through containers, but a bean that embeds another one is larger than it, so chains of
parents are finite: a schema comes with a measure of its beans that shows it.

Methods are functions on the record of a bean.  A getter leaves the record as it is, and a setter
that reports an error gives no new record, so a failed call changes nothing.
-/

namespace BeanPath

/-- The visible and the hidden fields of a bean. -/
structure Record where
  fields : List (String × Value)
  hidden : List (String × Value)
  deriving DecidableEq, Repr, Inhabited

/-- A declared field. -/
structure Field where
  name : String
  ty : Ty
  deriving DecidableEq, Repr, Inhabited

/-- What a method does when it is called. -/
inductive Behaviour where
  | getter (run : Record → Except ExternalError Value)
  | setter (run : Record → Value → Except ExternalError Record)

/-- A declared method: a getter gives a value of the type, a setter takes one. -/
structure Method where
  name : String
  ty : Ty
  behaviour : Behaviour

/-- Makes a value from text. -/
abbrev TextConstructor := String → Except ExternalError Value

/-- A declared bean. -/
structure Bean where
  path : String
  fields : List Field
  methods : List Method := []
  /-- The name of the field that embeds the parent. -/
  parent : Option String := none
  fromText : Option TextConstructor := none

namespace Method

/-- The role of a method. -/
def role (m : Method) : Role :=
  match m.behaviour with
  | .getter _ => .getter
  | .setter _ => .setter

end Method

/-- The record of a bean of a type path. -/
def Value.record (path : String) : Value → Except Fault Record
  | .bean p fields hidden =>
    if p = path then .ok ⟨fields, hidden⟩ else .error (.typeMismatch (.bean path) (.bean p))
  | v => .error (.typeMismatch (.bean path) v.ty)

/-- The bean of a type path with a record. -/
def Record.value (path : String) (r : Record) : Value := .bean path r.fields r.hidden

/-- A value has a record of a bean exactly if it is the value of that record. -/
theorem Value.record_eq_ok_iff {path : String} {v : Value} {r : Record} :
    v.record path = .ok r ↔ v = r.value path := by
  unfold Value.record Record.value
  split
  · next p fields hidden =>
    split
    · next h =>
      subst h
      obtain ⟨f, h⟩ := r
      simp
    · next h =>
      obtain ⟨f, h'⟩ := r
      simp [h]
  · next h =>
    obtain ⟨f, h'⟩ := r
    simp only [reduceCtorEq, false_iff]
    exact fun e => h _ _ _ e

namespace Method

/-- Calls a getter of the bean of a type path. -/
def get (bean : String) (m : Method) (receiver : Value) : Except Fault Value :=
  match m.behaviour with
  | .setter _ => .error (.wrongRole m.name .getter)
  | .getter run => do
    let r ← receiver.record bean
    (run r).mapError (.invocation m.name)

/-- Calls a setter of the bean of a type path. -/
def set (bean : String) (m : Method) (receiver argument : Value) : Except Fault Value :=
  match m.behaviour with
  | .getter _ => .error (.wrongRole m.name .setter)
  | .setter run => do
    let r ← receiver.record bean
    if argument.ty = m.ty then
      let r ← (run r argument).mapError (.invocation m.name)
      return r.value bean
    else .error (.typeMismatch m.ty argument.ty)

end Method

namespace Bean

/-- The field of a name. -/
def field? (b : Bean) (name : String) : Option Field := b.fields.find? (·.name = name)

/-- The method of a name. -/
def method? (b : Bean) (name : String) : Option Method := b.methods.find? (·.name = name)

/-- The methods of a role. -/
def methodsOf (b : Bean) (role : Role) : List Method := b.methods.filter (·.role = role)

/-- The field that embeds the parent, if it is declared. -/
def parentField? (b : Bean) : Option Field := b.parent.bind b.field?

/-- The types of the fields and of the methods, in order. -/
def memberTypes (b : Bean) : List Ty := b.fields.map (·.ty) ++ b.methods.map (·.ty)

end Bean

/-- The measure of a type, from a measure of beans: every optional layer adds one. -/
def Ty.extent (extent : String → Nat) : Ty → Nat
  | .option t => t.extent extent + 1
  | .bean path => extent path
  | _ => 0

/-- The declared beans, and what sealed types offer besides their path. -/
structure Schema where
  beans : List Bean
  /-- The constructors from text that sealed types have, by type path. -/
  sealedFromText : String → Option TextConstructor := fun _ => none
  /-- The measure of a bean by its type path. -/
  extent : String → Nat
  /-- A bean is larger than what it embeds as its parent. -/
  parent_lt : ∀ b ∈ beans, ∀ f ∈ b.parentField?, f.ty.extent extent < extent b.path

namespace Schema

variable (S : Schema)

/-- The bean of a type path. -/
def bean? (path : String) : Option Bean := S.beans.find? (·.path = path)

/-- A parent has a smaller extent than the bean that embeds it. -/
theorem parent_extent_lt {path : String} {b : Bean} {f : Field} (hb : S.bean? path = some b)
    (hf : b.parentField? = some f) : f.ty.extent S.extent < S.extent path := by
  have hp : b.path = path := by simpa using List.find?_some hb
  exact hp ▸ S.parent_lt b (List.mem_of_find?_eq_some hb) f hf

/-- The bean whose members a type offers: that of the type itself, or under one optional layer. -/
def beanOf? : Ty → Option Bean
  | .bean path => S.bean? path
  | .option (.bean path) => S.bean? path
  | _ => none

/-- The field that embeds the parent of a type, if the type is a bean that has one. -/
def parentField? : Ty → Option Field
  | .bean path => (S.bean? path).bind Bean.parentField?
  | _ => none

/-- Going from a type to its parent makes the extent smaller, so chains of parents end. -/
theorem parentField?_extent_lt {t : Ty} {f : Field} (h : S.parentField? t = some f) :
    f.ty.extent S.extent < t.extent S.extent := by
  unfold parentField? at h
  split at h
  · obtain ⟨b, hb, hf⟩ := Option.bind_eq_some_iff.1 h
    exact S.parent_extent_lt hb hf
  · cases h

/-- The same where the bean is under an optional layer. -/
theorem beanOf?_parent_extent_lt {t : Ty} {b : Bean} {f : Field} (hb : S.beanOf? t = some b)
    (hf : b.parentField? = some f) : f.ty.extent S.extent < t.extent S.extent := by
  unfold beanOf? at hb
  split at hb
  · exact S.parent_extent_lt hb hf
  · exact Nat.lt_succ_of_lt (S.parent_extent_lt hb hf)
  · cases hb

/-- The types that a type refers to directly: those of the members of a bean, of the keys and the
values of a map, or of the elements. -/
def dependencies : Ty → List Ty
  | .bean path => ((S.bean? path).map Bean.memberTypes).getD []
  | .map _ key value => [key, value]
  | t => t.element?.toList

end Schema
end BeanPath
