import BeanPath.Container.Table
import BeanPath.Update

/-!
# Places in values

A focus is a place in a value: what stands there, and the whole value with something else in its
place.  The places are the content of an optional, the fields of a bean, the items of a sequence and
the values of a map; elements of sets and keys of maps have none, because they are found by what
they are.

A value may stand at a place only if it has the type of what stands there.
-/

namespace BeanPath

/-- A place in a value. -/
structure Focus where
  /-- What stands at the place. -/
  value : Value
  /-- The whole value with something else at the place. -/
  put : Value → Value

namespace Focus

/-- The place that is all of a value. -/
def whole (v : Value) : Focus := ⟨v, id⟩

/-- A place inside the place. -/
def compose (outer inner : Focus) : Focus := ⟨inner.value, fun w => outer.put (inner.put w)⟩

/-- The whole value with another value of the same type at the place. -/
def assign? (f : Focus) (v : Value) : Option Value :=
  if v.ty = f.value.ty then some (f.put v) else none

/-- Runs an update on the place. -/
def update (f : Focus) (u : Update Value α) : Update Value α := u.within f.value f.put

end Focus

namespace Value

/-- Replaces a visible field of a bean. -/
def withField (v : Value) (name : String) (w : Value) : Value :=
  match v with
  | bean path fields hidden =>
    bean path (updateFirst (fun f => f.1 == name) (fun f => (f.1, w)) fields) hidden
  | v => v

/-- The visible field of a bean. -/
def field? (name : String) : Value → Option Value
  | bean _ fields _ => fields.lookup name
  | _ => none

/-- The place of a field in a bean. -/
def fieldPlace? (v : Value) (name : String) : Option Focus :=
  (v.field? name).map fun w => ⟨w, fun w => v.withField name w⟩

/-- The place under all optional layers. -/
def payloadPlace? (v : Value) : Option Focus := v.payload?.map fun w => ⟨w, v.withPayload⟩

/-- The place under one optional layer. -/
def contentPlace? : Value → Option Focus
  | present v => some ⟨v, present⟩
  | _ => none

/-- An optional with other content. -/
def ofContent (inner : Ty) : Option Value → Except Fault Value
  | none => .ok (absent inner)
  | some v => if v.ty = inner then .ok (present v) else .error (.typeMismatch inner v.ty)

end Value

/-- The place of an item in a sequence. -/
def SeqForm.place? (form : SeqForm) (items : List Value) (i : Nat) : Option Focus :=
  items[i]?.map fun v => ⟨v, fun w => .seq form (items.set i w)⟩

/-- The place of the value that a key finds in a map. -/
def Schema.entryPlace? (S : Schema) (form : MapForm) (es : List (Value × Value)) (k : Value) :
    Option Focus :=
  (S.entry? form es k).map fun v =>
    ⟨v, fun w => .map form (updateFirst (fun e => S.isKey form k e.1) (fun e => (e.1, w)) es)⟩

end BeanPath
