import BeanPath.Value

/-!
# The order of values

Sorted maps and sets keep their keys and elements in this order.  Texts are compared by their
characters, references to types by their paths, an absent optional comes before a present one, and
containers and beans are compared part by part from the left.  Only values of one type are ever
compared; others count as equal.
-/

namespace BeanPath

/-- The order of atoms of one type. -/
def Atom.order : Atom → Atom → Ordering
  | .bool a, .bool b => compare a b
  | .char a, .char b => compare a.toNat b.toNat
  | .int _ a, .int _ b => compare a b
  | .text a, .text b => compare a b
  | .typeRef a, .typeRef b => compare a.path b.path
  | _, _ => .eq

namespace Value

mutual

/-- The order of values of one type. -/
def order : Value → Value → Ordering
  | atom a, atom b => a.order b
  | absent _, present _ => .lt
  | present _, absent _ => .gt
  | present v, present w => v.order w
  | seq _ vs, seq _ ws => orderList vs ws
  | map _ vs, map _ ws => orderEntries vs ws
  | set _ vs, set _ ws => orderList vs ws
  | bean _ vs _, bean _ ws _ => orderFields vs ws
  | _, _ => .eq
termination_by structural v => v

/-- The order of lists: the first difference decides, and a list comes before its extensions. -/
def orderList : List Value → List Value → Ordering
  | [], [] => .eq
  | [], _ :: _ => .lt
  | _ :: _, [] => .gt
  | v :: vs, w :: ws => (v.order w).then (orderList vs ws)

/-- The order of entries, keys before values. -/
def orderEntries : List (Value × Value) → List (Value × Value) → Ordering
  | [], [] => .eq
  | [], _ :: _ => .lt
  | _ :: _, [] => .gt
  | (k, v) :: vs, (l, w) :: ws => ((k.order l).then (v.order w)).then (orderEntries vs ws)

/-- The order of fields. -/
def orderFields : List (String × Value) → List (String × Value) → Ordering
  | [], [] => .eq
  | [], _ :: _ => .lt
  | _ :: _, [] => .gt
  | (_, v) :: vs, (_, w) :: ws => (v.order w).then (orderFields vs ws)

end

end Value
end BeanPath
