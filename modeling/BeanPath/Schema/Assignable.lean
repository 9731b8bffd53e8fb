import BeanPath.Schema

/-!
# Assignability

A value may be stored where its own type is declared, and wherever any value is.  Besides, a type
and its optional may stand for each other, and a bean may stand for the bean that it embeds as its
parent, and so on up the chain.
-/

namespace BeanPath

namespace Schema

variable (S : Schema)

-- Hypotheses that only a termination proof uses count as unused.
set_option linter.unusedVariables false

/-- Whether a value of the offered type may be stored where the declared type is. -/
def assignable (declared offered : Ty) : Bool :=
  declared == offered || declared == .any
    || (match declared with
      | .option inner => assignable inner offered
      | _ => false)
    || (match offered with
      | .option inner => assignable declared inner
      | _ => false)
    || (match h : S.parentField? offered with
      | some parent => assignable declared parent.ty
      | none => false)
termination_by declared.layers + offered.extent S.extent
decreasing_by
  · simp only [Ty.layers]; omega
  · simp only [Ty.extent]; omega
  · exact Nat.add_lt_add_left (S.parentField?_extent_lt h) _

end Schema

namespace Relation

/-- Whether a declared type stands in the relation to a requested one. -/
def accepts (S : Schema) (declared requested : Ty) : Relation → Bool
  | super => S.assignable declared requested
  | child => S.assignable requested declared
  | exact => declared == requested

end Relation
end BeanPath
