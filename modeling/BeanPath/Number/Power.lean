/-!
# Powers of two and ten

The place values of binary words and of decimal digits.
-/

namespace BeanPath

/-- A power of two. -/
def twoTo (n : Nat) : Nat := Nat.pow 2 n

/-- A power of ten. -/
def tenTo (n : Nat) : Nat := Nat.pow 10 n

end BeanPath
