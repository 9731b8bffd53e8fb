/-!
# One slot of a list

Changing the first member that has a property leaves all others, their order and their number as
they are.  Inserting in front of the first greater member keeps a sorted list sorted.
-/

namespace BeanPath

/-- Changes the first member of a list that has a property. -/
def updateFirst (p : α → Bool) (f : α → α) : List α → List α
  | [] => []
  | a :: as => if p a then f a :: as else a :: updateFirst p f as

/-- An update that does not change what is looked at does not show there. -/
theorem map_updateFirst {p : α → Bool} {f : α → α} {g : α → β} (h : ∀ a, g (f a) = g a)
    (as : List α) : (updateFirst p f as).map g = as.map g := by
  induction as with
  | nil => rfl
  | cons a as ih => by_cases hp : p a <;> simp [updateFirst, hp, h, ih]

/-- Inserts in front of the first member of a list that is greater. -/
def insertSorted (order : α → α → Ordering) (a : α) : List α → List α
  | [] => [a]
  | b :: bs => if order a b = .lt then a :: b :: bs else b :: insertSorted order a bs

/-- Inserting in order adds one member. -/
theorem insertSorted_perm (order : α → α → Ordering) (a : α) (as : List α) :
    (insertSorted order a as).Perm (a :: as) := by
  induction as with
  | nil => exact .refl _
  | cons b bs ih =>
    unfold insertSorted
    split
    · exact .refl _
    · exact (ih.cons b).trans (.swap a b bs)

end BeanPath
