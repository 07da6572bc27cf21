/-!
# Sums and powers

The sum of a list of natural numbers, and the powers of the two bases in which
numbers are kept and shown.
-/

namespace Parley

/-- The sum of some numbers. -/
def sumOf : List Nat → Nat
  | [] => 0
  | n :: rest => n + sumOf rest

/-- A power of two. -/
def twoTo (exponent : Nat) : Nat :=
  Nat.pow 2 exponent

/-- A power of ten. -/
def tenTo (exponent : Nat) : Nat :=
  Nat.pow 10 exponent

theorem sumOf_append (left right : List Nat) :
    sumOf (left ++ right) = sumOf left + sumOf right := by
  induction left with
  | nil => simp [sumOf]
  | cons n rest ih => simp only [List.cons_append, sumOf, ih, Nat.add_assoc]

end Parley
