/-!
# The numbers that weights are made of

Weights need four operations, an order and a logarithm.  The catalog computes
with doubles; its laws are those of exact numbers, and both are instances of the
same class.
-/

namespace Gallery

class Scalar (α : Type) where
  whole : Nat → α
  add : α → α → α
  mul : α → α → α
  div : α → α → α
  ln : α → α
  /-- Whether the first number is at most the second. -/
  atMost : α → α → Bool

namespace Scalar

variable {α : Type} [Scalar α]

/-- The fraction of two whole numbers. -/
def ratio (numerator denominator : Nat) : α :=
  div (whole numerator) (whole denominator)

/-- The larger of two numbers; the first where they are not comparable. -/
def atLeast (bound value : α) : α :=
  if atMost bound value then value else bound

/-- The sum of a list, from the left. -/
def total (values : List α) : α :=
  values.foldl add (whole 0)

end Scalar

instance : Scalar Float where
  whole := Float.ofNat
  add := Float.add
  mul := Float.mul
  div := Float.div
  ln := Float.log
  atMost x y := decide (x ≤ y)

end Gallery
